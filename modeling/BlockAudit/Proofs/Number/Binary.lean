import BlockAudit.Number.Binary
import Mathlib.Algebra.Order.Field.Power
import Mathlib.Data.Int.Cast.Lemmas
import Mathlib.Data.Rat.Cast.Order
import Mathlib.Tactic.Ring
/-!
What binary numbers are worth. Their order is that of the rationals, integers of up to 53 binary digits
are kept as they are, and an integer is out of range only if it would round to 2 ^ 1024.
-/

namespace BlockAudit.Number

theorem twoTo_eq (n : Nat) : twoTo n = 2 ^ n := rfl

theorem two_pow_eq_mul {i : Nat} (j k : Nat) (h : i = j + k) : 2 ^ i = 2 ^ j * 2 ^ k := h ▸ pow_add 2 j k

theorem roundQuotient_one (n : Nat) : roundQuotient n 1 = n := by
  simp [roundQuotient, Nat.mod_one]

theorem roundQuotient_lt {num den k : Nat} (hden : 0 < den) (h : 2 * num + den < 2 * (k * den)) :
    roundQuotient num den < k := by
  have hnum : num / den * den + num % den = num := Nat.div_add_mod' num den
  have hrest : num % den < den := Nat.mod_lt num hden
  have hdown : num / den < k := Nat.lt_of_mul_lt_mul_right (a := den) (by omega)
  have hup (hhalf : den ≤ 2 * (num % den)) : num / den + 1 < k := by
    apply Nat.lt_of_mul_lt_mul_right (a := den)
    rw [Nat.succ_mul]
    omega
  unfold roundQuotient
  dsimp only
  split_ifs with hbelow habove
  · exact hdown
  · exact hup (by omega)
  · have htie := hup (by omega)
    omega

theorem le_roundQuotient {num den k : Nat} (hden : 0 < den) (hk : k % 2 = 0)
    (h : 2 * (k * den) ≤ 2 * num + den) : k ≤ roundQuotient num den := by
  have hnum : num / den * den + num % den = num := Nat.div_add_mod' num den
  have hrest : num % den < den := Nat.mod_lt num hden
  have hdown (hbelow : 2 * (num % den) < den) : k < num / den + 1 := by
    apply Nat.lt_of_mul_lt_mul_right (a := den)
    rw [Nat.succ_mul]
    omega
  have hup : k < num / den + 2 := by
    apply Nat.lt_of_mul_lt_mul_right (a := den)
    rw [Nat.add_mul]
    omega
  unfold roundQuotient
  dsimp only
  split_ifs with hbelow habove
  · exact Nat.lt_succ_iff.mp (hdown hbelow)
  · omega
  · omega

namespace Binary

def rational? : Binary → Option ℚ
  | finite s m e => some ((if s then -1 else 1) * (m * 2 ^ e))
  | _ => none

theorem cast_scaled (s : Bool) (m : Nat) {e low : Int} (h : low ≤ e) :
    (scaled s m e low : ℚ) * 2 ^ low = (if s then -1 else 1) * (m * 2 ^ e) := by
  have hexponent : ((e - low).toNat : Int) + low = e := by omega
  have hpower : ((2 ^ (e - low).toNat : Nat) : ℚ) * 2 ^ low = 2 ^ e := by
    rw [Nat.cast_pow, Nat.cast_ofNat, ← zpow_natCast, ← zpow_add₀ two_ne_zero, hexponent]
  have hmagnitude : ((m * 2 ^ (e - low).toNat : Nat) : ℚ) * 2 ^ low = m * 2 ^ e := by
    rw [Nat.cast_mul, mul_assoc, hpower]
  rw [← hmagnitude, scaled, twoTo_eq]
  cases s <;> simp

theorem compare?_eq {x y : Binary} {p q : ℚ} (hx : x.rational? = some p) (hy : y.rational? = some q) :
    x.compare? y = some (compare p q) := by
  cases x with
  | finite s m e =>
    cases y with
    | finite t n f =>
      cases hx
      cases hy
      have hmono : StrictMono fun i : Int => (i : ℚ) * 2 ^ min e f := fun i j hij =>
        mul_lt_mul_of_pos_right (Int.cast_lt.mpr hij) (zpow_pos two_pos _)
      rw [compare?, ← cast_scaled s m (min_le_left e f), ← cast_scaled t n (min_le_right e f),
        ← cmp_eq_compare, ← cmp_eq_compare, hmono.cmp_map_eq]
    | _ => cases hy
  | _ => cases hx

theorem lt_iff {x y : Binary} {p q : ℚ} (hx : x.rational? = some p) (hy : y.rational? = some q) :
    x.lt y = true ↔ p < q := by
  rw [lt, compare?_eq hx hy, beq_iff_eq, Option.some_inj, compare_lt_iff_lt]

theorem le_iff {x y : Binary} {p q : ℚ} (hx : x.rational? = some p) (hy : y.rational? = some q) :
    x.le y = true ↔ p ≤ q := by
  rw [le, Bool.or_eq_true, lt_iff hx hy, eq, compare?_eq hx hy, beq_iff_eq, Option.some_inj,
    compare_eq_iff_eq, le_iff_lt_or_eq]

theorem compare?_nan {x y : Binary} {k : Nat} (h : x = nan k ∨ y = nan k) : x.compare? y = none := by
  rcases h with rfl | rfl
  · rfl
  · cases x <;> rfl

theorem lt_nan {x y : Binary} {k : Nat} (h : x = nan k ∨ y = nan k) : x.lt y = false := by
  rw [lt, compare?_nan h]
  rfl

theorem le_nan {x y : Binary} {k : Nat} (h : x = nan k ∨ y = nan k) : x.le y = false := by
  rw [le, lt_nan h, eq, compare?_nan h]
  rfl

theorem leadingExponent_one {n : Nat} (h : n ≠ 0) : leadingExponent n 1 = n.log2 - 52 := by
  have hlow : 2 ^ n.log2 ≤ n := Nat.log2_self_le h
  have hexponent : ((n.log2 : Int) - 52).toNat + 52 = n.log2 + (-((n.log2 : Int) - 52)).toNat := by
    omega
  have hscaled : 2 ^ ((n.log2 : Int) - 52).toNat * 2 ^ 52 ≤ n * 2 ^ (-((n.log2 : Int) - 52)).toNat := by
    rw [← pow_add, hexponent, pow_add]
    exact Nat.mul_le_mul_right _ hlow
  have hone : ((1 : Nat).log2 : Int) = 0 := rfl
  rw [leadingExponent, hone, sub_zero, twoTo_eq, twoTo_eq, twoTo_eq, one_mul, if_neg hscaled.not_gt]

theorem ofRatio_one (s : Bool) {n : Nat} (h : n ≠ 0) : ofRatio s n 1 =
    let m := roundQuotient (n * 2 ^ (52 - n.log2)) (2 ^ (n.log2 - 52))
    if m = 2 ^ 53 then
      if 1023 ≤ n.log2 then infinite s else finite s (2 ^ 52) (n.log2 - 51)
    else if 1023 < n.log2 then infinite s else finite s m (n.log2 - 52) := by
  have hmax : max ((n.log2 : Int) - 52) minExponent = n.log2 - 52 := by
    rw [minExponent]
    omega
  have hnext : (n.log2 : Int) - 52 + 1 = n.log2 - 51 := by omega
  have hdown : (-((n.log2 : Int) - 52)).toNat = 52 - n.log2 := by omega
  have hup : ((n.log2 : Int) - 52).toNat = n.log2 - 52 := by omega
  have hcarried : ((n.log2 : Int) - 51 > maxExponent) = (1023 ≤ n.log2) := by
    rw [maxExponent]
    exact propext (by omega)
  have hlarge : ((n.log2 : Int) - 52 > maxExponent) = (1023 < n.log2) := by
    rw [maxExponent]
    exact propext (by omega)
  rw [ofRatio, if_neg h, leadingExponent_one h]
  simp only [hmax, hnext, hdown, hup, hcarried, hlarge, twoTo_eq, one_mul]

theorem rational?_ofRatio (s : Bool) {n : Nat} (h : n ≤ 2 ^ 53) :
    (ofRatio s n 1).rational? = some ((if s then -1 else 1) * (n : ℚ)) := by
  by_cases hzero : n = 0
  · simp [ofRatio, rational?, hzero]
  rcases h.lt_or_eq with hlt | rfl
  · have hlog : n.log2 ≤ 52 := Nat.lt_succ_iff.mp ((Nat.log2_lt hzero).mpr hlt)
    have hsum : n.log2 + 1 + (52 - n.log2) = 53 := by omega
    have hsmall : n * 2 ^ (52 - n.log2) < 2 ^ 53 := by
      rw [← hsum, pow_add]
      exact Nat.mul_lt_mul_of_pos_right Nat.lt_log2_self (Nat.two_pow_pos _)
    have hworth : ((n * 2 ^ (52 - n.log2) : Nat) : ℚ) * 2 ^ ((n.log2 : Int) - 52) = n := by
      have hexponent : ((52 - n.log2 : Nat) : Int) + (n.log2 - 52) = 0 := by omega
      rw [Nat.cast_mul, Nat.cast_pow, Nat.cast_ofNat, mul_assoc, ← zpow_natCast,
        ← zpow_add₀ two_ne_zero, hexponent, zpow_zero, mul_one]
    rw [ofRatio_one s hzero, Nat.sub_eq_zero_of_le hlog, pow_zero, roundQuotient_one]
    dsimp only
    rw [if_neg hsmall.ne, if_neg (by omega), rational?, hworth]
  · have hcarried : ofRatio s (2 ^ 53) 1 = finite s (2 ^ 52) 1 := by
      cases s <;> rfl
    have hworth : ((2 ^ 52 : Nat) : ℚ) * 2 ^ (1 : Int) = (2 ^ 53 : Nat) := by norm_num
    rw [hcarried, rational?, hworth]

/-- At the greatest exponent a mantissa is carried over from the middle between the greatest number and
the next power of two. -/
theorem roundQuotient_eq_carry_iff {n : Nat} (h : n < 2 ^ 1024) :
    roundQuotient n (2 ^ 971) = 2 ^ 53 ↔ 2 ^ 1024 - 2 ^ 970 ≤ n := by
  have hhalf : 2 ^ 971 = 2 ^ 1 * 2 ^ 970 := two_pow_eq_mul 1 970 rfl
  have hbound : 2 ^ 1024 = 2 ^ 53 * 2 ^ 971 := two_pow_eq_mul 53 971 rfl
  have hpos : 0 < 2 ^ 971 := pow_pos two_pos 971
  constructor
  · intro hcarried
    by_contra hless
    have hlt : roundQuotient n (2 ^ 971) < 2 ^ 53 := by
      apply roundQuotient_lt hpos
      omega
    exact hlt.ne hcarried
  · intro hlarge
    have hlt : roundQuotient n (2 ^ 971) < 2 ^ 53 + 1 := by
      apply roundQuotient_lt hpos
      rw [Nat.add_mul]
      omega
    have hge : 2 ^ 53 ≤ roundQuotient n (2 ^ 971) := by
      apply le_roundQuotient hpos rfl
      omega
    exact (Nat.lt_succ_iff.mp hlt).antisymm hge

theorem ofRatio_ne_infinite (s : Bool) {n : Nat} (hlog : n.log2 < 1023) :
    ofRatio s n 1 ≠ infinite s := by
  by_cases hzero : n = 0
  · rw [ofRatio, if_pos hzero]
    nofun
  · rw [ofRatio_one s hzero]
    dsimp only
    rw [if_neg (Nat.not_le_of_lt hlog), if_neg hlog.le.not_gt]
    split_ifs <;> nofun

theorem ofRatio_eq_infinite (s : Bool) {n : Nat} (hzero : n ≠ 0) (hlog : 1023 < n.log2) :
    ofRatio s n 1 = infinite s := by
  rw [ofRatio_one s hzero]
  dsimp only
  rw [if_pos hlog.le, if_pos hlog, ite_self]

theorem ofRatio_eq_infinite_iff_carry (s : Bool) {n : Nat} (hzero : n ≠ 0) (hlog : n.log2 = 1023) :
    ofRatio s n 1 = infinite s ↔ roundQuotient n (2 ^ 971) = 2 ^ 53 := by
  have hmantissa : roundQuotient (n * 2 ^ (52 - 1023)) (2 ^ (1023 - 52)) =
      roundQuotient n (2 ^ 971) := by
    rw [Nat.sub_eq_zero_of_le (by omega), pow_zero, mul_one]
  rw [ofRatio_one s hzero, hlog, hmantissa]
  dsimp only
  rw [if_pos le_rfl, if_neg (lt_irrefl _)]
  split_ifs with hcarried
  · exact iff_of_true rfl hcarried
  · exact iff_of_false nofun hcarried

theorem ofRatio_eq_infinite_iff (s : Bool) (n : Nat) :
    ofRatio s n 1 = infinite s ↔ 2 ^ 1024 - 2 ^ 970 ≤ n := by
  have hbelow : 2 ^ 1023 = 2 ^ 53 * 2 ^ 970 := two_pow_eq_mul 53 970 rfl
  have hbound : 2 ^ 1024 = 2 ^ 54 * 2 ^ 970 := two_pow_eq_mul 54 970 rfl
  have hpos : 0 < 2 ^ 970 := pow_pos two_pos 970
  have hhigh : n < 2 ^ (n.log2 + 1) := Nat.lt_log2_self
  rcases lt_trichotomy n.log2 1023 with hlog | hlog | hlog
  · have hsmall : 2 ^ (n.log2 + 1) ≤ 2 ^ 1023 := pow_le_pow_right₀ one_le_two hlog
    refine iff_of_false (ofRatio_ne_infinite s hlog) ?_
    omega
  · have hzero : n ≠ 0 := by
      rintro rfl
      cases hlog
    have hnext : n.log2 + 1 = 1024 := by omega
    rw [hnext] at hhigh
    rw [ofRatio_eq_infinite_iff_carry s hzero hlog, roundQuotient_eq_carry_iff hhigh]
  · have hzero : n ≠ 0 := by
      rintro rfl
      cases hlog
    have hlow : 2 ^ n.log2 ≤ n := Nat.log2_self_le hzero
    have hlarge : 2 ^ 1024 ≤ 2 ^ n.log2 := pow_le_pow_right₀ one_le_two hlog
    refine iff_of_true (ofRatio_eq_infinite s hzero hlog) ?_
    omega

theorem cast_natAbs (n : Int) : (if decide (n < 0) then -1 else 1) * (n.natAbs : ℚ) = n := by
  rcases lt_or_ge n 0 with hn | hn
  · rw [if_pos (decide_eq_true hn), Nat.cast_natAbs, abs_of_neg hn, Int.cast_neg, neg_one_mul, neg_neg]
  · rw [if_neg (by simpa using hn), Nat.cast_natAbs, abs_of_nonneg hn, one_mul]

theorem ofRatio_cases (s : Bool) (num den : Nat) :
    ofRatio s num den = infinite s ∨ ∃ m e, ofRatio s num den = finite s m e := by
  unfold ofRatio
  dsimp only
  split_ifs
  · exact Or.inr ⟨_, _, rfl⟩
  · exact Or.inl rfl
  · exact Or.inr ⟨_, _, rfl⟩
  · exact Or.inl rfl
  · exact Or.inr ⟨_, _, rfl⟩

theorem exists_ofInt? {n : Int} (h : n.natAbs ≤ 2 ^ 53) :
    ∃ x, ofInt? n = some x ∧ x.rational? = some (n : ℚ) := by
  have hworth := rational?_ofRatio (n < 0) h
  rw [cast_natAbs] at hworth
  rw [ofInt?]
  rcases ofRatio_cases (n < 0) n.natAbs 1 with hx | ⟨m, e, hx⟩
  · rw [hx] at hworth
    cases hworth
  · rw [hx] at hworth ⊢
    exact ⟨_, rfl, hworth⟩

theorem isSome_ofInt?_iff (n : Int) : (ofInt? n).isSome = true ↔ n.natAbs < 2 ^ 1024 - 2 ^ 970 := by
  rw [← not_le, ← ofRatio_eq_infinite_iff (n < 0), ofInt?]
  rcases ofRatio_cases (n < 0) n.natAbs 1 with hx | ⟨m, e, hx⟩
  · rw [hx]
    exact iff_of_false nofun fun h => h rfl
  · rw [hx]
    exact iff_of_true rfl nofun

end Binary
end BlockAudit.Number
