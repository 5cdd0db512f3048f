import BlockAudit.Proofs.Evaluation.Verdict
import BlockAudit.Proofs.Number.Grammar
import BlockAudit.Proofs.Value.Literal

namespace BlockAudit

open Number

namespace Value

variable {v w : Value} {i : Int}

inductive Writes : Value → Int → Prop
  | int (i : Int) : Writes (int i) i
  | text {sign s : List Char} (hsign : IsSign sign) (hne : s ≠ []) (h : ∀ c ∈ s, c.isDigit = true) :
      Writes (str (String.ofList (sign ++ s)))
        (if sign = ['-'] then -(Nat.ofDigitChars 10 s 0 : Int) else Nat.ofDigitChars 10 s 0)

theorem writes_toString (i : Int) : Writes (str (toString i)) i := by
  have htext : toString i = String.ofList (intText i) := by
    rw [intText_eq, String.ofList_toList]
  have hwrites {sign : List Char} (hsign : IsSign sign) := Writes.text hsign
    Nat.toDigits_ne_nil (isDigit_of_mem_digits i.natAbs)
  simp only [Nat.ofDigitChars_ten_toDigits] at hwrites
  rw [htext, intText]
  split
  · next hnegative =>
    have hvalue : -(i.natAbs : Int) = i := by omega
    have hminus := hwrites (Or.inr (Or.inr rfl))
    rwa [if_pos rfl, hvalue] at hminus
  · next hpositive =>
    have hvalue : (i.natAbs : Int) = i := by omega
    have hplain := hwrites (Or.inl rfl)
    rwa [if_neg (List.cons_ne_nil _ _).symm, hvalue] at hplain

theorem Writes.isNull_eq (h : v.Writes i) : v.isNull = false := by
  cases h <;> rfl

theorem Writes.exists_number? (h : v.Writes i) (hi : i.natAbs ≤ 2 ^ 53) :
    ∃ x, v.number? = .ok (some x) ∧ x.rational? = some (i : ℚ) := by
  cases h with
  | int i =>
    obtain ⟨x, hx, hworth⟩ := Binary.exists_ofInt? hi
    exact ⟨x, by rw [number?, hx], hworth⟩
  | @text sign s hsign hne h =>
    have hsmall : Nat.ofDigitChars 10 s 0 ≤ 2 ^ 53 := by
      split at hi <;> omega
    refine ⟨_, by rw [number?, String.toList_ofList, binary?_of_isDigit hsign hne h], ?_⟩
    rw [Binary.rational?_ofRatio _ hsmall]
    by_cases hminus : sign = ['-']
    · simp [hminus]
    · simp [hminus]

def NoNumber : Value → Prop
  | int _ => False
  | float x => ∃ k, x = .nan k
  | str s => ¬IsNumeral s.toList
  | bytes bs => ¬IsNumeral (asciiText bs)
  | _ => True

/-- The value is no integer, or one that does not round to 2 ^ 1024. -/
def InRange : Value → Prop
  | int i => i.natAbs < 2 ^ 1024 - 2 ^ 970
  | _ => True

theorem InRange.fits (h : v.InRange) : v.fits = true := by
  cases v with
  | int i => exact (Binary.isSome_ofInt?_iff i).mpr h
  | _ => rfl

theorem NoNumber.exists_number? (h : v.NoNumber) :
    ∃ o, v.number? = .ok o ∧ ∀ x ∈ o, ∃ k, x = .nan k := by
  have hread {s : List Char} (hs : ¬IsNumeral s) : ∀ x ∈ binary? s, ∃ k, x = .nan k := by
    intro x hx
    by_contra hnumber
    exact hs (exists_binary?_iff.mp ⟨x, hx, fun k hk => hnumber ⟨k, hk⟩⟩)
  cases v with
  | int i => cases h
  | float x =>
    obtain ⟨k, rfl⟩ := h
    exact ⟨_, rfl, fun y hy => ⟨k, (Option.some.inj hy).symm⟩⟩
  | str s => exact ⟨_, rfl, hread h⟩
  | bytes bs => exact ⟨_, rfl, hread h⟩
  | _ => exact ⟨none, rfl, nofun⟩

end Value

namespace Comparison

open Value

variable {test : Binary → Binary → Bool} {v w : Value} {i j : Int}

theorem onNumbers_of_writes (r : Int → Int → Prop) [DecidableRel r]
    (htest : ∀ {x y : Binary}, x.rational? = some (i : ℚ) → y.rational? = some (j : ℚ) →
      (test x y = true ↔ r i j))
    (hv : v.Writes i) (hw : w.Writes j) (hi : i.natAbs ≤ 2 ^ 53) (hj : j.natAbs ≤ 2 ^ 53) :
    onNumbers test v w = .ok (decide (r i j)) := by
  obtain ⟨x, hx, hi⟩ := hv.exists_number? hi
  obtain ⟨y, hy, hj⟩ := hw.exists_number? hj
  rw [onNumbers, hx, hy, ok_bind, ok_bind]
  exact congrArg Except.ok ((Bool.eq_iff_iff.mpr ((htest hi hj).trans (decide_eq_true_iff).symm)))

theorem onNumbers_of_nan
    (htest : ∀ {x y : Binary} {k : Nat}, x = .nan k ∨ y = .nan k → test x y = false)
    {o p : Option Binary} (hv : v.number? = .ok o) (hw : w.number? = .ok p)
    (h : (∀ x ∈ o, ∃ k, x = .nan k) ∨ ∀ y ∈ p, ∃ k, y = .nan k) : onNumbers test v w = .ok false := by
  rw [onNumbers, hv, hw, ok_bind, ok_bind]
  cases o with
  | none => rfl
  | some x =>
    cases p with
    | none => rfl
    | some y =>
      refine congrArg Except.ok ?_
      rcases h with hx | hy
      · obtain ⟨k, hk⟩ := hx x rfl
        exact htest (Or.inl hk)
      · obtain ⟨k, hk⟩ := hy y rfl
        exact htest (Or.inr hk)

theorem onNumbers_of_noNumber
    (htest : ∀ {x y : Binary} {k : Nat}, x = .nan k ∨ y = .nan k → test x y = false)
    (h : v.NoNumber ∧ w.InRange ∨ w.NoNumber ∧ v.InRange) : onNumbers test v w = .ok false := by
  rcases h with ⟨hv, hw⟩ | ⟨hw, hv⟩
  · obtain ⟨o, ho, hnan⟩ := hv.exists_number?
    obtain ⟨p, hp⟩ := Value.exists_number? hw.fits
    exact onNumbers_of_nan htest ho hp (Or.inl hnan)
  · obtain ⟨o, ho⟩ := Value.exists_number? hv.fits
    obtain ⟨p, hp, hnan⟩ := hw.exists_number?
    exact onNumbers_of_nan htest ho hp (Or.inr hnan)

theorem holds_of_writes (hv : v.Writes i) (hw : w.Writes j) (hi : i.natAbs ≤ 2 ^ 53)
    (hj : j.natAbs ≤ 2 ^ 53) :
    lessThan.holds v w = .ok (decide (i < j)) ∧ lessThanOrEqualTo.holds v w = .ok (decide (i ≤ j)) ∧
      greaterThan.holds v w = .ok (decide (j < i)) ∧
      greaterThanOrEqualTo.holds v w = .ok (decide (j ≤ i)) := by
  refine ⟨onNumbers_of_writes (· < ·) ?_ hv hw hi hj, onNumbers_of_writes (· ≤ ·) ?_ hv hw hi hj,
    onNumbers_of_writes (· > ·) ?_ hv hw hi hj, onNumbers_of_writes (· ≥ ·) ?_ hv hw hi hj⟩
  · exact fun hx hy => (Binary.lt_iff hx hy).trans Int.cast_lt
  · exact fun hx hy => (Binary.le_iff hx hy).trans Int.cast_le
  · exact fun hx hy => (Binary.lt_iff hy hx).trans Int.cast_lt
  · exact fun hx hy => (Binary.le_iff hy hx).trans Int.cast_le

theorem holds_of_noNumber (h : v.NoNumber ∧ w.InRange ∨ w.NoNumber ∧ v.InRange) :
    ∀ c ∈ [lessThan, lessThanOrEqualTo, greaterThan, greaterThanOrEqualTo], c.holds v w = .ok false := by
  simp only [List.forall_mem_cons]
  exact ⟨onNumbers_of_noNumber Binary.lt_nan h, onNumbers_of_noNumber Binary.le_nan h,
    onNumbers_of_noNumber (fun hnan => Binary.lt_nan hnan.symm) h,
    onNumbers_of_noNumber (fun hnan => Binary.le_nan hnan.symm) h, nofun⟩

end Comparison
end BlockAudit
