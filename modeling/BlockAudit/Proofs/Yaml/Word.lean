import BlockAudit.Proofs.Json.Word
import BlockAudit.Proofs.Text.Search
import BlockAudit.Yaml.Scalar
import Mathlib.Tactic.IntervalCases
import Mathlib.Tactic.SplitIfs

namespace BlockAudit

open Json

namespace Json

def numberChars : List Char := "0123456789+-.eE".toList

theorem mem_of_isDigit {c : Char} (h : isDigit c = true) : c ∈ "0123456789".toList := by
  simp only [isDigit, Bool.and_eq_true, decide_eq_true_eq] at h
  have hlow : 48 ≤ c.toNat := h.1
  have hhigh : c.toNat ≤ 57 := h.2
  rw [← Char.ofNat_toNat c]
  generalize c.toNat = n at hlow hhigh
  interval_cases n <;> decide

theorem mem_of_isNumberChar {c : Char} (h : isNumberChar c = true) : c ∈ numberChars := by
  rw [isNumberChar, Bool.or_eq_true] at h
  rcases h with h | h
  · have hdigits : "0123456789".toList ⊆ numberChars := by decide
    exact hdigits (mem_of_isDigit h)
  · have hothers : ['+', '-', '.', 'e', 'E'] ⊆ numberChars := by decide
    exact hothers (List.contains_iff_mem.mp h)

variable {s t digits places power : List Char}

theorem IsWhole.exists_append (h : IsWhole digits) (s : List Char) :
    ∃ c t, digits ++ s = c :: t ∧ isDigit c = true := by
  rcases h with rfl | ⟨c, t, rfl, -, hc, -⟩
  · exact ⟨'0', s, rfl, rfl⟩
  · exact ⟨c, t ++ s, rfl, hc⟩

theorem unsigned_signOf (negative : Bool) (h : IsWhole digits) (s : List Char) :
    Yaml.Look.unsigned (signOf negative ++ (digits ++ s)) = digits ++ s := by
  obtain ⟨c, t, ht, hc⟩ := h.exists_append s
  rw [ht]
  cases negative with
  | true => rfl
  | false =>
    have hplus : c ≠ '+' := by rintro rfl; cases hc
    have hminus : c ≠ '-' := by rintro rfl; cases hc
    rw [signOf, if_neg Bool.false_ne_true, List.nil_append, Yaml.Look.unsigned]
    · exact fun _ he => hplus (List.cons.inj he).1
    · exact fun _ he => hminus (List.cons.inj he).1

theorem splitSign_signOf (negative : Bool) (h : IsWhole digits) (s : List Char) :
    Number.splitSign (signOf negative ++ (digits ++ s)) = (negative, digits ++ s) := by
  obtain ⟨c, t, ht, hc⟩ := h.exists_append s
  rw [ht]
  cases negative with
  | true => rfl
  | false =>
    have hplus : c ≠ '+' := by rintro rfl; cases hc
    have hminus : c ≠ '-' := by rintro rfl; cases hc
    rw [signOf, if_neg Bool.false_ne_true, List.nil_append, Number.splitSign]
    · exact fun _ he => hminus (List.cons.inj he).1
    · exact fun _ he => hplus (List.cons.inj he).1

theorem dropWhile_eq_self {p : Char → Bool} (h : ∀ c ∈ s, p c = false) : s.dropWhile p = s := by
  cases s with
  | nil => rfl
  | cons c s => rw [List.dropWhile_cons, h c List.mem_cons_self, if_neg Bool.false_ne_true]

theorem withoutMargins_eq (h : ∀ c ∈ s, isNumberChar c = true) : Number.withoutMargins s = s := by
  have hmargins : ∀ c ∈ numberChars, Number.isMargin c = false :=
    List.all_iff_forall_prop.mp (by decide)
  have hs : ∀ c ∈ s, Number.isMargin c = false := fun c hc =>
    hmargins c (mem_of_isNumberChar (h c hc))
  have hreverse : ∀ c ∈ s.reverse, Number.isMargin c = false := fun c hc =>
    hs c (List.mem_reverse.mp hc)
  rw [Number.withoutMargins, dropWhile_eq_self hs, dropWhile_eq_self hreverse, List.reverse_reverse]

theorem withoutBars_eq (h : ∀ c ∈ s, isNumberChar c = true) : Yaml.Scalar.withoutBars s = s := by
  have hbars : ∀ c ∈ numberChars, (c != '_') = true := List.all_eq_true.mp (by decide)
  exact List.filter_eq_self.mpr fun c hc => hbars c (mem_of_isNumberChar (h c hc))

theorem small_eq (h : ∀ c ∈ s, isNumberChar c = true) : Yaml.Scalar.small s = smallPower s := by
  have hsmall : ∀ c ∈ numberChars,
      Char.ofNat (Text.toSmallAscii c.toNat) = if c = 'E' then 'e' else c :=
    List.all_iff_forall_prop.mp (by decide)
  exact List.map_congr_left fun c hc => hsmall c (mem_of_isNumberChar (h c hc))

theorem all_smallPower (h : ∀ c ∈ s, isNumberChar c = true) :
    ∀ c ∈ smallPower s, isNumberChar c = true := by
  intro c hc
  obtain ⟨d, hd, rfl⟩ := List.mem_map.mp hc
  split
  · rfl
  · exact h d hd

theorem smallPower_smallPower (s : List Char) : smallPower (smallPower s) = smallPower s := by
  rw [smallPower, smallPower, List.map_map]
  refine List.map_congr_left fun c _ => ?_
  by_cases hc : c = 'E' <;> simp [hc]

theorem smallPower_append (s t : List Char) :
    smallPower (s ++ t) = smallPower s ++ smallPower t := List.map_append

theorem smallPower_digits (h : ∀ c ∈ s, isDigit c = true) : smallPower s = s := by
  have hsmall : ∀ c ∈ "0123456789".toList, (if c = 'E' then 'e' else c) = c :=
    List.all_iff_forall_prop.mp (by decide)
  rw [smallPower, List.map_congr_left fun c hc => hsmall c (mem_of_isDigit (h c hc)), List.map_id']

theorem exists_mapM {f : Char → Option Nat} (h : ∀ c ∈ s, (f c).isSome = true) :
    ∃ ns, s.mapM f = some ns := by
  induction s with
  | nil => exact ⟨[], rfl⟩
  | cons c s ih =>
    obtain ⟨hc, hs⟩ := List.forall_mem_cons.mp h
    obtain ⟨n, hn⟩ := Option.isSome_iff_exists.mp hc
    obtain ⟨ns, hns⟩ := ih hs
    exact ⟨n :: ns, by rw [List.mapM_cons, hn, hns]; rfl⟩

theorem exists_natural? (hne : s ≠ []) (h : ∀ c ∈ s, isDigit c = true) :
    ∃ n, Number.natural? 10 s = some n := by
  have hbars : '_' ∉ s := fun hbar => by cases h '_' hbar
  have hdigits : ∀ c ∈ "0123456789".toList, (Number.digitIn? 10 c).isSome = true :=
    List.all_eq_true.mp (by decide)
  obtain ⟨ns, hns⟩ := exists_mapM fun c hc => hdigits c (mem_of_isDigit (h c hc))
  refine ⟨Number.ofDigits 10 ns, ?_⟩
  have hgroups : [s].all (!·.isEmpty) = true := by simpa using hne
  rw [Number.natural?, Number.digits?, Text.fields_of_not_mem hbars]
  simp only [hgroups, if_true, List.flatten_singleton, hns, Option.map_some]

theorem toList_ne_of_isNumberChar {words : List String} (h : ∀ c ∈ s, isNumberChar c = true)
    (hwords : words.all (fun w => !w.toList.all isNumberChar) = true) : ∀ w ∈ words, w.toList ≠ s := by
  rintro w hw rfl
  have hs := List.all_eq_true.mp hwords w hw
  rw [List.all_eq_true.mpr h] at hs
  cases hs

theorem not_contains_of_isNumberChar {words : List String} (h : ∀ c ∈ s, isNumberChar c = true)
    (hwords : words.all (fun w => !w.toList.all isNumberChar) = true) :
    words.contains (String.ofList s) = false := by
  apply Bool.eq_false_iff.mpr
  intro hmem
  exact toList_ne_of_isNumberChar h hwords _ (List.contains_iff_mem.mp hmem) String.toList_ofList

theorem any_toList_eq_false {words : List String} (h : ∀ c ∈ s, isNumberChar c = true)
    (hwords : words.all (fun w => !w.toList.all isNumberChar) = true) :
    (words.any fun w => w.toList == s) = false := by
  rw [List.any_eq_false]
  exact fun w hw heq => toList_ne_of_isNumberChar h hwords w hw (eq_of_beq heq)

theorem withoutLastFeed_eq (h : ∀ c ∈ s, isNumberChar c = true) :
    Yaml.Look.withoutLastFeed s = s := by
  apply if_neg
  intro hlast
  cases h '\n' (List.mem_of_getLast? hlast)

theorem tag_of_number (h : ∀ c ∈ s, isNumberChar c = true)
    (hnumber : Yaml.Look.isFloat s = true ∨ Yaml.Look.isInt s = true) :
    Yaml.Look.tag (String.ofList s) = if Yaml.Look.isFloat s then .float else .int := by
  have htruths : Yaml.Look.truths.contains (String.ofList s) = false :=
    not_contains_of_isNumberChar h (by decide)
  have huntruths : Yaml.Look.untruths.contains (String.ofList s) = false :=
    not_contains_of_isNumberChar h (by decide)
  unfold Yaml.Look.tag
  simp only [String.toList_ofList, withoutLastFeed_eq h, htruths, huntruths, Bool.or_false,
    Bool.false_eq_true, if_false]
  cases hfloat : Yaml.Look.isFloat s with
  | true => rfl
  | false =>
    rw [hfloat] at hnumber
    have hint := hnumber.resolve_left Bool.false_ne_true
    simp only [hint, Bool.false_eq_true, if_false, if_true]

theorem all_number (negative : Bool) (hdigits : IsWhole digits) (hs : ∀ c ∈ s, isNumberChar c = true) :
    ∀ c ∈ signOf negative ++ (digits ++ s), isNumberChar c = true := by
  have := fun c hc => isNumberChar_of_isDigit (hdigits.all_digits c hc)
  exact List.forall_mem_append.mpr
    ⟨isNumberChar_signOf negative, List.forall_mem_append.mpr ⟨this, hs⟩⟩

theorem isFloat_of_whole (negative : Bool) (h : IsWhole digits) :
    Yaml.Look.isFloat (signOf negative ++ digits) = false := by
  have hall : ∀ c ∈ signOf negative ++ digits, isNumberChar c = true := by
    simpa using all_number (s := []) negative h nofun
  have hdigits := fun c hc => isNumberChar_of_isDigit (h.all_digits c hc)
  have hpoint : '.' ∉ digits := fun hpoint => by cases h.all_digits '.' hpoint
  have hunsigned : Yaml.Look.unsigned (signOf negative ++ digits) = digits := by
    simpa using unsigned_signOf negative h []
  have hinfinities : (Yaml.Look.infinities.any fun w => w.toList == digits) = false :=
    any_toList_eq_false hdigits (by decide)
  have hnoNumbers :
      (Yaml.Look.noNumbers.any fun w => w.toList == signOf negative ++ digits) = false :=
    any_toList_eq_false hall (by decide)
  simp only [Yaml.Look.isFloat, hunsigned, hinfinities, hnoNumbers, Yaml.Look.isPointed,
    Yaml.Look.isPointedSexagesimal, Text.fields_of_not_mem hpoint, Bool.false_and, Bool.or_false]

theorem isInt_of_whole (negative : Bool) (h : IsWhole digits) :
    Yaml.Look.isInt (signOf negative ++ digits) = true := by
  have hunsigned : Yaml.Look.unsigned (signOf negative ++ digits) = digits := by
    simpa using unsigned_signOf negative h []
  rw [Yaml.Look.isInt, hunsigned]
  rcases h with rfl | ⟨c, t, rfl, hzero, hc, ht⟩
  · rfl
  · have hrest : t.all Yaml.Look.isDigitOrBar = true :=
      List.all_eq_true.mpr fun d hd => Bool.or_eq_true_iff.mpr (Or.inl (ht d hd))
    have hfirst : Yaml.Look.isNonzeroDigit c = true := by
      rw [Yaml.Look.isNonzeroDigit, Bool.and_eq_true, bne_iff_ne]
      exact ⟨hc, hzero⟩
    unfold Yaml.Look.isUnsignedInt
    split
    · rfl
    · next heq => exact absurd (List.cons.inj heq).1 hzero
    · next heq => exact absurd (List.cons.inj heq).1 hzero
    · next heq => exact absurd (List.cons.inj heq).1 hzero
    · rw [Yaml.Look.isNumber, hfirst, hrest]
      rfl

theorem exists_integer? (h : IsWhole digits) :
    ∃ n, Number.natural? 10 digits = some n ∧ Number.integer? digits = some (n : Int) := by
  obtain ⟨n, hn⟩ := exists_natural? h.ne_nil h.all_digits
  have hdigits := fun c hc => isNumberChar_of_isDigit (h.all_digits c hc)
  have hsign : Number.splitSign digits = (false, digits) := by
    simpa [signOf] using splitSign_signOf false h []
  have hbase : Number.withoutBase 10 digits = digits := by
    unfold Number.withoutBase
    split
    · exact if_neg nofun
    · rfl
  refine ⟨n, hn, ?_⟩
  rw [Number.integer?, Number.integerIn?, withoutMargins_eq hdigits, hsign]
  simp only [hbase, hn, Bool.false_eq_true, if_false]
  rfl

theorem unsignedInt_of_whole (h : IsWhole digits) {n : Nat}
    (hn : Number.integer? digits = some (n : Int)) :
    Yaml.Scalar.unsignedInt digits = .ok (n : Int) := by
  rcases h with rfl | ⟨c, t, rfl, hzero, hc, ht⟩
  · have hzero : Number.integer? ['0'] = some 0 := by decide
    rw [hzero] at hn
    rw [← Option.some.inj hn]
    rfl
  · have hcolon : (c :: t).contains ':' = false := by
      apply Bool.eq_false_iff.mpr
      intro hcolon
      rcases List.mem_cons.mp (List.contains_iff_mem.mp hcolon) with rfl | hmem
      · cases hc
      · cases ht ':' hmem
    unfold Yaml.Scalar.unsignedInt
    split
    · next heq => cases heq
    · next heq => exact absurd (List.cons.inj heq).1 hzero
    · next heq => exact absurd (List.cons.inj heq).1 hzero
    · next heq => exact absurd (List.cons.inj heq).1 hzero
    · next heq => exact absurd (List.cons.inj heq).1 hzero
    · rw [hcolon, if_neg Bool.false_ne_true, Yaml.Scalar.part, hn]

theorem int_of_whole (negative : Bool) (h : IsWhole digits) :
    Yaml.Scalar.int (String.ofList (signOf negative ++ digits)) = .ok (.int (if negative then
      -(((Number.natural? 10 digits).getD 0 : Nat) : Int)
        else (Number.natural? 10 digits).getD 0)) := by
  obtain ⟨n, hn, hinteger⟩ := exists_integer? h
  have hall : ∀ c ∈ signOf negative ++ digits, isNumberChar c = true := by
    simpa using all_number (s := []) negative h nofun
  have hsign : Number.splitSign (signOf negative ++ digits) = (negative, digits) := by
    simpa using splitSign_signOf negative h []
  have hne : (signOf negative ++ digits).isEmpty = false := by
    simp [h.ne_nil]
  rw [Yaml.Scalar.int, String.toList_ofList, withoutBars_eq hall, Yaml.Scalar.signed, hne, hsign]
  simp only [Bool.false_eq_true, if_false, hn, Option.getD_some]
  change (Yaml.Scalar.unsignedInt digits).bind _ = _
  rw [unsignedInt_of_whole h hinteger]
  rfl

def IsSignedPower (s : List Char) : Prop :=
  s = [] ∨ ∃ e sign t, s = e :: sign :: t ∧ (e = 'e' ∨ e = 'E') ∧ (sign = '+' ∨ sign = '-') ∧
    IsDigits t

theorem isSignedPower_of_isPortableWord (h : ∀ c ∈ s, isNumberChar c = true)
    (hportable : isPortableWord s = true) : isSignedPower s = true := by
  have hconstants : (["null", "true", "false"].any fun w => w.toList == s) = false :=
    any_toList_eq_false h (by decide)
  rw [isPortableWord, hconstants, Bool.false_or] at hportable
  exact (Bool.and_eq_true_iff.mp hportable).2

theorem point_not_mem_digits (h : ∀ c ∈ s, isDigit c = true) : '.' ∉ s :=
  fun hpoint => by cases h '.' hpoint

theorem point_not_mem_power (h : IsPower power) : '.' ∉ power := by
  rcases h with rfl | ⟨e, sign, t, rfl, he, hsign, -, ht⟩
  · nofun
  · simp only [List.mem_cons, List.mem_append, not_or]
    refine ⟨?_, ?_, point_not_mem_digits ht⟩
    · rcases he with rfl | rfl <;> decide
    · rcases hsign with rfl | rfl | rfl <;> decide

theorem dropWhile_mantissa (negative : Bool) (hdigits : IsWhole digits) (hplaces : IsFraction places)
    (power : List Char) : (signOf negative ++ (digits ++ (places ++ power))).dropWhile
      (fun c => c != 'e' && c != 'E') = power.dropWhile fun c => c != 'e' && c != 'E' := by
  have hletters : ∀ c ∈ "0123456789".toList, (c != 'e' && c != 'E') = true :=
    List.all_eq_true.mp (by decide)
  have hmantissa : ∀ c ∈ signOf negative ++ digits ++ places, (c != 'e' && c != 'E') = true := by
    refine List.forall_mem_append.mpr ⟨List.forall_mem_append.mpr ⟨?_, ?_⟩, ?_⟩
    · cases negative <;> exact List.all_eq_true.mp rfl
    · exact fun c hc => hletters c (mem_of_isDigit (hdigits.all_digits c hc))
    · rcases hplaces with rfl | ⟨t, rfl, -, ht⟩
      · nofun
      · exact List.forall_mem_cons.mpr ⟨rfl, fun c hc => hletters c (mem_of_isDigit (ht c hc))⟩
  rw [← List.append_assoc, ← List.append_assoc]
  exact List.dropWhile_append_of_pos hmantissa

theorem point_not_mem_of_no_fraction (negative : Bool) (hdigits : IsWhole digits)
    (hpower : IsPower power) : '.' ∉ signOf negative ++ (digits ++ power) := by
  simp only [List.mem_append, not_or]
  refine ⟨?_, point_not_mem_digits hdigits.all_digits, point_not_mem_power hpower⟩
  cases negative <;> decide

/-- A portable number with a fraction or an exponent has a fraction, and its exponent has a sign. -/
theorem signed_of_portable (negative : Bool) (hdigits : IsWhole digits) (hplaces : IsFraction places)
    (hpower : IsPower power) (hsome : places ≠ [] ∨ power ≠ [])
    (hportable : isPortableWord (signOf negative ++ (digits ++ (places ++ power))) = true) :
    (∃ t, places = '.' :: t ∧ IsDigits t) ∧ IsSignedPower power := by
  have hall := all_number negative hdigits
    (List.forall_mem_append.mpr ⟨hplaces.all_numberChars, hpower.all_numberChars⟩)
  have hsigned := isSignedPower_of_isPortableWord hall hportable
  rw [isSignedPower, dropWhile_mantissa negative hdigits hplaces] at hsigned
  rcases hpower with rfl | ⟨e, sign, t, rfl, he, hsign, ht⟩
  · refine ⟨?_, Or.inl rfl⟩
    rcases hplaces with rfl | hplaces
    · rcases hsome with h | h <;> exact absurd rfl h
    · exact hplaces
  · have hstop : (e != 'e' && e != 'E') = false := by rcases he with rfl | rfl <;> rfl
    rw [List.dropWhile_cons, hstop, if_neg Bool.false_ne_true] at hsigned
    simp only [Bool.and_eq_true, Bool.or_eq_true, beq_iff_eq] at hsigned
    obtain ⟨hpoint, hhead⟩ := hsigned
    constructor
    · rcases hplaces with rfl | hplaces
      · exact (point_not_mem_of_no_fraction negative hdigits (Or.inr ⟨e, sign, t, rfl, he, hsign, ht⟩)
          (List.contains_iff_mem.mp hpoint)).elim
      · exact hplaces
    · rcases hsign with rfl | rfl | rfl
      · obtain ⟨hne, hdigits⟩ := ht
        cases t with
        | nil => exact (hne rfl).elim
        | cons c t =>
          have hc := hdigits c List.mem_cons_self
          rcases hhead with hhead | hhead <;> cases hhead <;> cases hc
      · exact Or.inr ⟨e, '+', t, rfl, he, Or.inl rfl, ht⟩
      · exact Or.inr ⟨e, '-', t, rfl, he, Or.inr rfl, ht⟩

theorem IsSignedPower.isPower (h : IsSignedPower power) : IsPower power := by
  rcases h with rfl | ⟨e, sign, t, rfl, he, hsign, ht⟩
  · exact Or.inl rfl
  · refine Or.inr ⟨e, [sign], t, rfl, he, ?_, ht⟩
    rcases hsign with rfl | rfl
    · exact Or.inr (Or.inl rfl)
    · exact Or.inr (Or.inr rfl)

theorem isExponent_of_signed (h : IsSignedPower power) : Yaml.Look.isExponent power = true := by
  rcases h with rfl | ⟨e, sign, t, rfl, he, hsign, hne, ht⟩
  · rfl
  · have hdigits : Yaml.Look.someOf Yaml.isDigit t = true := by
      rw [Yaml.Look.someOf, Bool.and_eq_true, List.all_eq_true]
      exact ⟨by simpa using hne, ht⟩
    rcases he with rfl | rfl <;> rcases hsign with rfl | rfl <;> exact hdigits

theorem dropWhile_power (h : IsSignedPower power) :
    power.dropWhile Yaml.Look.isDigitOrBar = power := by
  rcases h with rfl | ⟨e, sign, t, rfl, he, -⟩
  · rfl
  · rcases he with rfl | rfl <;> rfl

theorem isNumber_of_digits (h : IsDigits s) : Yaml.Look.isNumber Yaml.isDigit s = true := by
  cases s with
  | nil => exact (h.1 rfl).elim
  | cons c s =>
    obtain ⟨hc, hs⟩ := List.forall_mem_cons.mp h.2
    refine Bool.and_eq_true_iff.mpr ⟨hc, List.all_eq_true.mpr fun d hd => ?_⟩
    exact Bool.or_eq_true_iff.mpr (Or.inl (hs d hd))

theorem isPointed_of_signed (hdigits : IsWhole digits) (ht : IsDigits t)
    (hpower : IsSignedPower power) :
    Yaml.Look.isPointed (digits ++ ('.' :: t ++ power)) = true := by
  have hpoint : '.' ∉ t ++ power :=
    List.not_mem_append (point_not_mem_digits ht.2) (point_not_mem_power hpower.isPower)
  have hfields : Text.fields '.' (digits ++ ('.' :: t ++ power)) = [digits, t ++ power] :=
    Text.fields_append (point_not_mem_digits hdigits.all_digits) hpoint
  have hbars : ∀ c ∈ t, Yaml.Look.isDigitOrBar c = true := fun c hc =>
    Bool.or_eq_true_iff.mpr (Or.inl (ht.2 c hc))
  have hdrop : (t ++ power).dropWhile Yaml.Look.isDigitOrBar = power := by
    rw [List.dropWhile_append_of_pos hbars, dropWhile_power hpower]
  rw [Yaml.Look.isPointed, hfields]
  split
  · next heq => exact (hdigits.ne_nil (List.cons.inj heq).1).elim
  · next whole fraction _ heq =>
    cases heq
    rw [isNumber_of_digits ⟨hdigits.ne_nil, hdigits.all_digits⟩, Yaml.Look.isFraction, hdrop,
      isExponent_of_signed hpower]
    rfl
  · next hne => exact (hne _ _ rfl).elim

theorem isFloat_of_signed (negative : Bool) (hdigits : IsWhole digits) (ht : IsDigits t)
    (hpower : IsSignedPower power) :
    Yaml.Look.isFloat (signOf negative ++ (digits ++ ('.' :: t ++ power))) = true := by
  obtain ⟨c, u, hcons, hc⟩ := hdigits.exists_append ('.' :: t ++ power)
  have hhead : (digits ++ ('.' :: t ++ power)).head? ≠ some '.' := by
    rw [hcons]
    intro h
    cases Option.some.inj h
    cases hc
  simp only [Yaml.Look.isFloat, unsigned_signOf negative hdigits,
    isPointed_of_signed hdigits ht hpower, Bool.true_and, Bool.or_eq_true, bne_iff_ne, ne_eq, hhead,
    not_false_eq_true, or_true, true_or]

theorem ofDecimal_neg (digits : Nat) (power : Int) :
    Number.Binary.ofDecimal true digits power =
      (Number.Binary.ofDecimal false digits power).neg := by
  have hratio : ∀ num den, Number.Binary.ofRatio true num den =
      (Number.Binary.ofRatio false num den).neg := by
    intro num den
    simp only [Number.Binary.ofRatio]
    split_ifs <;> rfl
  unfold Number.Binary.ofDecimal
  split_ifs <;> first | rfl | exact hratio _ _

theorem unsignedBinary?_neg (s : List Char) : Number.unsignedBinary? true s =
    (Number.unsignedBinary? false s).map Number.Binary.neg := by
  unfold Number.unsignedBinary?
  split_ifs
  · rfl
  · rfl
  · split
    · next point _ =>
      cases Number.fixedPoint? point with
      | none => rfl
      | some r => exact congrArg some (ofDecimal_neg _ _)
    · next point power _ =>
      cases Number.fixedPoint? point with
      | none => rfl
      | some r =>
        cases Number.exponent? power with
        | none => rfl
        | some e => exact congrArg some (ofDecimal_neg _ _)
    · rfl

theorem unsignedBinary?_signed (negative : Bool) (s : List Char) :
    Number.unsignedBinary? negative s = (Number.unsignedBinary? false s).map fun x =>
      if negative then x.neg else x := by
  cases negative with
  | true => exact unsignedBinary?_neg s
  | false => exact Option.map_id'.symm

theorem binary?_of_number (h : ∀ c ∈ s, isNumberChar c = true)
    (hsign : Number.splitSign s = (false, s)) (hsmall : smallPower s = s) :
    Number.binary? s = Number.unsignedBinary? false s := by
  have hmap : s.map (fun c => Char.ofNat (Text.toSmallAscii c.toNat)) = s :=
    (small_eq h).trans hsmall
  rw [Number.binary?, withoutMargins_eq h, hsign]
  simp only [hmap]

theorem unsignedFloat_of_number (h : ∀ c ∈ s, isNumberChar c = true)
    (hsign : Number.splitSign s = (false, s)) (hsmall : smallPower s = s) {x : Number.Binary}
    (hx : Number.unsignedBinary? false s = some x) : Yaml.Scalar.unsignedFloat s = .ok x := by
  have hinfinity : s ≠ ".inf".toList := by
    rintro rfl
    cases h 'i' (by decide)
  have hnoNumber : s ≠ ".nan".toList := by
    rintro rfl
    cases h 'n' (by decide)
  have hcolon : s.contains ':' = false := by
    apply Bool.eq_false_iff.mpr
    intro hcolon
    cases h ':' (List.contains_iff_mem.mp hcolon)
  rw [Yaml.Scalar.unsignedFloat, if_neg hinfinity, if_neg hnoNumber, hcolon,
    if_neg Bool.false_ne_true, Yaml.Scalar.floatPart, binary?_of_number h hsign hsmall, hx]

theorem float_of_number (negative : Bool) (hdigits : IsWhole digits)
    (hs : ∀ c ∈ s, isNumberChar c = true) {x : Number.Binary}
    (hx : Number.unsignedBinary? negative (smallPower (digits ++ s)) = some x) :
    Yaml.Scalar.float (String.ofList (signOf negative ++ (digits ++ s))) = .ok (.float x) := by
  have hall := all_number negative hdigits hs
  have hsmall : smallPower (digits ++ s) = digits ++ smallPower s := by
    rw [smallPower_append, smallPower_digits hdigits.all_digits]
  have hword : Yaml.Scalar.small (signOf negative ++ (digits ++ s)) =
      signOf negative ++ (digits ++ smallPower s) := by
    rw [small_eq hall, smallPower_append, hsmall]
    cases negative <;> rfl
  have hbody : ∀ c ∈ digits ++ smallPower s, isNumberChar c = true :=
    List.forall_mem_append.mpr ⟨fun c hc => isNumberChar_of_isDigit (hdigits.all_digits c hc),
      all_smallPower hs⟩
  have hbodySmall : smallPower (digits ++ smallPower s) = digits ++ smallPower s := by
    rw [← hsmall, smallPower_smallPower]
  have hsign : Number.splitSign (digits ++ smallPower s) = (false, digits ++ smallPower s) := by
    simpa [signOf] using splitSign_signOf false hdigits (smallPower s)
  have hne : (signOf negative ++ (digits ++ smallPower s)).isEmpty = false := by
    simp [hdigits.ne_nil]
  rw [hsmall, unsignedBinary?_signed] at hx
  obtain ⟨y, hy, rfl⟩ := Option.map_eq_some_iff.mp hx
  rw [Yaml.Scalar.float, String.toList_ofList, withoutBars_eq hall, hword, Yaml.Scalar.signed, hne,
    splitSign_signOf negative hdigits]
  change (Yaml.Scalar.unsignedFloat (digits ++ smallPower s)).bind _ = _
  rw [unsignedFloat_of_number hbody hsign hbodySmall hy]
  rfl

theorem value?_of_word {w : List Char} {v : Value} (h : Word w v)
    (hportable : isPortableWord w = true) :
    Yaml.Scalar.value? (Yaml.Look.tag (String.ofList w)) (String.ofList w) = some (.ok v) := by
  cases h with
  | null => rfl
  | truth => rfl
  | untruth => rfl
  | @int negative digits hdigits =>
    have hall : ∀ c ∈ signOf negative ++ digits, isNumberChar c = true := by
      simpa using all_number (s := []) negative hdigits nofun
    rw [tag_of_number hall (Or.inr (isInt_of_whole negative hdigits)),
      isFloat_of_whole negative hdigits, if_neg Bool.false_ne_true]
    exact congrArg some (int_of_whole negative hdigits)
  | @float negative digits places power x hdigits hplaces hpower hsome hx =>
    rw [List.append_assoc] at hportable hx ⊢
    have hnumber := List.forall_mem_append.mpr ⟨hplaces.all_numberChars, hpower.all_numberChars⟩
    obtain ⟨⟨t, rfl, ht⟩, hsigned⟩ :=
      signed_of_portable negative hdigits hplaces hpower hsome hportable
    have hfloat := isFloat_of_signed negative hdigits ht hsigned
    rw [tag_of_number (all_number negative hdigits hnumber) (Or.inl hfloat), if_pos hfloat]
    exact congrArg some (float_of_number negative hdigits hnumber hx)

end Json
end BlockAudit
