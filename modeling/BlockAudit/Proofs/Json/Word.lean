import BlockAudit.Proofs.Json.Portable
import Mathlib.Data.Bool.AllAny
import Mathlib.Data.List.TakeDrop
import Mathlib.Data.List.TakeWhile

namespace BlockAudit.Json

def IsWhole (s : List Char) : Prop :=
  s = ['0'] ∨ ∃ c t, s = c :: t ∧ c ≠ '0' ∧ isDigit c = true ∧ ∀ d ∈ t, isDigit d = true

def IsDigits (s : List Char) : Prop := s ≠ [] ∧ ∀ d ∈ s, isDigit d = true

def IsFraction (s : List Char) : Prop := s = [] ∨ ∃ t, s = '.' :: t ∧ IsDigits t

def IsPower (s : List Char) : Prop :=
  s = [] ∨ ∃ e sign t, s = e :: (sign ++ t) ∧ (e = 'e' ∨ e = 'E') ∧
    (sign = [] ∨ sign = ['+'] ∨ sign = ['-']) ∧ IsDigits t

def signOf (negative : Bool) : List Char := if negative then ['-'] else []

def smallPower (s : List Char) : List Char := s.map fun c => if c = 'E' then 'e' else c

inductive Word : List Char → Value → Prop
  | null : Word "null".toList .null
  | truth : Word "true".toList (.bool true)
  | untruth : Word "false".toList (.bool false)
  | int {negative : Bool} {digits : List Char} : IsWhole digits →
      Word (signOf negative ++ digits) (.int (if negative then
        -(((Number.natural? 10 digits).getD 0 : Nat) : Int) else (Number.natural? 10 digits).getD 0))
  | float {negative : Bool} {digits places power : List Char} {x : Number.Binary} :
      IsWhole digits → IsFraction places → IsPower power → places ≠ [] ∨ power ≠ [] →
      Number.unsignedBinary? negative (smallPower (digits ++ places ++ power)) = some x →
      Word (signOf negative ++ (digits ++ places ++ power)) (.float x)

theorem span_eq {p : Char → Bool} {s t rest : List Char} (h : s.span p = (t, rest)) :
    s = t ++ rest ∧ ∀ c ∈ t, p c = true := by
  rw [List.span_eq_takeWhile_dropWhile] at h
  cases h
  refine ⟨List.takeWhile_append_dropWhile.symm, fun c hc => ?_⟩
  exact List.mem_takeWhile_imp hc

theorem whole?_eq {s digits rest : List Char} (h : whole? s = some (digits, rest)) :
    s = digits ++ rest ∧ IsWhole digits := by
  unfold whole? at h
  split at h
  · cases h
    exact ⟨rfl, Or.inl rfl⟩
  · next c s hzero =>
    split at h
    · next hdigit =>
      obtain ⟨hs, hall⟩ := span_eq (p := isDigit) (s := s) rfl
      cases h
      refine ⟨congrArg (c :: ·) hs, Or.inr ⟨c, _, rfl, ?_, hdigit, hall⟩⟩
      exact fun h => hzero h
    · cases h
  · cases h

theorem fraction_eq (s : List Char) :
    s = (fraction s).1 ++ (fraction s).2 ∧ IsFraction (fraction s).1 := by
  unfold fraction
  split
  · next t =>
    split
    · exact ⟨rfl, Or.inl rfl⟩
    · next digits rest hempty hspan =>
      obtain ⟨hs, hall⟩ := span_eq hspan
      refine ⟨congrArg ('.' :: ·) hs, Or.inr ⟨digits, rfl, ?_, hall⟩⟩
      exact fun h => hempty h
  · exact ⟨rfl, Or.inl rfl⟩

theorem signed_eq (s : List Char) : s = (signed s).1 ++ (signed s).2 ∧
    ((signed s).1 = [] ∨ (signed s).1 = ['+'] ∨ (signed s).1 = ['-']) := by
  unfold signed
  split
  · exact ⟨rfl, Or.inr (Or.inl rfl)⟩
  · exact ⟨rfl, Or.inr (Or.inr rfl)⟩
  · exact ⟨rfl, Or.inl rfl⟩

theorem exponent_eq (s : List Char) :
    s = (exponent s).1 ++ (exponent s).2 ∧ IsPower (exponent s).1 := by
  unfold exponent
  split
  · next c t =>
    split
    · next he =>
      obtain ⟨hsigned, hsign⟩ := signed_eq t
      split
      next sign u heq =>
      rw [heq] at hsigned hsign
      split
      · exact ⟨rfl, Or.inl rfl⟩
      · next digits rest hempty hspan =>
        obtain ⟨hu, hall⟩ := span_eq hspan
        refine ⟨?_, Or.inr ⟨c, sign, digits, rfl, by simpa using he, hsign, ?_, hall⟩⟩
        · rw [hsigned, hu]
          simp
        · exact fun h => hempty h
    · exact ⟨rfl, Or.inl rfl⟩
  · exact ⟨rfl, Or.inl rfl⟩

theorem IsWhole.ne_nil {s : List Char} (h : IsWhole s) : s ≠ [] := by
  rcases h with rfl | ⟨c, t, rfl, -⟩ <;> nofun

theorem number?_eq {negative : Bool} {s rest : List Char} {v : Value}
    (h : number? negative s = some (v, rest)) :
    ∃ w, s = w ++ rest ∧ w ≠ [] ∧ Word (signOf negative ++ w) v := by
  obtain ⟨⟨digits, s₁⟩, hwhole, h⟩ := Option.bind_eq_some_iff.mp h
  obtain ⟨hs, hdigits⟩ := whole?_eq hwhole
  obtain ⟨hfraction, hplaces⟩ := fraction_eq s₁
  obtain ⟨hexponent, hpower⟩ := exponent_eq (fraction s₁).2
  have hsplit : s = (digits ++ (fraction s₁).1 ++ (exponent (fraction s₁).2).1) ++
      (exponent (fraction s₁).2).2 := by
    rw [List.append_assoc, List.append_assoc, ← hexponent, ← hfraction, hs]
  simp only at h
  split at h
  · next hplain =>
    cases h
    obtain ⟨hfirst, hsecond⟩ := Bool.and_eq_true_iff.mp hplain
    rw [List.isEmpty_iff.mp hfirst, List.isEmpty_iff.mp hsecond, List.append_nil,
      List.append_nil] at hsplit
    exact ⟨digits, hsplit, hdigits.ne_nil, .int hdigits⟩
  · next hplain =>
    obtain ⟨x, hx, h⟩ := Option.bind_eq_some_iff.mp h
    cases h
    refine ⟨_, hsplit, ?_, .float hdigits hplaces hpower ?_ hx⟩
    · simp [hdigits.ne_nil]
    by_contra hnone
    simp only [not_or, not_not] at hnone
    simp [hnone.1, hnone.2] at hplain

def EndsWord (s : List Char) : Prop := ∀ c ∈ s.head?, isWordEnd c = true

def isWordChar (c : Char) : Bool := c != '"' && !isWordEnd c

theorem portableOutside_append {w : List Char} (hw : ∀ c ∈ w, isWordChar c = true)
    (u s : List Char) : portableOutside u (w ++ s) = portableOutside (u ++ w) s := by
  induction w generalizing u with
  | nil => rw [List.nil_append, List.append_nil]
  | cons c w ih =>
    obtain ⟨hc, hw⟩ := List.forall_mem_cons.mp hw
    simp only [isWordChar, Bool.and_eq_true, bne_iff_ne, Bool.not_eq_true'] at hc
    rw [List.cons_append, portableOutside, hc.2, if_neg Bool.false_ne_true, ih hw,
      List.append_assoc, List.singleton_append]
    exact hc.1

theorem portableOutside_nil_word : isPortableWord [] = true := by decide

theorem portableOutside_of_endsWord {w s : List Char} (h : EndsWord s) :
    portableOutside w s = (isPortableWord w && portableOutside [] s) := by
  cases s with
  | nil => rw [portableOutside, portableOutside, portableOutside_nil_word, Bool.and_true]
  | cons c s =>
    have hc : isWordEnd c = true := h c rfl
    have hquote : c ≠ '"' := by
      rintro rfl
      cases hc
    rw [portableOutside, portableOutside, if_pos hc, if_pos hc, portableOutside_nil_word,
      Bool.true_and]
    all_goals exact hquote

theorem mem_of_isWordChar_eq_false {c : Char} (h : isWordChar c = false) :
    c ∈ ['"', ' ', '\t', '\n', '\r', ',', ':', '[', ']', '\x7b', '\x7d'] := by
  simp only [isWordChar, isWordEnd, isSpace, Bool.and_eq_false_iff, bne_eq_false_iff_eq,
    Bool.not_eq_false', Bool.or_eq_true, beq_iff_eq, List.contains_iff_mem] at h
  grind

theorem isWordChar_of_isNumberChar {c : Char} (h : isNumberChar c = true) :
    isWordChar c = true := by
  by_contra hc
  have hmem := mem_of_isWordChar_eq_false (Bool.eq_false_iff.mpr hc)
  have hends : ∀ c ∈ ['"', ' ', '\t', '\n', '\r', ',', ':', '[', ']', '\x7b', '\x7d'],
      isNumberChar c = false := List.all_iff_forall_prop.mp (by decide)
  cases h.symm.trans (hends c hmem)

theorem isNumberChar_of_isDigit {c : Char} (h : isDigit c = true) : isNumberChar c = true := by
  rw [isNumberChar, h, Bool.true_or]

theorem IsWhole.all_digits {s : List Char} (h : IsWhole s) : ∀ c ∈ s, isDigit c = true := by
  rcases h with rfl | ⟨c, t, rfl, -, hc, ht⟩
  · exact List.forall_mem_singleton.mpr rfl
  · exact List.forall_mem_cons.mpr ⟨hc, ht⟩

theorem IsFraction.all_numberChars {s : List Char} (h : IsFraction s) :
    ∀ c ∈ s, isNumberChar c = true := by
  rcases h with rfl | ⟨t, rfl, -, ht⟩
  · nofun
  · exact List.forall_mem_cons.mpr ⟨rfl, fun c hc => isNumberChar_of_isDigit (ht c hc)⟩

theorem IsPower.all_numberChars {s : List Char} (h : IsPower s) :
    ∀ c ∈ s, isNumberChar c = true := by
  rcases h with rfl | ⟨e, sign, t, rfl, he, hsign, -, ht⟩
  · nofun
  · refine List.forall_mem_cons.mpr ⟨?_, List.forall_mem_append.mpr ⟨?_, ?_⟩⟩
    · rcases he with rfl | rfl <;> rfl
    · rcases hsign with rfl | rfl | rfl <;> exact List.all_eq_true.mp rfl
    · exact fun c hc => isNumberChar_of_isDigit (ht c hc)

theorem isNumberChar_signOf (negative : Bool) : ∀ c ∈ signOf negative, isNumberChar c = true := by
  cases negative <;> exact List.all_eq_true.mp rfl

theorem isWordChar_of_word {w : List Char} {v : Value} (h : Word w v) :
    ∀ c ∈ w, isWordChar c = true := by
  have hnumber : (∀ c ∈ w, isNumberChar c = true) → ∀ c ∈ w, isWordChar c = true :=
    fun h c hc => isWordChar_of_isNumberChar (h c hc)
  cases h with
  | null => exact List.all_eq_true.mp rfl
  | truth => exact List.all_eq_true.mp rfl
  | untruth => exact List.all_eq_true.mp rfl
  | int hdigits =>
    apply hnumber
    have := fun c hc => isNumberChar_of_isDigit (hdigits.all_digits c hc)
    exact List.forall_mem_append.mpr ⟨isNumberChar_signOf _, this⟩
  | float hdigits hplaces hpower =>
    apply hnumber
    have := fun c hc => isNumberChar_of_isDigit (hdigits.all_digits c hc)
    refine List.forall_mem_append.mpr ⟨isNumberChar_signOf _, ?_⟩
    refine List.forall_mem_append.mpr ⟨?_, hpower.all_numberChars⟩
    exact List.forall_mem_append.mpr ⟨this, hplaces.all_numberChars⟩

theorem after?_eq {word : String} {s rest : List Char} (h : after? word s = some rest) :
    s = word.toList ++ rest := by
  unfold after? at h
  split at h
  · next hprefix =>
    cases h
    obtain ⟨t, rfl⟩ := List.isPrefixOf_iff_prefix.mp hprefix
    rw [← String.length_toList, List.drop_left]
  · cases h

theorem isPortableWord_of_append {w rest : List Char} (hw : ∀ c ∈ w, isWordChar c = true)
    (hrest : EndsWord rest) (h : portableOutside [] (w ++ rest) = true) :
    isPortableWord w = true ∧ portableOutside [] rest = true := by
  rw [portableOutside_append hw, List.nil_append, portableOutside_of_endsWord hrest] at h
  exact Bool.and_eq_true_iff.mp h

theorem not_portable {w rest : List Char} {α : Prop} (hw : w.all isWordChar = true)
    (hrest : EndsWord rest) (h : portableOutside [] (w ++ rest) = true)
    (hnot : isPortableWord w = false) : α := by
  cases hnot.symm.trans (isPortableWord_of_append (List.all_eq_true.mp hw) hrest h).1

theorem scalar?_eq {s rest : List Char} {v : Value} (h : scalar? s = some (v, rest))
    (hrest : EndsWord rest) (hportable : portableOutside [] s = true) :
    ∃ w, s = w ++ rest ∧ Word w v ∧ isPortableWord w = true ∧ portableOutside [] rest = true := by
  have hword : ∀ {w}, s = w ++ rest → Word w v → ∃ w, s = w ++ rest ∧ Word w v ∧
      isPortableWord w = true ∧ portableOutside [] rest = true := by
    rintro w rfl hw
    exact ⟨w, rfl, hw, isPortableWord_of_append (isWordChar_of_word hw) hrest hportable⟩
  unfold scalar? at h
  split at h
  · obtain ⟨t, ht, heq⟩ := Option.map_eq_some_iff.mp h
    cases heq
    exact hword (after?_eq ht) .null
  · obtain ⟨t, ht, heq⟩ := Option.map_eq_some_iff.mp h
    cases heq
    exact hword (after?_eq ht) .truth
  · obtain ⟨t, ht, heq⟩ := Option.map_eq_some_iff.mp h
    cases heq
    exact hword (after?_eq ht) .untruth
  · obtain ⟨t, ht, heq⟩ := Option.map_eq_some_iff.mp h
    cases heq
    rw [after?_eq ht] at hportable
    exact not_portable (by decide) hrest hportable (by decide)
  · obtain ⟨t, ht, heq⟩ := Option.map_eq_some_iff.mp h
    cases heq
    rw [after?_eq ht] at hportable
    exact not_portable (by decide) hrest hportable (by decide)
  · next t =>
    obtain ⟨t', ht, heq⟩ := Option.map_eq_some_iff.mp h
    cases heq
    rw [after?_eq ht, ← List.cons_append] at hportable
    exact not_portable (by decide) hrest hportable (by decide)
  · obtain ⟨w, rfl, -, hw⟩ := number?_eq h
    exact hword rfl hw
  · obtain ⟨w, rfl, -, hw⟩ := number?_eq h
    exact hword rfl hw

end BlockAudit.Json
