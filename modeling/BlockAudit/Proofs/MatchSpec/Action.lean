import BlockAudit.MatchSpec.Action
import BlockAudit.Proofs.Number.Numeral
import Mathlib.Tactic.SplitIfs
/-!
The values that name an action. Only texts do, although other values are turned into texts before they
are looked up: the text of any other value is one of a few words, or it has a character that is no
letter.
-/

namespace BlockAudit

namespace Action

def Named (v : Value) : Prop := ∃ s, v = .str s ∧ (s = otherName ∨ ∃ a : Action, s = a.name)

theorem ofName?_name (a : Action) : ofName? a.name = some a := by
  cases a with
  | presence p => cases p <;> rfl
  | comparison c => cases c <;> rfl
  | _ => rfl

theorem ofName?_eq_some_iff {s : String} {a : Action} :
    ofName? s = some a ↔ s = a.name ∨ s = otherName ∧ a = .comparison .notEquals := by
  constructor
  · intro h
    unfold ofName? at h
    split at h
    · next hs => exact Or.inr ⟨hs, (Option.some.inj h).symm⟩
    · have hname := List.find?_some h
      exact Or.inl (eq_of_beq hname).symm
  · rintro (rfl | ⟨rfl, rfl⟩)
    · exact ofName?_name a
    · rfl

def otherWords : List String := ["True", "False", "inf", "nan"]

theorem name_spelling (a : Action) : a.name.toList.all Char.isAlpha = true ∧ a.name ∉ otherWords := by
  cases a with
  | presence p => cases p <;> decide
  | comparison c => cases c <;> decide
  | _ => decide

theorem ofName?_eq_none {s : String} (h : s ∈ otherWords ∨ ∃ c ∈ s.toList, c.isAlpha = false) :
    ofName? s = none := by
  rw [Option.eq_none_iff_forall_ne_some]
  intro a ha
  have hspelling : s.toList.all Char.isAlpha = true ∧ s ∉ otherWords := by
    rcases ofName?_eq_some_iff.mp ha with rfl | ⟨rfl, -⟩
    · exact name_spelling a
    · decide
  rcases h with hword | ⟨c, hc, hletter⟩
  · exact hspelling.2 hword
  · rw [List.all_eq_true.mp hspelling.1 c hc] at hletter
    cases hletter

end Action

open Number in
theorem Number.Decimal.exists_mem_written (d : Decimal) : ∃ c ∈ d.written, c.isAlpha = false := by
  unfold Decimal.written
  dsimp only
  split_ifs
  · exact ⟨'.', by simp, rfl⟩
  · exact ⟨'.', by simp, rfl⟩
  · exact ⟨'.', by simp, rfl⟩
  · exact ⟨'-', by simp, rfl⟩
  · exact ⟨'+', by simp, rfl⟩

namespace Value

theorem isAlpha_of_isDigit {c : Char} (h : c.isDigit = true) : c.isAlpha = false := by
  simp only [Char.isDigit, Bool.and_eq_true, decide_eq_true_eq] at h
  have hhigh : c.toNat ≤ 57 := h.2
  have hupper : ¬('A'.val ≤ c.val ∧ c.val ≤ 'Z'.val) := fun hrange => by
    have hlow : 65 ≤ c.toNat := hrange.1
    omega
  have hlower : ¬ 'a'.val ≤ c.val := fun hlow => by
    have hlow : 97 ≤ c.toNat := hlow
    omega
  have hletter : c.isAlpha = (decide ('A'.val ≤ c.val ∧ c.val ≤ 'Z'.val) ||
      (decide ('a'.val ≤ c.val) && decide (c.val ≤ 'z'.val))) := rfl
  rw [hletter, decide_eq_false hupper, decide_eq_false hlower]
  rfl

theorem exists_mem_digits (n : Nat) : ∃ c ∈ Nat.toDigits 10 n, c.isAlpha = false := by
  obtain ⟨c, s, hdigits⟩ := List.exists_cons_of_ne_nil (Nat.toDigits_ne_nil (n := n) (b := 10))
  have hc : c ∈ Nat.toDigits 10 n := by simp [hdigits]
  exact ⟨c, hc, isAlpha_of_isDigit (Number.isDigit_of_mem_digits n c hc)⟩

theorem exists_mem_intText (n : Int) : ∃ c ∈ intText n, c.isAlpha = false := by
  unfold intText
  split
  · exact ⟨'-', List.mem_cons_self, rfl⟩
  · exact exists_mem_digits n.natAbs

theorem text_spelling {v : Value} (hnull : v ≠ .null) (htext : ∀ s, v ≠ .str s) :
    v.text ∈ Action.otherWords ∨ ∃ c ∈ v.text.toList, c.isAlpha = false := by
  cases v with
  | null => exact absurd rfl hnull
  | str s => exact absurd rfl (htext s)
  | bool b => cases b <;> exact Or.inl (by decide)
  | int n => exact Or.inr (by simpa [text, shown, shownChars, atomShown] using exists_mem_intText n)
  | float x =>
    cases x with
    | nan k => exact Or.inl (by simp [text, shown, shownChars, atomShown, Number.Binary.text, Action.otherWords])
    | infinite s =>
      cases s with
      | true => exact Or.inr ⟨'-', by decide, rfl⟩
      | false => exact Or.inl (by decide)
    | finite s m e =>
      obtain ⟨c, hc, hletter⟩ := (Number.shortest m e).exists_mem_written
      refine Or.inr ?_
      by_cases hm : m = 0
      · exact ⟨'.', by simp [text, shown, shownChars, atomShown, Number.Binary.text, hm], rfl⟩
      · exact ⟨c, by simp [text, shown, shownChars, atomShown, Number.Binary.text, hm, hc], hletter⟩
  | bytes bs =>
    refine Or.inr ?_
    simp only [text, shown, shownChars, atomShown, bytesShown, String.toList_ofList]
    split
    · exact ⟨'"', by simp, rfl⟩
    · exact ⟨'\'', by simp, rfl⟩
  | date d => exact Or.inr ⟨'-', by simp [text, Calendar.Date.text], rfl⟩
  | moment t => exact Or.inr ⟨'-', by simp [text, Calendar.Moment.text, Calendar.Date.text], rfl⟩
  | list vs => exact Or.inr ⟨'[', by simp [text, shown, shownChars], rfl⟩
  | pair v w => exact Or.inr ⟨'(', by simp [text, shown, shownChars], rfl⟩
  | map es => exact Or.inr ⟨'\x7b', by simp [text, shown, shownChars], rfl⟩
  | set ms =>
    refine Or.inr ?_
    simp only [text, shown, shownChars, setShown, String.toList_ofList]
    split
    · exact ⟨'(', by decide, rfl⟩
    · exact ⟨'\x7b', by simp, rfl⟩

end Value

theorem Action.ofValue?_of_not_text {v : Value} (htext : ∀ s, v ≠ .str s) : ofValue? v = none := by
  by_cases hnull : v = .null
  · rw [hnull]
    rfl
  · rw [ofValue?]
    · exact ofName?_eq_none (Value.text_spelling hnull htext)
    · exact hnull

theorem Action.ofValue?_eq_some_iff {v : Value} {a : Action} : ofValue? v = some a ↔
    ∃ s, v = .str s ∧ (s = a.name ∨ s = otherName ∧ a = .comparison .notEquals) := by
  by_cases htext : ∃ s, v = .str s
  · obtain ⟨s, rfl⟩ := htext
    simp [ofValue?, Value.text, ofName?_eq_some_iff]
  · rw [ofValue?_of_not_text fun s hs => htext ⟨s, hs⟩]
    constructor
    · exact nofun
    · rintro ⟨s, hs, -⟩
      exact absurd ⟨s, hs⟩ htext

theorem Action.isSome_ofValue? {v : Value} : (ofValue? v).isSome = true ↔ Named v := by
  rw [Option.isSome_iff_exists]
  constructor
  · rintro ⟨a, ha⟩
    obtain ⟨s, rfl, hs | ⟨hs, -⟩⟩ := ofValue?_eq_some_iff.mp ha
    · exact ⟨s, rfl, Or.inr ⟨a, hs⟩⟩
    · exact ⟨s, rfl, Or.inl hs⟩
  · rintro ⟨s, rfl, hs | ⟨a, hs⟩⟩
    · exact ⟨.comparison .notEquals, ofValue?_eq_some_iff.mpr ⟨s, rfl, Or.inr ⟨hs, rfl⟩⟩⟩
    · exact ⟨a, ofValue?_eq_some_iff.mpr ⟨s, rfl, Or.inl hs⟩⟩

end BlockAudit
