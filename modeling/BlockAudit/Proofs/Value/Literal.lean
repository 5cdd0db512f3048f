import BlockAudit.Proofs.MatchSpec.Action
import BlockAudit.Proofs.Text.Search
import BlockAudit.Evaluation.Comparison
import Mathlib.Data.Set.CoeSort

namespace BlockAudit

open Value

theorem Number.Binary.scaled_natAbs (n : Int) : scaled (n < 0) n.natAbs 0 0 = n := by
  have hmagnitude : (n.natAbs * twoTo (0 - 0 : Int).toNat : Nat) = n.natAbs := Nat.mul_one _
  rw [scaled, hmagnitude]
  by_cases hn : n < 0
  · rw [if_pos (decide_eq_true hn)]
    omega
  · rw [if_neg (by simpa using hn)]
    omega

theorem Number.Binary.eq_exact {m n : Int} : (exact m).eq (exact n) = true ↔ m = n := by
  have hcompare : (exact m).compare? (exact n) = some (compare m n) := by
    simp only [exact, compare?, Int.min_self, scaled_natAbs]
  rw [eq, hcompare, beq_iff_eq, Option.some_inj, Std.LawfulEqOrd.compare_eq_iff_eq]

theorem Value.intText_eq (n : Int) : intText n = (toString n).toList := by
  cases n with
  | ofNat m => exact Nat.toList_repr.symm
  | negSucc m =>
    have hnegative : (toString (Int.negSucc m)).toList = '-' :: Nat.toDigits 10 (m + 1) := by
      simp [Int.repr]
    rw [intText, if_pos (Int.negSucc_lt_zero m), hnegative]
    rfl

/-- The scalars that a comparison takes for texts, numbers with a fraction apart. -/
inductive Literal where
  | text (s : String)
  | truth (b : Bool)
  | whole (n : Int)
deriving DecidableEq

namespace Literal

def value : Literal → Value
  | text s => .str s
  | truth b => .bool b
  | whole n => .int n

def written : Literal → String
  | text s => s
  | truth b => if b then "true" else "false"
  | whole n => toString n

def worth (b : Bool) : Int := if b then 1 else 0

def Conflated : Literal → Literal → Prop
  | truth b, whole n => n = worth b
  | whole n, truth b => n = worth b
  | _, _ => False

def Equals (x y : Literal) : Prop := Comparison.equalTo x.value y.value = true

variable {x y z : Literal}

theorem comparedText?_value (x : Literal) : x.value.comparedText? = some x.written.toList := by
  cases x with
  | text s => rfl
  | truth b => cases b <;> rfl
  | whole n => exact congrArg some (intText_eq n)

theorem worth_inj {a b : Bool} : worth a = worth b ↔ a = b := by
  cases a <;> cases b <;> decide

theorem equal_value : x.value.equal y.value = true ↔ x = y ∨ x.Conflated y := by
  have hworth (b : Bool) : (if b = true then 1 else 0 : Int) = worth b := rfl
  cases x <;> cases y <;>
    simp only [value, Value.equal, same, sameScalar, worth?, Number.Binary.eq_exact, Conflated, hworth,
      worth_inj, beq_iff_eq, Bool.false_eq_true, text.injEq, truth.injEq, whole.injEq, reduceCtorEq,
      or_false, false_or]
  exact eq_comm

theorem written_truth_ne_whole (b : Bool) (n : Int) : (truth b).written ≠ (whole n).written := by
  intro h
  obtain ⟨c, hc, hdigit⟩ := exists_mem_intText n
  have hletters : (truth b).written.toList.all Char.isAlpha = true := by
    cases b <;> rfl
  rw [intText_eq, ← written, ← h] at hc
  rw [List.all_eq_true.mp hletters c hc] at hdigit
  cases hdigit

theorem written_ne_of_conflated (h : x.Conflated y) : x.written ≠ y.written := by
  cases x <;> cases y <;> simp only [Conflated] at h
  · next b n => exact written_truth_ne_whole b n
  · next n b => exact (written_truth_ne_whole b n).symm

theorem equals_iff : x.Equals y ↔ x.written = y.written ∨ x.Conflated y := by
  have htexts : (x.value.comparedText?.isSome && x.value.comparedText? == y.value.comparedText?) = true
      ↔ x.written = y.written := by
    simp [comparedText?_value, String.toList_inj]
  rw [Equals, Comparison.equalTo, Bool.or_eq_true, htexts, equal_value]
  constructor
  · rintro ((rfl | h) | h)
    · exact Or.inl rfl
    · exact Or.inr h
    · exact Or.inl h
  · rintro (h | h)
    · exact Or.inr h
    · exact Or.inl (Or.inr h)

theorem onTexts_value (test : List Char → List Char → Bool) (x y : Literal) :
    Comparison.onTexts test x.value y.value = test x.written.toList y.written.toList := by
  rw [Comparison.onTexts, comparedText?_value, comparedText?_value]

theorem contained_value (x y : Literal) :
    Comparison.contained x.value y.value = Text.isInfix y.written.toList x.written.toList := by
  have hscalar : Comparison.contained x.value y.value =
      Comparison.onTexts (fun s t => Text.isInfix t s) x.value y.value := by
    cases x <;> rfl
  rw [hscalar, onTexts_value]

theorem equals_truth_whole (b : Bool) (n : Int) : (truth b).Equals (whole n) ↔ n = worth b := by
  rw [equals_iff, or_iff_right (written_truth_ne_whole b n), Conflated]

theorem not_infix_of_conflated (h : x.Conflated y) :
    Text.isInfix y.written.toList x.written.toList = false := by
  have hworth (b : Bool) :
      Text.isInfix (whole (worth b)).written.toList (truth b).written.toList = false ∧
        Text.isInfix (truth b).written.toList (whole (worth b)).written.toList = false := by
    cases b <;> decide
  cases x <;> cases y <;> simp only [Conflated] at h
  · next b n => exact h ▸ (hworth b).1
  · next n b => exact h ▸ (hworth b).2

theorem test_iff (test : List Char → List Char → Bool) (hself : ∀ s, test s s = true)
    (hpart : ∀ s t, test s t = true → t <:+: s) (h : x.Equals y) :
    test x.written.toList y.written.toList = true ↔ ¬x.Conflated y := by
  constructor
  · intro htest hconflated
    have hinfix := Text.isInfix_iff.mpr (hpart _ _ htest)
    rw [not_infix_of_conflated hconflated] at hinfix
    cases hinfix
  · intro hconflated
    rw [(equals_iff.mp h).resolve_right hconflated]
    exact hself _

theorem equivalence_equals {S : Set Literal} (hS : ∀ x ∈ S, ∀ y ∈ S, ¬x.Conflated y) :
    Equivalence fun x y : S => x.1.Equals y.1 := by
  have hiff (x y : S) : x.1.Equals y.1 ↔ x.1.written = y.1.written := by
    rw [equals_iff, or_iff_left (hS x x.2 y y.2)]
  simp only [hiff]
  exact ⟨fun _ => rfl, Eq.symm, Eq.trans⟩

end Literal

end BlockAudit
