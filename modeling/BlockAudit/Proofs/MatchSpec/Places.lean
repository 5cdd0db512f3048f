import BlockAudit.Proofs.MatchSpec.Nodes
import BlockAudit.Proofs.Number.Numeral
import Mathlib.Data.List.Basic
/-!
Places in a match spec: the steps that lead from its root to a node, and the path that they are written
as. A text that goes on from a path with a colon goes on from the path of no other place.
-/

namespace BlockAudit.MatchSpec

theorem toList_partPath (path part : String) :
    (partPath path part).toList = path.toList ++ '.' :: part.toList := by
  show (path ++ "." ++ part).toList = _
  simp

theorem toList_itemPath (path : String) (i : Nat) :
    (itemPath path i).toList = path.toList ++ '[' :: Nat.toDigits 10 i ++ [']'] := by
  show (path ++ "[" ++ toString i ++ "]").toList = _
  simp

inductive Branch where
  | predicates
  | preConditions
deriving DecidableEq

namespace Branch

def key : Branch → String
  | predicates => "predicateMatchSpec"
  | preConditions => "preConditions"

def specs (spec : MatchSpec) : Branch → List MatchSpec
  | predicates => spec.predicates
  | preConditions => spec.preConditions

end Branch

inductive Step where
  | item (b : Branch) (i : Nat)
  | subMatch
deriving DecidableEq

namespace Step

def extend (path : String) : Step → String
  | item b i => itemPath (partPath path b.key) i
  | subMatch => partPath path "subMatch"

def numbered (name : String) (i : Nat) : List Char := name.toList ++ '[' :: Nat.toDigits 10 i ++ [']']

def label : Step → List Char
  | item b i => numbered b.key i
  | subMatch => "subMatch".toList

theorem toList_numbered (path name : String) (i : Nat) :
    (itemPath (partPath path name) i).toList = path.toList ++ '.' :: numbered name i := by
  simp [toList_itemPath, toList_partPath, numbered]

theorem toList_extend (path : String) (s : Step) :
    (s.extend path).toList = path.toList ++ '.' :: s.label := by
  cases s with
  | subMatch => exact toList_partPath path _
  | item b i => exact toList_numbered path b.key i

theorem not_mem_numbered {c : Char} {name : String} (hname : c ∉ name.toList)
    (hdigit : c.isDigit = false) (hopen : c ≠ '[') (hclose : c ≠ ']') (i : Nat) :
    c ∉ numbered name i := by
  have hdigits : c ∉ Nat.toDigits 10 i := by
    intro hc
    rw [Number.isDigit_of_mem_digits i c hc] at hdigit
    cases hdigit
  simp only [numbered, List.mem_append, List.mem_cons, List.not_mem_nil, or_false, not_or]
  exact ⟨⟨hname, hopen, hdigits⟩, hclose⟩

theorem not_mem_label {c : Char} (hc : c = '.' ∨ c = ':') (s : Step) : c ∉ s.label := by
  rcases hc with rfl | rfl
  all_goals
    cases s with
    | subMatch => decide
    | item b i =>
      refine not_mem_numbered ?_ (by decide) (by decide) (by decide) i
      cases b <;> decide

theorem numbered_inj {name : String} {i j : Nat} (h : numbered name i = numbered name j) : i = j := by
  have hdigits : Nat.toDigits 10 i = Nat.toDigits 10 j := by
    rw [numbered, numbered] at h
    simpa only [List.append_cancel_right_eq, List.append_cancel_left_eq, List.cons.injEq,
      true_and] using h
  have hvalues := congrArg (Nat.ofDigitChars 10 · 0) hdigits
  simpa [Nat.ofDigitChars_ten_toDigits] using hvalues

theorem label_fourth (s : Step) : s.label[3]? = match s with
    | item .predicates _ => some 'd'
    | item .preConditions _ => some 'C'
    | subMatch => some 'M' := by
  cases s with
  | item b i => cases b <;> rfl
  | subMatch => rfl

theorem label_injective : Function.Injective label := by
  intro s t h
  have hfourth := congrArg (·[3]?) h
  simp only [label_fourth] at hfourth
  cases s with
  | item b i =>
    cases t with
    | item c j =>
      have hbranch : b = c := by cases b <;> cases c <;> simp at hfourth <;> rfl
      subst hbranch
      rw [numbered_inj h]
    | subMatch => cases b <;> simp at hfourth
  | subMatch =>
    cases t with
    | item c j => cases c <;> simp at hfourth
    | subMatch => rfl

end Step

def pathTo (path : String) (steps : List Step) : String := steps.foldl Step.extend path

example : pathTo "matchSpec" [.item .preConditions 1, .subMatch] =
    "matchSpec.preConditions[1].subMatch" := by decide

def trail (steps : List Step) : List Char := (steps.map Step.label).flatMap ('.' :: ·)

variable {path : String} {steps other : List Step}

theorem toList_pathTo (path : String) (steps : List Step) :
    (pathTo path steps).toList = path.toList ++ trail steps := by
  induction steps generalizing path with
  | nil => simp [pathTo, trail]
  | cons s steps ih =>
    rw [pathTo, List.foldl_cons, ← pathTo, ih, Step.toList_extend]
    simp [trail]

theorem colon_not_mem_trail (steps : List Step) : ':' ∉ trail steps := by
  intro h
  obtain ⟨label, hlabel, hmem⟩ := List.mem_flatMap.mp h
  obtain ⟨s, -, rfl⟩ := List.mem_map.mp hlabel
  rcases List.mem_cons.mp hmem with hpoint | hcolon
  · exact absurd hpoint (by decide)
  · exact s.not_mem_label (Or.inr rfl) hcolon

theorem trail_injective : Function.Injective trail := by
  intro steps other h
  have hfields (steps : List Step) : Text.fields '.' (trail steps) = [] :: steps.map Step.label := by
    refine Text.fields_flatMap fun label hlabel => ?_
    obtain ⟨s, -, rfl⟩ := List.mem_map.mp hlabel
    exact s.not_mem_label (Or.inl rfl)
  have hlabels := congrArg (Text.fields '.') h
  rw [hfields, hfields, List.cons.injEq] at hlabels
  exact List.map_injective_iff.mpr Step.label_injective hlabels.2

theorem eq_of_pathTo_colon {rest rest' : String}
    (h : pathTo path steps ++ ": " ++ rest = pathTo path other ++ ": " ++ rest') :
    steps = other := by
  have hlists := congrArg String.toList h
  have hcolon : ": ".toList = [':', ' '] := rfl
  simp only [String.toList_append, toList_pathTo, List.append_assoc, List.append_cancel_left_eq,
    hcolon, List.cons_append] at hlists
  have hfields := congrArg (Text.fields ':') hlists
  rw [Text.fields_append_cons, Text.fields_append_cons,
    Text.fields_of_not_mem (colon_not_mem_trail steps),
    Text.fields_of_not_mem (colon_not_mem_trail other)] at hfields
  exact trail_injective (List.cons.inj hfields).1

def child? (spec : MatchSpec) : Step → Option MatchSpec
  | .item b i => (b.specs spec)[i]?
  | .subMatch => spec.subMatch

theorem induct_child {motive : MatchSpec → Prop}
    (node : ∀ spec : MatchSpec, (∀ s c, spec.child? s = some c → motive c) → motive spec)
    (spec : MatchSpec) : motive spec := by
  induction spec with
  | node spec hp hs hc =>
    refine node spec fun s c hchild => ?_
    cases s with
    | item b i =>
      have hmem := List.mem_of_getElem? hchild
      cases b with
      | predicates => exact hp c hmem
      | preConditions => exact hc c hmem
    | subMatch => exact hs c hchild

def nodeAt? : List Step → MatchSpec → Option MatchSpec
  | [], spec => some spec
  | s :: steps, spec => (spec.child? s).bind (nodeAt? steps)

end BlockAudit.MatchSpec
