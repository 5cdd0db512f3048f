import BlockAudit.MatchSpec.Decode
import BlockAudit.Proofs.MatchSpec.Places
/-!
The order in which the parts of a match spec are read: node by node, the parts of a node from the first
to the last and a child where its node has it. A reading that fails does so at the first part that is
amiss.
-/

namespace BlockAudit.MatchSpec

inductive Part where
  | node
  | action
  | name
  | branch (b : Branch)
  | assignVariable

def Part.path (root : String) : Part → String
  | node => root
  | action => partPath root "action"
  | name => partPath root "name"
  | branch b => partPath root b.key
  | assignVariable => partPath root "assignVariable"

def Branch.rank : Branch → Nat
  | predicates => 3
  | preConditions => 5

def Part.rank : Part → List Nat
  | node => [0]
  | action => [1]
  | name => [2]
  | branch b => [b.rank, 0]
  | assignVariable => [6]

def Step.rank : Step → List Nat
  | item b i => [b.rank, i + 1]
  | subMatch => [4]

structure Site where
  steps : List Step
  part : Part

namespace Site

/-- Sites are in the lexicographic order of these lists: a list comes before its items, and whatever is
inside a child has the place of the child. -/
def order (s : Site) : List Nat := s.steps.flatMap Step.rank ++ s.part.rank

def path (root : String) (s : Site) : String := s.part.path (pathTo root s.steps)

def inside (step : Step) (s : Site) : Site := ⟨step :: s.steps, s.part⟩

def stage (s : Site) : Nat := s.order.headD 0

theorem order_inside (step : Step) (s : Site) : (s.inside step).order = step.rank ++ s.order := by
  simp [order, inside]

theorem inside_inj {a b : Step} {s t : Site} : s.inside a = t.inside b ↔ a = b ∧ s = t := by
  cases s
  cases t
  simp [inside, and_assoc]

theorem order_eq (s : Site) : s.order = s.stage :: s.order.tail := by
  obtain ⟨steps, part⟩ := s
  cases steps with
  | nil => cases part <;> rfl
  | cons step steps => cases step <;> rfl

theorem stage_le (s : Site) : s.stage ≤ 6 := by
  obtain ⟨steps, part⟩ := s
  cases steps with
  | nil =>
    cases part with
    | branch b => cases b <;> decide
    | _ => decide
  | cons step steps =>
    cases step with
    | item b i => cases b <;> exact Nat.le_of_ble_eq_true rfl
    | subMatch => exact Nat.le_of_ble_eq_true rfl

theorem order_lt_of_stage {s t : Site} (h : s.stage < t.stage) : s.order < t.order := by
  rw [order_eq s, order_eq t]
  exact List.cons_lt_cons_iff.mpr (Or.inl h)

theorem order_inside_lt {step : Step} {s t : Site} (h : s.order < t.order) :
    (s.inside step).order < (t.inside step).order := by
  rw [order_inside, order_inside]
  exact List.append_left_lt h

theorem order_items_lt {b : Branch} {i j : Nat} (h : i < j) (s t : Site) :
    (s.inside (.item b i)).order < (t.inside (.item b j)).order := by
  simp [order_inside, Step.rank, List.cons_lt_cons_iff, h]

theorem stage_eq_iff (part : Part) (hpart : ∀ b, part ≠ .branch b) (t : Site) :
    t.stage = stage ⟨[], part⟩ ↔ t = ⟨[], part⟩ := by
  refine ⟨fun h => ?_, fun h => by rw [h]⟩
  obtain ⟨steps, other⟩ := t
  cases part with
  | branch b => exact absurd rfl (hpart b)
  | _ =>
    cases steps with
    | nil =>
      cases other with
      | branch b => cases b <;> cases h
      | _ => first | rfl | cases h
    | cons step steps =>
      cases step with
      | item b i => cases b <;> cases h
      | subMatch => cases h

theorem stage_branch (b : Branch) (t : Site) :
    t.stage = b.rank ↔ t = ⟨[], .branch b⟩ ∨ ∃ i, ∃ u : Site, t = u.inside (.item b i) := by
  constructor
  · intro h
    obtain ⟨steps, part⟩ := t
    cases steps with
    | nil =>
      cases part with
      | branch c => cases b <;> cases c <;> first | exact Or.inl rfl | cases h
      | _ => cases b <;> cases h
    | cons step steps =>
      cases step with
      | item c i =>
        cases b <;> cases c <;> first | exact Or.inr ⟨i, ⟨steps, part⟩, rfl⟩ | cases h
      | subMatch => cases b <;> cases h
  · rintro (rfl | ⟨i, u, rfl⟩) <;> rfl

theorem stage_subMatch (t : Site) : t.stage = 4 ↔ ∃ u : Site, t = u.inside .subMatch := by
  constructor
  · intro h
    obtain ⟨steps, part⟩ := t
    cases steps with
    | nil =>
      cases part with
      | branch c => cases c <;> cases h
      | _ => cases h
    | cons step steps =>
      cases step with
      | item c i => cases c <;> cases h
      | subMatch => exact ⟨⟨steps, part⟩, rfl⟩
  · rintro ⟨u, rfl⟩
    rfl

end Site

def Reports {α : Type} (D : Site → SpecDefect → Prop) : Except SpecDefect α → Prop
  | .ok _ => ∀ s e, ¬D s e
  | .error e => ∃ s, D s e ∧ ∀ t e', D t e' → t = s ∨ s.order < t.order

section

variable {α β : Type} {D D' : Site → SpecDefect → Prop} {x : Except SpecDefect α}

theorem Reports.congr (h : Reports D x) (hD : ∀ s e, D' s e ↔ D s e) : Reports D' x := by
  have heq : D' = D := by
    funext s e
    exact propext (hD s e)
  rwa [heq]

theorem Reports.ok (a : α) (h : ∀ s e, ¬D s e) : Reports D (.ok a : Except SpecDefect α) := h

theorem Reports.error {s : Site} {e : SpecDefect} (h : D s e)
    (hfirst : ∀ t e', D t e' → t = s ∨ s.order < t.order) :
    Reports D (.error e : Except SpecDefect α) := ⟨s, h, hfirst⟩

theorem Reports.map (f : α → β) (h : Reports D x) : Reports D (x.map f) := by
  cases x <;> exact h

theorem Reports.bind {g : α → Except SpecDefect β} (h : Reports D x) (hg : ∀ a, Reports D' (g a))
    (hbefore : ∀ s e t e', D s e → D' t e' → s.order < t.order) :
    Reports (fun s e => D s e ∨ D' s e) (x >>= g) := by
  cases x with
  | error e =>
    obtain ⟨s, hs, hfirst⟩ := h
    refine Reports.error (Or.inl hs) fun t e' ht => ?_
    rcases ht with ht | ht
    · exact hfirst t e' ht
    · exact Or.inr (hbefore s e t e' hs ht)
  | ok a =>
    refine (hg a).congr fun s e => ?_
    have hnone : ¬D s e := h s e
    simp [hnone]

theorem Reports.inside (step : Step) (h : Reports D x) :
    Reports (fun s e => ∃ t, s = t.inside step ∧ D t e) x := by
  cases x with
  | ok a =>
    rintro s e ⟨t, -, ht⟩
    exact h t e ht
  | error e =>
    obtain ⟨s, hs, hfirst⟩ := h
    refine Reports.error ⟨s, rfl, hs⟩ ?_
    rintro t e' ⟨t, rfl, ht⟩
    rcases hfirst t e' ht with rfl | hlt
    · exact Or.inl rfl
    · exact Or.inr (Site.order_inside_lt hlt)

def AtStage (k : Nat) (D : Site → SpecDefect → Prop) (s : Site) (e : SpecDefect) : Prop :=
  D s e ∧ s.stage = k

def FromStage (k : Nat) (D : Site → SpecDefect → Prop) (s : Site) (e : SpecDefect) : Prop :=
  D s e ∧ k ≤ s.stage

theorem Reports.next {k : Nat} {g : α → Except SpecDefect β} (h : Reports (AtStage k D) x)
    (hg : ∀ a, Reports (FromStage (k + 1) D) (g a)) : Reports (FromStage k D) (x >>= g) := by
  refine (h.bind hg fun s e t e' hs ht => Site.order_lt_of_stage ?_).congr fun s e => ?_
  · have hk := hs.2
    have hlater := ht.2
    omega
  · rw [AtStage, FromStage, FromStage, ← and_or_left]
    refine and_congr_right fun _ => ?_
    omega

end

end BlockAudit.MatchSpec
