import BlockAudit.Proofs.Evaluation.Bindings
import BlockAudit.Proofs.Evaluation.Contract
/-!
Where variables come from: an evaluation takes no binding away, and what it binds is an attribute of a
block that it can come to. Main statement: `run_provenance`.
-/

namespace BlockAudit

inductive Target (modules : List Module) (b : Block) : Block → Prop
  | self : Target modules b b
  | listed {c : Block} (h : c ∈ modules.flatMap Module.blocks) : Target modules b c
  | child {c d : Block} {name : String} {cs : List Block} (h : Target modules b c)
      (hcs : c.childrenNamed name = .ok cs) (hd : d ∈ cs) : Target modules b d

namespace MatchSpec

def Assigns (n : MatchSpec) (x : String) : Prop :=
  n.isAssigning = true ∧ n.assignVariable.isEmpty = false ∧ n.assignVariable = x

def Supplies (modules : List Module) (spec : MatchSpec) (b : Block) (x : String) (v : Value) :
    Prop :=
  v.isNull = false ∧ ∃ n ∈ spec.nodes, n.Assigns x ∧
    ∃ c, Target modules b c ∧ c.attributeAt n.name = .ok v

def Grown (modules : List Module) (spec : MatchSpec) (b : Block) (σ τ : Bindings) : Prop :=
  ∀ x, τ.find? x = σ.find? x ∨ ∃ v, τ.find? x = some v ∧ spec.Supplies modules b x v

variable {modules : List Module} {spec n : MatchSpec} {b c : Block} {σ τ : Bindings}

theorem grown_self : spec.Grown modules b σ σ := fun _ => Or.inl rfl

theorem Grown.bind (h : spec.Grown modules b σ τ) {x : String} {v : Value}
    (hv : spec.Supplies modules b x v) : spec.Grown modules b σ (τ.bind x v) := by
  intro y
  rw [Bindings.find?_bind]
  by_cases hx : x = y
  · subst hx
    exact Or.inr ⟨v, if_pos rfl, hv⟩
  · rw [if_neg hx]
    exact h y

def growing (modules : List Module) (spec : MatchSpec) (b : Block) (σ : Bindings) : Contract where
  block := Target modules b
  bindings := spec.Grown modules b σ
  fault := fun _ => True

theorem growing_admits (hn : n ∈ spec.nodes) : (spec.growing modules b σ).Admits modules n where
  attributeAt := fun _ _ _ _ _ => trivial
  binding := by
    intro hassigning hname c hc v hv hnull τ hτ
    exact hτ.bind ⟨hnull, n, hn, ⟨hassigning, hname, rfl⟩, c, hc, hv⟩
  childrenNamed := fun _ _ _ _ _ _ => trivial
  child := fun _ _ _ hc _ hcs _ hd => hc.child hcs hd
  holds := fun _ _ _ _ _ _ _ _ _ _ => trivial
  tag? := fun _ _ _ _ _ => trivial
  companion := by
    intro _ c hc
    exact .listed (List.mem_of_mem_filter (List.mem_of_mem_head? hc))

theorem grown_after (modules : List Module) (spec : MatchSpec) (b : Block) (s : Trace) :
    spec.Grown modules b s.bindings ((spec.evaluate modules b).after s).2.bindings :=
  (Contract.evaluate (fun _ hn => growing_admits hn) b .self s grown_self).keeps

theorem evaluate_assignVariable (h : spec.isAssigning = false) (x : String) :
    { spec with assignVariable := x }.evaluate modules b = spec.evaluate modules b := by
  have hhandle : handle modules { spec with assignVariable := x } b = handle modules spec b := by
    unfold handle
    cases ha : spec.action with
    | presence p => simp [isAssigning, ha, Action.isPresence] at h
    | comparison c => simp [isAssigning, ha, Action.isComparison] at h
    | _ => rfl
  rw [evaluate_eq, evaluate_eq, hhandle]

theorem run_provenance (modules : List Module) (spec : MatchSpec) (b : Block) (start : Bindings) :
    (∀ x, (start.find? x).isSome → ((spec.run modules b start).2.1.find? x).isSome) ∧
      (∀ x, (∀ n ∈ spec.nodes, ¬n.Assigns x) →
        (spec.run modules b start).2.1.find? x = start.find? x) ∧
      (∀ x, (spec.run modules b start).2.1.find? x ≠ start.find? x →
        ∃ v, (spec.run modules b start).2.1.find? x = some v ∧ spec.Supplies modules b x v) ∧
      (spec.isAssigning = false → ∀ x,
        { spec with assignVariable := x }.run modules b start = spec.run modules b start) := by
  have hgrown : spec.Grown modules b start (spec.run modules b start).2.1 :=
    grown_after modules spec b ⟨start, []⟩
  refine ⟨?_, ?_, ?_, ?_⟩
  · intro x hx
    rcases hgrown x with h | ⟨v, h, -⟩
    · rwa [h]
    · rw [h]
      rfl
  · intro x hx
    rcases hgrown x with h | ⟨v, -, -, n, hn, hassigns, -⟩
    · exact h
    · exact absurd hassigns (hx n hn)
  · intro x hx
    exact (hgrown x).resolve_left hx
  · intro h x
    rw [run, run, evaluate_assignVariable h]

end MatchSpec
end BlockAudit
