import BlockAudit.Proofs.Evaluation.Ensures
import BlockAudit.Proofs.Evaluation.Node
import BlockAudit.Proofs.MatchSpec.Nodes
/-!
An evaluation keeps to what each node of its match spec keeps to: the blocks it looks at, the bindings
it makes and the faults it may end in. Main statement: `Contract.evaluate`.
-/

namespace BlockAudit

namespace MatchSpec

def isAssigning (n : MatchSpec) : Bool := n.action.isPresence || n.action.isComparison

end MatchSpec

theorem eq_error_of_map {α β : Type} {x : Except Fault α} {g : α → β} {f : Fault}
    (h : x.map g = .error f) : x = .error f := by
  cases x with
  | ok a => cases h
  | error e =>
    cases h
    rfl

theorem eq_error_of_bind {α β : Type} {x : Except Fault α} {g : α → Except Fault β} {f : Fault}
    (h : x >>= g = .error f) : x = .error f ∨ ∃ a, x = .ok a ∧ g a = .error f := by
  cases x with
  | ok a => exact Or.inr ⟨a, rfl, h⟩
  | error e =>
    cases h
    exact Or.inl rfl

structure Contract where
  block : Block → Prop
  bindings : Bindings → Prop
  fault : Fault → Prop

namespace Contract

open Evaluation MatchSpec

/-- The node keeps to the contract on blocks and bindings that keep to it. -/
structure Admits (C : Contract) (modules : List Module) (n : MatchSpec) : Prop where
  attributeAt : n.isAssigning = true → ∀ b, C.block b →
    ∀ f, b.attributeAt n.name = .error f → C.fault f
  binding : n.isAssigning = true → n.assignVariable.isEmpty = false → ∀ b, C.block b →
    ∀ v, b.attributeAt n.name = .ok v → v.isNull = false →
    ∀ σ, C.bindings σ → C.bindings (σ.bind n.assignVariable v)
  childrenNamed : ∀ p, n.action = .presence p → ∀ b, C.block b →
    ∀ f, b.childrenNamed n.name = .error f → C.fault f
  child : ∀ p, n.action = .presence p → ∀ b, C.block b →
    ∀ bs, b.childrenNamed n.name = .ok bs → ∀ c ∈ bs, C.block c
  holds : ∀ a, n.action = .comparison a → ∀ b, C.block b →
    ∀ v, b.attributeAt n.name = .ok v → ∀ σ, C.bindings σ →
    ∀ f, a.holds v (σ.resolveItems n.matchValue) = .error f → C.fault f
  tag? : n.action = .hasTag → ∀ b, C.block b → ∀ f, b.tag? n.name = .error f → C.fault f
  companion : n.action = .requiresPresence →
    ∀ b ∈ (Module.ofType n.name modules).head?, C.block b

variable {C : Contract} {modules : List Module} {n : MatchSpec} {b : Block}

def Keeps (C : Contract) (e : Evaluation Bool) : Prop :=
  Ensures C.bindings C.fault (fun _ => True) e

theorem keeps_pure (p : Bool) : C.Keeps (pure p) := ensures_pure trivial

theorem Admits.presence (hn : C.Admits modules n) {p : Presence} (hp : n.action = .presence p)
    (hb : C.block b) (f : Fault) (hf : p.holds n.name b = .error f) : C.fault f := by
  have hassigning : n.isAssigning = true := by simp [isAssigning, hp, Action.isPresence]
  have hchild : b.hasChild n.name = .error f → C.fault f := by
    intro h
    rcases eq_error_of_bind h with h | ⟨q, -, h⟩
    · exact hn.attributeAt hassigning b hb f (eq_error_of_map h)
    · cases q with
      | true => cases h
      | false =>
        rcases eq_error_of_bind h with h | ⟨bs, -, h⟩
        · exact hn.childrenNamed p hp b hb f h
        · cases h
  cases p with
  | present => exact hchild hf
  | absent => exact hchild (eq_error_of_map hf)
  | empty => exact hn.attributeAt hassigning b hb f (eq_error_of_map hf)

theorem Admits.assign (hn : C.Admits modules n) (h : n.isAssigning = true)
    (hb : C.block b) :
    Ensures C.bindings C.fault (fun _ => True) (MatchSpec.assign n.name n.assignVariable b) := by
  unfold MatchSpec.assign
  cases hempty : n.assignVariable.isEmpty with
  | true => exact ensures_pure trivial
  | false =>
    apply (ensures_lift (fun v hv => hv) (hn.attributeAt h b hb)).bind
    intro v hv
    cases hnull : v.isNull with
    | true => exact ensures_pure trivial
    | false => exact ensures_bindName (hn.binding h hempty b hb v hv hnull)

theorem Admits.evaluateComparison (hn : C.Admits modules n) {a : Comparison}
    (ha : n.action = .comparison a) (hb : C.block b) :
    C.Keeps (evaluateComparison a n.name n.assignVariable n.matchValue b) := by
  have hassigning : n.isAssigning = true := by
    simp [isAssigning, ha, Action.isPresence, Action.isComparison]
  apply (ensures_lift (fun v hv => hv) (hn.attributeAt hassigning b hb)).bind
  intro v hv
  apply ensures_ite (keeps_pure false)
  apply ensures_bindings.bind
  intro σ hσ
  apply (ensures_forM ensures_note _).bind
  intro _ _
  apply (ensures_lift (fun _ _ => trivial) (hn.holds a ha b hb v hv σ hσ)).bind
  intro q _
  refine ensures_ite ?_ (keeps_pure false)
  exact (hn.assign hassigning hb).bind fun _ _ => keeps_pure true

theorem Admits.evaluateTag (hn : C.Admits modules n) (ha : n.action = .hasTag)
    (hb : C.block b) : C.Keeps (evaluateTag n.name n.matchValue b) := by
  apply (ensures_lift (fun _ _ => trivial) (hn.tag? ha b hb)).bind
  intro tag _
  cases tag with
  | none => exact keeps_pure false
  | some v =>
    apply ensures_ite (keeps_pure true)
    exact ensures_bindings.bind fun σ _ => keeps_pure _

section Children

def Follows (C : Contract) (modules : List Module) (spec : MatchSpec) : Prop :=
  ∀ b, C.block b → C.Keeps (spec.evaluate modules b)

theorem keeps_meets {cs : List MatchSpec} (h : ∀ c ∈ cs, C.Follows modules c)
    (hb : C.block b) : C.Keeps (meets modules cs b) := by
  induction cs with
  | nil => exact keeps_pure true
  | cons c cs ih =>
    obtain ⟨hc, hcs⟩ := List.forall_mem_cons.mp h
    apply (hc b hb).bind
    intro q _
    apply ensures_ite (ih hcs)
    exact (ensures_note _).bind fun _ _ => keeps_pure false

theorem ensures_verdicts {ps : List MatchSpec} (h : ∀ p ∈ ps, C.Follows modules p)
    (hb : C.block b) :
    Ensures C.bindings C.fault (fun _ => True) (verdicts modules ps b) := by
  induction ps with
  | nil => exact ensures_pure trivial
  | cons p ps ih =>
    obtain ⟨hp, hps⟩ := List.forall_mem_cons.mp h
    apply (hp b hb).bind
    intro q _
    exact (ih hps).bind fun _ _ => ensures_pure trivial

theorem keeps_firstVerdict {ps : List MatchSpec} (h : ∀ p ∈ ps, C.Follows modules p)
    (hb : C.block b) : C.Keeps (firstVerdict modules ps b) := by
  cases ps with
  | nil => exact keeps_pure true
  | cons p ps => exact h p List.mem_cons_self b hb

theorem keeps_evaluateSubMatch {sub : Option MatchSpec} (h : ∀ s ∈ sub, C.Follows modules s)
    {targets : Except Fault (List Block)}
    (hblocks : ∀ bs, targets = .ok bs → ∀ c ∈ bs, C.block c)
    (hfault : ∀ f, targets = .error f → C.fault f) :
    C.Keeps (evaluateSubMatch modules sub targets) := by
  cases sub with
  | none => exact keeps_pure true
  | some spec =>
    apply (ensures_lift hblocks hfault).bind
    intro bs hbs
    apply (ensures_mapM fun c hc => h spec rfl c (hbs c hc)).bind
    intro _ _
    exact keeps_pure _

theorem Admits.targets (hn : C.Admits modules n) {p : Presence} (hp : n.action = .presence p)
    (hb : C.block b) : ∀ bs, targets n.name b = .ok bs → ∀ c ∈ bs, C.block c := by
  intro bs hbs c hc
  unfold MatchSpec.targets at hbs
  cases hchildren : b.childrenNamed n.name with
  | error f =>
    rw [hchildren] at hbs
    cases hbs
  | ok cs =>
    rw [hchildren] at hbs
    cases hbs
    cases cs with
    | nil => exact List.mem_singleton.mp hc ▸ hb
    | cons d ds => exact hn.child p hp b hb _ hchildren c hc

theorem Admits.require (hn : C.Admits modules n) (ha : n.action = .requiresPresence)
    (hs : ∀ s ∈ n.subMatch, C.Follows modules s) (b : Block) :
    C.Keeps (require modules n b) := by
  have hcompanion := hn.companion ha
  unfold MatchSpec.require
  cases hbs : Module.ofType n.name modules with
  | nil => exact (ensures_note _).bind fun _ _ => keeps_pure false
  | cons c cs =>
    rw [hbs] at hcompanion
    have hc : C.block c := hcompanion c rfl
    apply keeps_evaluateSubMatch hs
    · intro bs h d hd
      cases h
      exact List.mem_singleton.mp hd ▸ hc
    · intro f h
      cases h

theorem Admits.handle (hn : C.Admits modules n) (hp : ∀ p ∈ n.predicates, C.Follows modules p)
    (hs : ∀ s ∈ n.subMatch, C.Follows modules s) (hb : C.block b) :
    C.Keeps (handle modules n b) := by
  unfold MatchSpec.handle
  cases ha : n.action with
  | and => exact (ensures_verdicts hp hb).bind fun _ _ => keeps_pure _
  | or => exact (ensures_verdicts hp hb).bind fun _ _ => keeps_pure _
  | not => exact (keeps_firstVerdict hp hb).bind fun _ _ => keeps_pure _
  | presence p =>
    have hassigning : n.isAssigning = true := by simp [isAssigning, ha, Action.isPresence]
    apply (ensures_lift (fun _ _ => trivial) (hn.presence ha hb)).bind
    intro q _
    refine ensures_ite ?_ (keeps_pure false)
    apply (hn.assign hassigning hb).bind
    intro _ _
    apply keeps_evaluateSubMatch hs (hn.targets ha hb)
    intro f hf
    exact hn.childrenNamed p ha b hb f (eq_error_of_map hf)
  | comparison a => exact hn.evaluateComparison ha hb
  | requiresPresence => exact hn.require ha hs b
  | inModule => exact keeps_pure _
  | hasTag => exact hn.evaluateTag ha hb

theorem evaluate {spec : MatchSpec} (h : ∀ n ∈ spec.nodes, C.Admits modules n) :
    C.Follows modules spec := by
  induction spec with
  | node spec hp hs hc =>
    intro b hb
    rw [evaluate_eq]
    -- The nodes of a child are nodes of the spec, so each child follows the contract.
    have hconditions := keeps_meets (fun c hm => hc c hm fun n hn =>
      h n (mem_nodes_of_preCondition hm hn)) hb
    apply hconditions.bind
    intro q _
    refine ensures_ite ?_ (keeps_pure true)
    exact (h spec (mem_nodes_self spec)).handle
      (fun p hm => hp p hm fun n hn => h n (mem_nodes_of_predicate hm hn))
      (fun s hm => hs s hm fun n hn => h n (mem_nodes_of_subMatch hm hn)) hb

end Children

end Contract
end BlockAudit
