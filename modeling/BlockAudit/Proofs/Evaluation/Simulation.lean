import BlockAudit.Proofs.Evaluation.Node
import BlockAudit.Proofs.Evaluation.Related
import BlockAudit.Proofs.MatchSpec.Nodes
/-!
Two evaluations of match specs of one shape stay in step if what they read of their blocks, variables and
modules does. Main statements: `Simulation.Respects.mirrors`, and `Simulation.Sound.evaluate` for one
match spec.
-/

namespace BlockAudit

structure Simulation where
  trace : Trace → Trace → Prop
  value : Value → Value → Prop
  block : Block → Block → Prop

namespace Simulation

open Evaluation MatchSpec

/-- The relations are kept by all that an evaluation does, apart from binding. -/
structure Respects (S : Simulation) : Prop where
  note : ∀ n s t, S.trace s t → S.trace { s with notices := n :: s.notices }
    { t with notices := n :: t.notices }
  address : ∀ b c, S.block b c → b.address = c.address
  inModule : ∀ b c, S.block b c → b.inModule = c.inModule
  attributeAt : ∀ b c path, S.block b c →
    SameOutcome S.value (b.attributeAt path) (c.attributeAt path)
  tag? : ∀ b c key, S.block b c → SameOutcome (Option.Rel S.value) (b.tag? key) (c.tag? key)
  childrenNamed : ∀ b c name, S.block b c →
    SameOutcome (List.Forall₂ S.block) (b.childrenNamed name) (c.childrenNamed name)
  isNull : ∀ v w, S.value v w → v.isNull = w.isNull
  isEmptyValue : ∀ v w, S.value v w → Presence.isEmptyValue v = Presence.isEmptyValue w
  equalTo : ∀ v w x y, S.value v w → S.value x y →
    Comparison.equalTo v x = Comparison.equalTo w y
  holds : ∀ (c : Comparison) v w x y, S.value v w → S.value x y → c.holds v x = c.holds w y
  notices : ∀ (c : Comparison) v w x y, S.value v w → S.value x y →
    c.notices v x = c.notices w y

def Binds (S : Simulation) (name : String) : Prop :=
  ∀ v w s t, S.value v w → S.trace s t →
    S.trace { s with bindings := s.bindings.bind name v }
      { t with bindings := t.bindings.bind name w }

structure Sound (S : Simulation) : Prop extends Respects S where
  bind : ∀ name, S.Binds name

theorem respects_of_values {trace : Trace → Trace → Prop} {block : Block → Block → Prop}
    (hnote : ∀ n s t, trace s t → trace { s with notices := n :: s.notices }
      { t with notices := n :: t.notices })
    (haddress : ∀ b c, block b c → b.address = c.address)
    (hinModule : ∀ b c, block b c → b.inModule = c.inModule)
    (hattributeAt : ∀ b c path, block b c → b.attributeAt path = c.attributeAt path)
    (htag : ∀ b c key, block b c → b.tag? key = c.tag? key)
    (hchildrenNamed : ∀ b c name, block b c →
      SameOutcome (List.Forall₂ block) (b.childrenNamed name) (c.childrenNamed name)) :
    Respects ⟨trace, Eq, block⟩ where
  note := hnote
  address := haddress
  inModule := hinModule
  attributeAt b c path h := hattributeAt b c path h ▸ .refl (fun _ => rfl) _
  tag? b c key h := htag b c key h ▸ .refl optionRel_refl _
  childrenNamed := hchildrenNamed
  isNull := by rintro v _ rfl; rfl
  isEmptyValue := by rintro v _ rfl; rfl
  equalTo := by rintro v _ x _ rfl rfl; rfl
  holds := by rintro c v _ x _ rfl rfl; rfl
  notices := by rintro c v _ x _ rfl rfl; rfl

theorem respects_of_trace {trace : Trace → Trace → Prop}
    (hnote : ∀ n s t, trace s t → trace { s with notices := n :: s.notices }
      { t with notices := n :: t.notices }) : Respects ⟨trace, Eq, Eq⟩ := by
  refine respects_of_values hnote ?_ ?_ ?_ ?_ ?_
  · rintro b _ rfl
    rfl
  · rintro b _ rfl
    rfl
  · rintro b _ path rfl
    rfl
  · rintro b _ key rfl
    rfl
  · rintro b _ name rfl
    exact .refl (fun bs => List.forall₂_same.mpr fun _ _ => rfl) _

theorem binds_of_values {trace : Trace → Trace → Prop} {block : Block → Block → Prop}
    (hbind : ∀ name v s t, trace s t → trace { s with bindings := s.bindings.bind name v }
      { t with bindings := t.bindings.bind name v }) (name : String) :
    Binds ⟨trace, Eq, block⟩ name := by
  rintro v _ s t rfl
  exact hbind name v s t

/-- What the first node reads apart from its block is related to what the second one reads: the variables
behind their match values, or the blocks that they require to be present. -/
def Serves (S : Simulation) (M N : List Module) (n n' : MatchSpec) : Prop :=
  match n.action with
  | .comparison _ => ∀ s t, S.trace s t →
      S.value (s.bindings.resolveItems n.matchValue) (t.bindings.resolveItems n'.matchValue)
  | .hasTag => n.matchValue.isNull = n'.matchValue.isNull ∧ ∀ s t, S.trace s t →
      S.value (s.bindings.resolve n.matchValue) (t.bindings.resolve n'.matchValue)
  | .requiresPresence =>
    Option.Rel S.block (Module.ofType n.name M).head? (Module.ofType n.name N).head?
  | _ => True

variable {S : Simulation} {b c : Block}

theorem Respects.hasAttribute (hS : S.Respects) (name : String) (hb : S.block b c) :
    b.hasAttribute name = c.hasAttribute name :=
  ((hS.attributeAt b c name hb).map fun v w hvw =>
    congrArg (fun x => !x) (hS.isNull v w hvw)).eq

theorem Respects.hasChild (hS : S.Respects) (name : String) (hb : S.block b c) :
    b.hasChild name = c.hasChild name := by
  rw [Block.hasChild, Block.hasChild, hS.hasAttribute name hb]
  have hchildren := hS.childrenNamed b c name hb
  generalize b.childrenNamed name = x at hchildren
  generalize c.childrenNamed name = y at hchildren
  cases hchildren with
  | ok h => cases h <;> rfl
  | error f => rfl

theorem Respects.presence (hS : S.Respects) (p : Presence) (name : String) (hb : S.block b c) :
    p.holds name b = p.holds name c := by
  cases p with
  | present => exact hS.hasChild name hb
  | absent => simp only [Presence.holds, hS.hasChild name hb]
  | empty => exact ((hS.attributeAt b c name hb).map hS.isEmptyValue).eq

theorem Respects.assign (hS : S.Respects) (name : String) {variableName : String}
    (hbind : variableName.isEmpty = true ∨ S.Binds variableName) (hb : S.block b c) :
    Related S.trace Eq (assign name variableName b) (assign name variableName c) := by
  unfold MatchSpec.assign
  rcases hbind with hempty | hbind
  · rw [hempty]
    exact related_pure rfl
  · refine related_ite rfl ?_ (related_pure rfl)
    apply (related_lift (hS.attributeAt b c name hb)).bind
    intro v w hvw
    refine related_ite (by rw [hS.isNull v w hvw]) ?_ (related_pure rfl)
    exact related_modify fun s t hst => hbind v w s t hvw hst

theorem Respects.note_related (hS : S.Respects) (n : Notice) :
    Related S.trace Eq (Evaluation.note n) (Evaluation.note n) :=
  related_modify (hS.note n)

theorem Respects.evaluateComparison (hS : S.Respects) (a : Comparison) (name : String)
    {variableName : String} (hbind : variableName.isEmpty = true ∨ S.Binds variableName)
    {v v' : Value} (hb : S.block b c) (hv : ∀ s t, S.trace s t →
      S.value (s.bindings.resolveItems v) (t.bindings.resolveItems v')) :
    Related S.trace Eq (evaluateComparison a name variableName v b)
      (evaluateComparison a name variableName v' c) := by
  apply (related_lift (hS.attributeAt b c name hb)).bind
  intro x y hxy
  apply related_ite (hS.isNull x y hxy) (related_pure rfl)
  have hresolved : Related S.trace (fun σ τ => S.value (σ.resolveItems v) (τ.resolveItems v'))
      bindings bindings := related_bindings hv
  apply hresolved.bind
  intro σ τ hστ
  dsimp only
  rw [hS.notices a x y _ _ hxy hστ, hS.holds a x y _ _ hxy hστ]
  apply (related_forM hS.note_related _).bind
  intro _ _ _
  apply (related_lift (SameOutcome.refl (fun _ => rfl) _)).bind
  intro p q hpq
  refine related_ite hpq ?_ (related_pure rfl)
  exact (hS.assign name hbind hb).bind fun _ _ _ => related_pure rfl

theorem Respects.evaluateTag (hS : S.Respects) (name : String) {v v' : Value} (hb : S.block b c)
    (hnull : v.isNull = v'.isNull)
    (hv : ∀ s t, S.trace s t → S.value (s.bindings.resolve v) (t.bindings.resolve v')) :
    Related S.trace Eq (evaluateTag name v b) (evaluateTag name v' c) := by
  apply (related_lift (hS.tag? b c name hb)).bind
  intro x y hxy
  cases hxy with
  | none => exact related_pure rfl
  | some hxy =>
    apply related_ite hnull (related_pure rfl)
    have hresolved : Related S.trace (fun σ τ => S.value (σ.resolve v) (τ.resolve v'))
        bindings bindings := related_bindings hv
    exact hresolved.bind fun σ τ hστ => related_pure (hS.equalTo _ _ _ _ hxy hστ)

theorem Respects.targets (hS : S.Respects) (name : String) (hb : S.block b c) :
    SameOutcome (List.Forall₂ S.block) (targets name b) (targets name c) := by
  apply (hS.childrenNamed b c name hb).map
  intro bs cs hbs
  cases hbs with
  | nil => exact .cons hb .nil
  | cons h hs => exact .cons h hs

section Children

variable {M N : List Module}

def Mirrors (S : Simulation) (M N : List Module) (spec spec' : MatchSpec) : Prop :=
  ∀ b c, S.block b c → Related S.trace Eq (spec.evaluate M b) (spec'.evaluate N c)

variable {f : MatchSpec → MatchSpec}

theorem Respects.meets (hS : S.Respects) {cs : List MatchSpec}
    (h : ∀ d ∈ cs, S.Mirrors M N d (f d) ∧ (f d).action = d.action) (hb : S.block b c) :
    Related S.trace Eq (meets M cs b) (meets N (cs.map f) c) := by
  induction cs with
  | nil => exact related_pure rfl
  | cons d ds ih =>
    obtain ⟨⟨hd, haction⟩, hds⟩ := List.forall_mem_cons.mp h
    refine (hd b c hb).bind fun p q hpq => related_ite hpq (ih hds) ?_
    rw [hS.address b c hb, haction]
    exact (hS.note_related _).bind fun _ _ _ => related_pure rfl

theorem related_verdicts {ps : List MatchSpec} (h : ∀ p ∈ ps, S.Mirrors M N p (f p))
    (hb : S.block b c) : Related S.trace Eq (verdicts M ps b) (verdicts N (ps.map f) c) := by
  induction ps with
  | nil => exact related_pure rfl
  | cons p ps ih =>
    obtain ⟨hp, hps⟩ := List.forall_mem_cons.mp h
    refine (hp b c hb).bind fun x y hxy => (ih hps).bind fun xs ys hxs => related_pure ?_
    rw [hxy, hxs]

theorem related_firstVerdict {ps : List MatchSpec} (h : ∀ p ∈ ps, S.Mirrors M N p (f p))
    (hb : S.block b c) : Related S.trace Eq (firstVerdict M ps b) (firstVerdict N (ps.map f) c) := by
  cases ps with
  | nil => exact related_pure rfl
  | cons p ps => exact h p List.mem_cons_self b c hb

theorem related_evaluateSubMatch {sub : Option MatchSpec} (h : ∀ s ∈ sub, S.Mirrors M N s (f s))
    {bs cs : Except Fault (List Block)} (hbs : SameOutcome (List.Forall₂ S.block) bs cs) :
    Related S.trace Eq (evaluateSubMatch M sub bs) (evaluateSubMatch N (sub.map f) cs) := by
  cases sub with
  | none => exact related_pure rfl
  | some spec =>
    apply (related_lift hbs).bind
    intro bs cs hbs
    apply (related_mapM (hbs.imp fun b c hb => h spec rfl b c hb)).bind
    intro xs ys hxs
    rw [List.forall₂_eq_eq_eq] at hxs
    exact related_pure (by rw [hxs])

structure KeepsShape (f : MatchSpec → MatchSpec) : Prop where
  action : ∀ n, (f n).action = n.action
  name : ∀ n, (f n).name = n.name
  assignVariable : ∀ n, (f n).assignVariable = n.assignVariable
  predicates : ∀ n, (f n).predicates = n.predicates.map f
  subMatch : ∀ n, (f n).subMatch = n.subMatch.map f
  preConditions : ∀ n, (f n).preConditions = n.preConditions.map f

theorem keepsShape_id : KeepsShape id where
  action _ := rfl
  name _ := rfl
  assignVariable _ := rfl
  predicates n := (List.map_id n.predicates).symm
  subMatch n := (Option.map_id_apply (x := n.subMatch)).symm
  preConditions n := (List.map_id n.preConditions).symm

theorem Respects.require (hS : S.Respects) (hf : KeepsShape f) {spec : MatchSpec}
    (hs : ∀ s ∈ spec.subMatch, S.Mirrors M N s (f s))
    (hcompanion : Option.Rel S.block (Module.ofType spec.name M).head?
      (Module.ofType spec.name N).head?) (hb : S.block b c) :
    Related S.trace Eq (require M spec b) (require N (f spec) c) := by
  unfold MatchSpec.require
  rw [hf.name, hf.subMatch]
  generalize Module.ofType spec.name M = bs at hcompanion
  generalize Module.ofType spec.name N = cs at hcompanion
  cases bs with
  | nil =>
    cases cs with
    | nil =>
      rw [hS.address b c hb]
      exact (hS.note_related _).bind fun _ _ _ => related_pure rfl
    | cons d ds => cases hcompanion
  | cons d ds =>
    cases cs with
    | nil => cases hcompanion
    | cons e es =>
      cases hcompanion with
      | some hde => exact related_evaluateSubMatch hs (.ok (.cons hde .nil))

theorem Respects.handle (hS : S.Respects) (hf : KeepsShape f) {spec : MatchSpec}
    (hserves : S.Serves M N spec (f spec))
    (hbind : spec.assignVariable.isEmpty = true ∨ S.Binds spec.assignVariable)
    (hp : ∀ p ∈ spec.predicates, S.Mirrors M N p (f p))
    (hs : ∀ s ∈ spec.subMatch, S.Mirrors M N s (f s)) (hb : S.block b c) :
    Related S.trace Eq (handle M spec b) (handle N (f spec) c) := by
  unfold MatchSpec.handle
  unfold Serves at hserves
  rw [hf.action, hf.name, hf.assignVariable, hf.predicates, hf.subMatch]
  cases ha : spec.action with
  | and =>
    exact (related_verdicts hp hb).bind fun xs ys hxs => related_pure (by rw [hxs])
  | or =>
    exact (related_verdicts hp hb).bind fun xs ys hxs => related_pure (by rw [hxs])
  | not =>
    exact (related_firstVerdict hp hb).bind fun x y hxy => related_pure (by rw [hxy])
  | presence p =>
    have hpresence : SameOutcome Eq (p.holds spec.name b) (p.holds spec.name c) :=
      hS.presence p spec.name hb ▸ SameOutcome.refl (fun _ => rfl) _
    refine (related_lift hpresence).bind fun x y hxy => related_ite hxy ?_ (related_pure rfl)
    exact (hS.assign spec.name hbind hb).bind fun _ _ _ =>
      related_evaluateSubMatch hs (hS.targets spec.name hb)
  | comparison a =>
    rw [ha] at hserves
    exact hS.evaluateComparison a spec.name hbind hb hserves
  | requiresPresence =>
    rw [ha] at hserves
    exact hS.require hf hs hserves hb
  | inModule => exact related_pure (hS.inModule b c hb)
  | hasTag =>
    rw [ha] at hserves
    exact hS.evaluateTag spec.name hb hserves.1 hserves.2

theorem Respects.mirrors (hS : S.Respects) (hf : KeepsShape f) {spec : MatchSpec}
    (h : ∀ n ∈ spec.nodes, S.Serves M N n (f n))
    (hbind : ∀ n ∈ spec.nodes, n.assignVariable.isEmpty = true ∨ S.Binds n.assignVariable) :
    S.Mirrors M N spec (f spec) := by
  induction spec with
  | node spec hp hs hc =>
    intro b c hb
    -- What the children read and bind is read and bound by the node too, so the hypotheses apply to
    -- each of them.
    rw [evaluate_eq, evaluate_eq, hf.preConditions]
    refine (hS.meets (fun d hd => ⟨hc d hd
      (fun n hn => h n (mem_nodes_of_preCondition hd hn))
      (fun n hn => hbind n (mem_nodes_of_preCondition hd hn)), hf.action d⟩) hb).bind
      fun p q hpq => ?_
    refine related_ite hpq ?_ (related_pure rfl)
    exact hS.handle hf (h spec (mem_nodes_self spec)) (hbind spec (mem_nodes_self spec))
      (fun p hm => hp p hm (fun n hn => h n (mem_nodes_of_predicate hm hn))
        (fun n hn => hbind n (mem_nodes_of_predicate hm hn)))
      (fun s hm => hs s hm (fun n hn => h n (mem_nodes_of_subMatch hm hn))
        (fun n hn => hbind n (mem_nodes_of_subMatch hm hn))) hb

theorem Sound.evaluate (hS : S.Sound) {spec : MatchSpec}
    (h : ∀ n ∈ spec.nodes, S.Serves M N n n) : S.Mirrors M N spec spec :=
  hS.toRespects.mirrors keepsShape_id h fun n _ => Or.inr (hS.bind n.assignVariable)

end Children

end Simulation
end BlockAudit
