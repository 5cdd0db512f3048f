import BlockAudit.Proofs.Evaluation.Equivalence
import BlockAudit.Proofs.Evaluation.Leaves

namespace BlockAudit.MatchSpec

open Evaluation

structure Compares (c : Comparison) (path : String) (v : Value) (n : MatchSpec) : Prop where
  action : n.action = .comparison c
  name : n.name = path
  matchValue : n.matchValue = v
  preConditions : n.preConditions = []
  assignVariable : n.assignVariable = ""

structure Combines (a : Action) (ps : List MatchSpec) (n : MatchSpec) : Prop where
  action : n.action = a
  predicates : n.predicates = ps
  preConditions : n.preConditions = []

variable {modules : List Module} {b : Block} {s : Trace} {n : MatchSpec} {ps : List MatchSpec}
  {path : String} {u v : Value} {vs : List Value} {c : Comparison}

def Settles (modules : List Module) (b : Block) (s : Trace) (n : MatchSpec) (p : Bool) : Prop :=
  (n.evaluate modules b).after s = (.ok p, s)

theorem Settles.run_eq {σ : Bindings} {p : Bool} (h : n.Settles modules b ⟨σ, []⟩ p) :
    n.run modules b σ = (.ok p, σ, []) := by
  have hrun : n.run modules b σ = (((n.evaluate modules b).after ⟨σ, []⟩).1,
      ((n.evaluate modules b).after ⟨σ, []⟩).2.bindings,
      ((n.evaluate modules b).after ⟨σ, []⟩).2.notices.reverse) := rfl
  rw [hrun, h]
  rfl

theorem Compares.settles {test : Value → Bool} (h : n.Compares c path v)
    (hu : b.attributeAt path = .ok u) (hholds : ∀ w, c.holds u w = .ok (test w))
    (hnotices : ∀ w, c.notices u w = []) :
    n.Settles modules b s (!u.isNull && test (s.bindings.resolveItems v)) := by
  unfold Settles
  rw [evaluate_of_no_preConditions modules h.preConditions, handle, h.action]
  dsimp only
  rw [h.name, h.matchValue, h.assignVariable, evaluateComparison, after_lift_bind hu]
  cases u.isNull with
  | true => rfl
  | false =>
    rw [if_neg Bool.false_ne_true, after_bindings_bind]
    dsimp only
    rw [hnotices, hholds]
    cases test (s.bindings.resolveItems v) <;> rfl

theorem after_verdicts {qs : List Bool} (h : List.Forall₂ (Settles modules b s) ps qs) :
    (verdicts modules ps b).after s = (.ok qs, s) := by
  induction h with
  | nil => rfl
  | cons hp _ ih =>
    rw [verdicts, after_bind, hp]
    dsimp only
    rw [after_bind, ih]
    rfl

theorem Combines.settles {a : Action} {combined : List Bool → Bool} {qs : List Bool}
    (h : n.Combines a ps)
    (ha : ∀ m : MatchSpec, m.action = a →
      handle modules m b = return combined (← verdicts modules m.predicates b))
    (hps : List.Forall₂ (Settles modules b s) ps qs) :
    n.Settles modules b s (combined qs) := by
  rw [Settles, evaluate_of_no_preConditions modules h.preConditions, ha n h.action, h.predicates,
    after_bind, after_verdicts hps]
  rfl

theorem resolveItems_of_not_list (σ : Bindings) (h : ∀ ws, v ≠ .list ws) :
    σ.resolveItems v = σ.resolve v := by
  cases v with
  | list ws => exact absurd rfl (h ws)
  | _ => rfl

theorem settles_each {test : Value → Bool} (hps : List.Forall₂ (Compares c path) vs ps)
    (hvs : ∀ v ∈ vs, ∀ ws, v ≠ .list ws) (hu : b.attributeAt path = .ok u)
    (hholds : ∀ w, c.holds u w = .ok (test w)) (hnotices : ∀ w, c.notices u w = []) :
    List.Forall₂ (Settles modules b s) ps
      (vs.map fun v => !u.isNull && test (s.bindings.resolve v)) := by
  induction hps with
  | nil => exact .nil
  | cons hp _ ih =>
    obtain ⟨hv, hvs⟩ := List.forall_mem_cons.mp hvs
    rw [List.map_cons, ← resolveItems_of_not_list s.bindings hv]
    exact .cons (hp.settles hu hholds hnotices) (ih hvs)

def equalsSome (σ : Bindings) (u : Value) (vs : List Value) : Bool :=
  vs.any fun v => Comparison.equalTo u (σ.resolve v)

theorem Compares.settles_isAny (h : n.Compares .isAny path (.list vs))
    (hu : b.attributeAt path = .ok u) :
    n.Settles modules b s (!u.isNull && equalsSome s.bindings u vs) := by
  have hsettles : n.Settles modules b s _ := h.settles hu (fun _ => rfl) fun _ => rfl
  rwa [Bindings.resolveItems, Comparison.anyOf, List.any_map] at hsettles

theorem Compares.settles_isNone (h : n.Compares .isNone path (.list vs))
    (hu : b.attributeAt path = .ok u) :
    n.Settles modules b s (!u.isNull && !equalsSome s.bindings u vs) := by
  have hsettles : n.Settles modules b s _ := h.settles hu (fun _ => rfl) fun _ => rfl
  rwa [Bindings.resolveItems, Comparison.noneOf, List.any_map] at hsettles

theorem Combines.settles_equals (h : n.Combines .or ps)
    (hps : List.Forall₂ (Compares .equals path) vs ps) (hvs : ∀ v ∈ vs, ∀ ws, v ≠ .list ws)
    (hu : b.attributeAt path = .ok u) :
    n.Settles modules b s (!u.isNull && equalsSome s.bindings u vs) := by
  have hsettles : n.Settles modules b s _ :=
    h.settles (fun m hm => by rw [handle, hm])
      (settles_each hps hvs hu (fun _ => rfl) fun _ => rfl)
  have hany : (vs.map fun v => !u.isNull && Comparison.equalTo u (s.bindings.resolve v)).any id =
      (!u.isNull && equalsSome s.bindings u vs) := by
    rw [List.any_map, equalsSome]
    cases u.isNull <;> simp
  rwa [hany] at hsettles

/-- Without values nothing is asked, and the combination holds also of what is absent. -/
theorem Combines.settles_notEquals (h : n.Combines .and ps)
    (hps : List.Forall₂ (Compares .notEquals path) vs ps) (hvs : ∀ v ∈ vs, ∀ ws, v ≠ .list ws)
    (hu : b.attributeAt path = .ok u) :
    n.Settles modules b s (vs.isEmpty || !u.isNull && !equalsSome s.bindings u vs) := by
  have hsettles : n.Settles modules b s _ :=
    h.settles (fun m hm => by rw [handle, hm])
      (settles_each hps hvs hu (fun _ => rfl) fun _ => rfl)
  have hall : (vs.map fun v => !u.isNull && !Comparison.equalTo u (s.bindings.resolve v)).all id =
      (vs.isEmpty || !u.isNull && !equalsSome s.bindings u vs) := by
    rw [List.all_map, equalsSome, List.not_any_eq_all_not]
    cases vs with
    | nil => rfl
    | cons v vs => cases u.isNull <;> simp
  rwa [hall] at hsettles

theorem isAny_isNone_iterated (modules : List Module) (σ : Bindings)
    (hu : b.attributeAt path = .ok u) (hvs : ∀ v ∈ vs, ∀ ws, v ≠ .list ws) :
    (∀ n m ps, Compares .isAny path (.list vs) n →
      List.Forall₂ (Compares .equals path) vs ps → Combines .or ps m →
        ∃ p, n.run modules b σ = (.ok p, σ, []) ∧ m.run modules b σ = (.ok p, σ, [])) ∧
    ∀ n m ps, Compares .isNone path (.list vs) n →
      List.Forall₂ (Compares .notEquals path) vs ps → Combines .and ps m →
        ∃ p q, n.run modules b σ = (.ok p, σ, []) ∧ m.run modules b σ = (.ok q, σ, []) ∧
          (p = q ↔ u ≠ .null ∨ vs ≠ []) := by
  constructor
  · intro n m ps hn hps hm
    exact ⟨_, (hn.settles_isAny hu).run_eq, (hm.settles_equals hps hvs hu).run_eq⟩
  · intro n m ps hn hps hm
    refine ⟨_, _, (hn.settles_isNone hu).run_eq, (hm.settles_notEquals hps hvs hu).run_eq, ?_⟩
    rw [← Value.isNull_eq_false]
    cases vs <;> cases u.isNull <;> simp [equalsSome]

namespace Sample

def allowed : List Value := [.str "known", .int 443]

def onPort (c : Comparison) (v : Value) : MatchSpec :=
  ⟨.comparison c, "rules.1.port", v, [], none, [], ""⟩

end Sample

open Sample in
theorem isAny_isNone_iterated_allowed : gated.attributeAt "rules.1.port" = .ok (.str "443") ∧
    (∀ v ∈ allowed, ∀ ws, v ≠ .list ws) ∧
    let σ : Bindings := [("known", .list [.int 80])]
    (∃ p, (onPort .isAny (.list allowed)).run [] gated σ = (.ok p, σ, []) ∧
      (disj (allowed.map (onPort .equals))).run [] gated σ = (.ok p, σ, [])) ∧
    ∃ p, (onPort .isNone (.list allowed)).run [] gated σ = (.ok p, σ, []) ∧
      (conj (allowed.map (onPort .notEquals))).run [] gated σ = (.ok p, σ, []) := by
  have hport : gated.attributeAt "rules.1.port" = .ok (.str "443") := rfl
  have hallowed : ∀ v ∈ allowed, ∀ ws, v ≠ .list ws := by simp [allowed]
  have hcompares (c : Comparison) (v : Value) : Compares c "rules.1.port" v (onPort c v) :=
    ⟨rfl, rfl, rfl, rfl, rfl⟩
  have heach (c : Comparison) :
      List.Forall₂ (Compares c "rules.1.port") allowed (allowed.map (onPort c)) :=
    .cons (hcompares c _) (.cons (hcompares c _) .nil)
  have hdisj (ps : List MatchSpec) : Combines .or ps (disj ps) := ⟨rfl, rfl, rfl⟩
  have hconj (ps : List MatchSpec) : Combines .and ps (conj ps) := ⟨rfl, rfl, rfl⟩
  obtain ⟨hany, hnone⟩ :=
    isAny_isNone_iterated [] [("known", .list [.int 80])] hport hallowed
  obtain ⟨p, q, hp, hq, hpq⟩ := hnone _ _ _ (hcompares _ _) (heach _) (hconj _)
  obtain rfl := hpq.mpr (Or.inl nofun)
  exact ⟨hport, hallowed, hany _ _ _ (hcompares _ _) (heach _) (hdisj _), p, hp, hq⟩

end BlockAudit.MatchSpec
