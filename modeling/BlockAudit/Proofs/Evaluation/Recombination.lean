import BlockAudit.Proofs.Evaluation.Equivalence
import BlockAudit.Proofs.Evaluation.Related
import BlockAudit.Proofs.MatchSpec.Nodes
/-!
What an evaluation binds does not depend on how its verdicts are combined: conjunctions and disjunctions
can take each other's places, and nodes can be negated. Main statement: `run_recombined`.
-/

namespace BlockAudit.MatchSpec

open Evaluation

inductive SameBranches : Action → Action → Prop
  | refl (a : Action) : SameBranches a a
  | and_or : SameBranches .and .or
  | or_and : SameBranches .or .and

/-- The second spec is the first one with other combinators and with some nodes negated. Preconditions
are left as they are. -/
inductive Recombined : MatchSpec → MatchSpec → Prop
  | node {a a' : Action} {name : String} {v : Value} {ps ps' : List MatchSpec}
      {sub sub' : Option MatchSpec} {cs : List MatchSpec} {variableName : String}
      (haction : SameBranches a a') (hps : List.Forall₂ Recombined ps ps')
      (hsub : Option.Rel Recombined sub sub') :
      Recombined ⟨a, name, v, ps, sub, cs, variableName⟩ ⟨a', name, v, ps', sub', cs, variableName⟩
  | negated {p q : MatchSpec} {name : String} {v : Value} {sub : Option MatchSpec}
      {variableName : String} (h : Recombined p q) :
      Recombined p ⟨.not, name, v, [q], sub, [], variableName⟩

@[elab_as_elim]
theorem Recombined.induct {motive : MatchSpec → MatchSpec → Prop}
    (node : ∀ {a a' name v ps ps' sub sub' cs variableName}, SameBranches a a' →
      List.Forall₂ motive ps ps' → Option.Rel motive sub sub' →
        motive ⟨a, name, v, ps, sub, cs, variableName⟩ ⟨a', name, v, ps', sub', cs, variableName⟩)
    (negated : ∀ {p q name v sub variableName}, motive p q →
      motive p ⟨.not, name, v, [q], sub, [], variableName⟩)
    {p q : MatchSpec} (h : Recombined p q) : motive p q :=
  @Recombined.rec (fun p q _ => motive p q) (fun ps qs _ => List.Forall₂ motive ps qs)
    (fun sub sub' _ => Option.Rel motive sub sub') (fun haction _ _ hps hsub => node haction hps hsub)
    (fun _ h => negated h) .nil (fun _ _ h hs => .cons h hs) (fun _ h => .some h) .none p q h

theorem Recombined.refl (p : MatchSpec) : Recombined p p := by
  induction p with
  | node p hp hs _ =>
    obtain ⟨a, name, v, ps, sub, cs, variableName⟩ := p
    refine .node (.refl a) (List.forall₂_same.mpr hp) ?_
    cases sub with
    | none => exact .none
    | some s => exact .some (hs s rfl)

def LeavesSame (modules : List Module) (p q : MatchSpec) : Prop :=
  ∀ b, Related Eq (fun _ _ => True) (p.evaluate modules b) (q.evaluate modules b)

variable {modules : List Module} {ps ps' : List MatchSpec} {sub sub' : Option MatchSpec}

theorem related_true (e : Evaluation Bool) : Related Eq (fun _ _ => True) e e :=
  (related_eq e).mono fun _ _ _ => trivial

theorem related_verdicts_of_leavesSame (h : List.Forall₂ (LeavesSame modules) ps ps') (b : Block) :
    Related Eq (fun _ _ => True) (verdicts modules ps b) (verdicts modules ps' b) := by
  induction h with
  | nil => exact related_pure trivial
  | cons hp _ ih => exact (hp b).bind fun _ _ _ => ih.bind fun _ _ _ => related_pure trivial

theorem related_firstVerdict_of_leavesSame (h : List.Forall₂ (LeavesSame modules) ps ps')
    (b : Block) :
    Related Eq (fun _ _ => True) (firstVerdict modules ps b) (firstVerdict modules ps' b) := by
  cases h with
  | nil => exact related_pure trivial
  | cons hp _ => exact hp b

theorem related_evaluateSubMatch_of_leavesSame (h : Option.Rel (LeavesSame modules) sub sub')
    (targets : Except Fault (List Block)) :
    Related Eq (fun _ _ => True) (evaluateSubMatch modules sub targets)
      (evaluateSubMatch modules sub' targets) := by
  cases h with
  | none => exact related_pure trivial
  | some h =>
    apply (related_eq (liftM targets)).bind
    rintro bs _ rfl
    exact (related_mapM (List.forall₂_same.mpr fun b _ => h b)).bind fun _ _ _ =>
      related_pure trivial

/-- Whether a node goes on to its children hangs on the block, the modules and the variables, and not on
a verdict that a child has given. -/
theorem related_handle_of_leavesSame {a a' : Action} {name : String} {v : Value}
    {cs : List MatchSpec} {variableName : String} (haction : SameBranches a a')
    (hps : List.Forall₂ (LeavesSame modules) ps ps')
    (hsub : Option.Rel (LeavesSame modules) sub sub') (b : Block) :
    Related Eq (fun _ _ => True) (handle modules ⟨a, name, v, ps, sub, cs, variableName⟩ b)
      (handle modules ⟨a', name, v, ps', sub', cs, variableName⟩ b) := by
  have hverdicts := related_verdicts_of_leavesSame hps b
  cases haction with
  | and_or => exact hverdicts.bind fun _ _ _ => related_pure trivial
  | or_and => exact hverdicts.bind fun _ _ _ => related_pure trivial
  | refl a =>
    cases a with
    | and => exact hverdicts.bind fun _ _ _ => related_pure trivial
    | or => exact hverdicts.bind fun _ _ _ => related_pure trivial
    | not =>
      exact (related_firstVerdict_of_leavesSame hps b).bind fun _ _ _ => related_pure trivial
    | presence p =>
      refine (related_eq (liftM (p.holds name b))).bind fun x y hxy =>
        related_ite hxy ?_ (related_pure trivial)
      exact (related_eq (assign name variableName b)).bind fun _ _ _ =>
        related_evaluateSubMatch_of_leavesSame hsub (targets name b)
    | requiresPresence =>
      unfold handle require
      dsimp only
      cases Module.ofType name modules with
      | nil => exact related_true _
      | cons companion _ => exact related_evaluateSubMatch_of_leavesSame hsub (.ok [companion])
    | comparison c => exact related_true _
    | inModule => exact related_true _
    | hasTag => exact related_true _

theorem Recombined.leavesSame {p q : MatchSpec} (h : Recombined p q) (modules : List Module) :
    LeavesSame modules p q := by
  refine Recombined.induct ?_ ?_ h
  · intro a a' name v ps ps' sub sub' cs variableName haction hps hsub b
    rw [evaluate_eq, evaluate_eq]
    exact (related_eq (meets modules cs b)).bind fun x y hxy =>
      related_ite hxy (related_handle_of_leavesSame haction hps hsub b) (related_pure trivial)
  · intro p q name v sub variableName hq b
    have hnot : evaluate modules ⟨.not, name, v, [q], sub, [], variableName⟩ b =
        return !(← q.evaluate modules b) := evaluate_of_no_preConditions modules rfl b
    rw [hnot, ← bind_pure (p.evaluate modules b)]
    exact (hq b).bind fun _ _ _ => related_pure trivial

theorem run_recombined (modules : List Module) {p q : MatchSpec} (h : Recombined p q) (b : Block)
    (start : Bindings) :
    (q.run modules b start).2 = (p.run modules b start).2 ∧
      ∀ f, (q.run modules b start).1 = .error f ↔ (p.run modules b start).1 = .error f := by
  obtain ⟨hout, htrace⟩ := h.leavesSame modules b ⟨start, []⟩ ⟨start, []⟩ rfl
  refine ⟨?_, fun f => ?_⟩
  · exact congrArg (fun t : Trace => (t.bindings, t.notices.reverse)) htrace.symm
  · change ((q.evaluate modules b).after ⟨start, []⟩).1 = _ ↔
      ((p.evaluate modules b).after ⟨start, []⟩).1 = _
    generalize ((p.evaluate modules b).after ⟨start, []⟩).1 = x at hout
    generalize ((q.evaluate modules b).after ⟨start, []⟩).1 = y at hout
    cases hout with
    | ok _ => simp
    | error _ => rfl

namespace Sample

def present (name variableName : String) : MatchSpec :=
  ⟨.presence .present, name, .null, [], none, [], variableName⟩

def volumeOf (c : Comparison) (variableName : String) : MatchSpec :=
  ⟨.comparison c, "image", .str "image", [], none, [], variableName⟩

def onVolumes (spec : MatchSpec) : MatchSpec :=
  ⟨.presence .present, "volume", .null, [], some spec, [], ""⟩

def imaged : MatchSpec := conj
  [disj [present "image" "", present "image" "image"],
    onVolumes (disj [volumeOf .equals "same", volumeOf .notEquals "other"])]

def imagedOtherwise : MatchSpec := conj
  [conj [neg (present "image" ""), present "image" "image"],
    neg (onVolumes (conj [volumeOf .equals "same", neg (volumeOf .notEquals "other")]))]

def machine : Block :=
  ⟨"resource", ["machine", "x"],
    [(.str "image", .str "a"),
      (.str "volume", .list [.map [(.str "image", .str "b")], .map [(.str "image", .str "a")]])],
    .file "main", []⟩

end Sample

open Sample in
theorem run_recombined_imaged :
    Recombined imaged imagedOtherwise ∧
      (imagedOtherwise.run [] machine []).2 = (imaged.run [] machine []).2 ∧
      imaged.run [] machine [] =
        (.ok true, [("image", .str "a"), ("other", .str "b"), ("same", .str "a")], []) ∧
      (imagedOtherwise.run [] machine []).1 = .ok false := by
  have hfirst : Recombined (disj [present "image" "", present "image" "image"])
      (conj [neg (present "image" ""), present "image" "image"]) :=
    .node .or_and (.cons (.negated (.refl _)) (.cons (.refl _) .nil)) .none
  have hbelow : Recombined (disj [volumeOf .equals "same", volumeOf .notEquals "other"])
      (conj [volumeOf .equals "same", neg (volumeOf .notEquals "other")]) :=
    .node .or_and (.cons (.refl _) (.cons (.negated (.refl _)) .nil)) .none
  have hvolumes : Recombined (onVolumes (disj [volumeOf .equals "same", volumeOf .notEquals "other"]))
      (neg (onVolumes (conj [volumeOf .equals "same", neg (volumeOf .notEquals "other")]))) :=
    .negated (.node (.refl _) .nil (.some hbelow))
  have h : Recombined imaged imagedOtherwise :=
    .node (.refl .and) (.cons hfirst (.cons hvolumes .nil)) .none
  exact ⟨h, (run_recombined [] h machine []).1, rfl, rfl⟩

end BlockAudit.MatchSpec
