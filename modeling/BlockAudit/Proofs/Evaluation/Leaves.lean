import BlockAudit.Proofs.Block.Reading
import BlockAudit.Proofs.Evaluation.Ensures
import BlockAudit.Proofs.Evaluation.Node

namespace BlockAudit

namespace Comparison

variable {v w : Value}

theorem contained_of_onTexts {test : List Char → List Char → Bool}
    (htest : ∀ s t, test s t = true → t <:+: s) (h : onTexts test v w = true) :
    contained v w = true := by
  have hinfix : onTexts (fun s t => Text.isInfix t s) v w = true := by
    unfold onTexts at h ⊢
    split
    · next s t hs ht =>
      rw [hs, ht] at h
      exact Text.isInfix_iff.mpr (htest s t h)
    · next hnone =>
      cases hs : v.comparedText? with
      | none => simp [hs] at h
      | some s =>
        cases ht : w.comparedText? with
        | none => simp [hs, ht] at h
        | some t => exact absurd ht (hnone s t hs)
  cases v with
  | list vs => cases hinfix
  | map es => cases hinfix
  | _ => exact hinfix

end Comparison

namespace MatchSpec

open Evaluation

variable {modules : List Module} {n : MatchSpec} {b : Block} {σ : Bindings} {u : Value}

theorem run_fst (modules : List Module) (spec : MatchSpec) (b : Block) (σ : Bindings) :
    (spec.run modules b σ).1 = ((spec.evaluate modules b).after ⟨σ, []⟩).1 := rfl

theorem after_forM_note (ns : List Notice) (s : Trace) :
    ∃ t, (ns.forM note).after s = (.ok (), t) := by
  induction ns generalizing s with
  | nil => exact ⟨s, rfl⟩
  | cons m ns ih => exact ih { s with notices := m :: s.notices }

theorem after_assign {name : String} (h : b.attributeAt name = .ok u) (variableName : String)
    (s : Trace) : ∃ t, (assign name variableName b).after s = (.ok (), t) := by
  unfold assign
  cases variableName.isEmpty with
  | true => exact ⟨s, rfl⟩
  | false =>
    cases hu : u.isNull with
    | true => exact ⟨s, (after_lift_bind h _ s).trans (by rw [hu]; rfl)⟩
    | false => exact ⟨_, (after_lift_bind h _ s).trans (by rw [hu]; rfl)⟩

theorem after_evaluateComparison {name : String} (h : b.attributeAt name = .ok u)
    (hu : u.isNull = false) (c : Comparison) (variableName : String) (v : Value) (s : Trace) :
    ((evaluateComparison c name variableName v b).after s).1 =
      c.holds u (s.bindings.resolveItems v) := by
  unfold evaluateComparison
  rw [after_lift_bind h, if_neg (by simp [hu]), after_bindings_bind, after_bind]
  obtain ⟨t, ht⟩ := after_forM_note (c.notices u (s.bindings.resolveItems v)) s
  rw [ht]
  cases hholds : c.holds u (s.bindings.resolveItems v) with
  | error f => rfl
  | ok p =>
    cases p with
    | false => rfl
    | true =>
      obtain ⟨t', ht'⟩ := after_assign h variableName t
      have hassign : ((assign name variableName b >>= fun _ => pure true).after t).1 = .ok true := by
        rw [after_bind, ht']
        rfl
      exact hassign

theorem run_comparison {c : Comparison} (ha : n.action = .comparison c) (hpre : n.preConditions = [])
    (h : b.attributeAt n.name = .ok u) : (n.run modules b σ).1 =
      if u.isNull then .ok false else c.holds u (σ.resolveItems n.matchValue) := by
  rw [run_fst, evaluate_of_no_preConditions modules hpre, handle, ha]
  cases hu : u.isNull with
  | true =>
    dsimp only
    rw [evaluateComparison, after_lift_bind h, if_pos hu]
    rfl
  | false => exact after_evaluateComparison h hu c _ _ _

theorem run_presence {p : Presence} (ha : n.action = .presence p) (hpre : n.preConditions = [])
    (hsub : n.subMatch = none) (h : b.attributeAt n.name = .ok u) :
    (n.run modules b σ).1 = p.holds n.name b := by
  rw [run_fst, evaluate_of_no_preConditions modules hpre, handle, ha, hsub]
  cases hholds : p.holds n.name b with
  | error f =>
    dsimp only
    rw [hholds]
    rfl
  | ok q =>
    dsimp only
    rw [after_lift_bind hholds]
    cases q with
    | false => rfl
    | true =>
      obtain ⟨t, ht⟩ := after_assign h n.assignVariable ⟨σ, []⟩
      rw [if_pos rfl, after_bind, ht]
      rfl

def verdictWith (modules : List Module) (n : MatchSpec) (b : Block) (σ : Bindings) (a : Action) :
    Except Fault Bool := (({ n with action := a } : MatchSpec).run modules b σ).1

theorem verdictWith_comparison (hpre : n.preConditions = []) (h : b.attributeAt n.name = .ok u)
    (c : Comparison) : n.verdictWith modules b σ (.comparison c) =
      if u.isNull then .ok false else c.holds u (σ.resolveItems n.matchValue) :=
  run_comparison (n := { n with action := .comparison c }) rfl hpre h

theorem verdictWith_presence (hpre : n.preConditions = []) (hsub : n.subMatch = none)
    (h : b.attributeAt n.name = .ok u) (p : Presence) :
    n.verdictWith modules b σ (.presence p) = p.holds n.name b :=
  run_presence (n := { n with action := .presence p }) rfl hpre hsub h

theorem verdictWith_contains {c : Comparison} {test : List Char → List Char → Bool}
    (hpre : n.preConditions = []) (hu : b.attributeAt n.name = .ok u)
    (htest : ∀ s t, test s t = true → t <:+: s)
    (hc : ∀ w, c.holds u w = .ok (Comparison.onTexts test u w))
    (h : n.verdictWith modules b σ (.comparison c) = .ok true) :
    n.verdictWith modules b σ (.comparison .contains) = .ok true := by
  rw [verdictWith_comparison hpre hu, hc] at h
  rw [verdictWith_comparison hpre hu]
  split at h
  · cases h
  · next hnull =>
    rw [if_neg hnull]
    exact congrArg Except.ok (Comparison.contained_of_onTexts htest (Except.ok.inj h))

theorem isEmptyValue_of_isNull (h : u.isNull = true) : Presence.isEmptyValue u = true := by
  cases u <;> first | rfl | cases h

theorem exists_hasChild (hkeys : (Value.map b.body).keyedByText = true) {name : String}
    (h : b.attributeAt name = .ok u) :
    ∃ p, b.hasChild name = .ok p ∧ (p = false → u.isNull = true) := by
  obtain ⟨cs, hcs, -⟩ := Block.exists_childrenNamed Value.keyedByText_inherited hkeys hkeys name
  rw [Block.hasChild, Block.hasAttribute, h, hcs, Except.map, ok_bind]
  cases u.isNull with
  | true => exact ⟨!cs.isEmpty, rfl, fun _ => rfl⟩
  | false => exact ⟨true, rfl, nofun⟩

/-- Without an attribute no comparison holds; with one, negated actions are negations, and a text that
starts or ends with another contains it. Nothing is either present or not present, and what is not present
is empty. -/
theorem leaf_laws (modules : List Module) {n : MatchSpec} {b : Block} (σ : Bindings)
    (hkeys : (Value.map b.body).keyedByText = true)
    (hname : Value.Indexed (Text.fields '.' n.name.toList)) (hpre : n.preConditions = [])
    (hsub : n.subMatch = none) :
    ∃ u, b.attributeAt n.name = .ok u ∧
      (u = .null → ∀ c, n.verdictWith modules b σ (.comparison c) = .ok false) ∧
      (u ≠ .null →
        (∃ p, n.verdictWith modules b σ (.comparison .equals) = .ok p ∧
          n.verdictWith modules b σ (.comparison .notEquals) = .ok !p) ∧
        (∃ p, n.verdictWith modules b σ (.comparison .contains) = .ok p ∧
          n.verdictWith modules b σ (.comparison .notContains) = .ok !p) ∧
        (∀ vs, σ.resolveItems n.matchValue = .list vs →
          ∃ p, n.verdictWith modules b σ (.comparison .isAny) = .ok p ∧
            n.verdictWith modules b σ (.comparison .isNone) = .ok !p) ∧
        ((∀ vs, σ.resolveItems n.matchValue ≠ .list vs) →
          n.verdictWith modules b σ (.comparison .isAny) = .ok false ∧
            n.verdictWith modules b σ (.comparison .isNone) = .ok false)) ∧
      (n.verdictWith modules b σ (.comparison .startsWith) = .ok true →
        n.verdictWith modules b σ (.comparison .contains) = .ok true) ∧
      (n.verdictWith modules b σ (.comparison .endsWith) = .ok true →
        n.verdictWith modules b σ (.comparison .contains) = .ok true) ∧
      ∃ p e, n.verdictWith modules b σ (.presence .present) = .ok p ∧
        n.verdictWith modules b σ (.presence .absent) = .ok !p ∧
        n.verdictWith modules b σ (.presence .empty) = .ok e ∧ (p = false → e = true) := by
  obtain ⟨u, hu⟩ := Block.exists_attributeAt hkeys hname
  refine ⟨u, hu, ?_, ?_, ?_, ?_, ?_⟩
  · rintro rfl c
    exact verdictWith_comparison hpre hu c
  · intro hpresent
    simp only [verdictWith_comparison hpre hu, Value.isNull_eq_false.mpr hpresent,
      Bool.false_eq_true, if_false]
    refine ⟨⟨_, rfl, rfl⟩, ⟨_, rfl, rfl⟩, fun vs hvs => ?_, fun hvs => ?_⟩
    · rw [hvs]
      exact ⟨_, rfl, rfl⟩
    · cases hv : σ.resolveItems n.matchValue with
      | list vs => exact absurd hv (hvs vs)
      | _ => exact ⟨rfl, rfl⟩
  · exact verdictWith_contains hpre hu
      (fun s t h => (List.isPrefixOf_iff_prefix.mp h).isInfix) fun _ => rfl
  · exact verdictWith_contains hpre hu
      (fun s t h => (List.isSuffixOf_iff_suffix.mp h).isInfix) fun _ => rfl
  · obtain ⟨p, hp, habsent⟩ := exists_hasChild hkeys hu
    simp only [verdictWith_presence hpre hsub hu, Presence.holds, hp, hu, Except.map]
    exact ⟨p, _, rfl, rfl, rfl, fun h => isEmptyValue_of_isNull (habsent h)⟩

namespace Sample

def knownPort : MatchSpec := ⟨.comparison .isAny, "rules.1.port", .str "known", [], none, [], "port"⟩

def gated : Block :=
  ⟨"resource", ["gate", "x"], [(.str "rules", .list [.null, .map [(.str "__line__", .int 4),
    (.str "port", .str "443")]])], .file "main", []⟩

end Sample

open Sample in
theorem leaf_laws_gated : (Value.map gated.body).keyedByText = true ∧
    Value.Indexed (Text.fields '.' knownPort.name.toList) ∧ knownPort.preConditions = [] ∧
    knownPort.subMatch = none ∧
    ∃ p, knownPort.verdictWith [] gated [("known", .list [.int 443])] (.comparison .isAny) = .ok p ∧
      knownPort.verdictWith [] gated [("known", .list [.int 443])] (.comparison .isNone) = .ok !p := by
  have hkeys : (Value.map gated.body).keyedByText = true := by decide
  have hname : Value.Indexed (Text.fields '.' knownPort.name.toList) := by decide
  obtain ⟨u, hu, -, hpresent, -⟩ := leaf_laws [] [("known", .list [.int 443])] hkeys hname rfl rfl
  have hport : gated.attributeAt knownPort.name = .ok (.str "443") := rfl
  have hne : u ≠ .null := by
    rintro rfl
    cases hu.symm.trans hport
  obtain ⟨-, -, hlist, -⟩ := hpresent hne
  exact ⟨hkeys, hname, rfl, rfl, hlist [.int 443] rfl⟩

end MatchSpec
end BlockAudit
