import BlockAudit.MatchSpec.Basic

namespace BlockAudit.MatchSpec

/-- Induction with a hypothesis for every child of a node, whichever part of the node it is in. -/
@[elab_as_elim, induction_eliminator]
theorem induct {motive : MatchSpec → Prop}
    (node : ∀ spec : MatchSpec, (∀ p ∈ spec.predicates, motive p) →
      (∀ s ∈ spec.subMatch, motive s) → (∀ c ∈ spec.preConditions, motive c) → motive spec)
    (spec : MatchSpec) : motive spec :=
  @MatchSpec.rec motive (fun specs => ∀ s ∈ specs, motive s) (fun spec => ∀ s ∈ spec, motive s)
    (fun _ _ _ _ _ _ _ hp hs hc => node _ hp hs hc)
    (by simp)
    (fun head tail hh ht => List.forall_mem_cons.mpr ⟨hh, ht⟩)
    (by simp)
    (fun s hs => by simpa using hs)
    spec

mutual

def nodes : MatchSpec → List MatchSpec
  | ⟨action, name, matchValue, predicates, subMatch, preConditions, assignVariable⟩ =>
    ⟨action, name, matchValue, predicates, subMatch, preConditions, assignVariable⟩ ::
      (nodesOfItems predicates ++ nodesOfSubMatch subMatch ++ nodesOfItems preConditions)

def nodesOfItems : List MatchSpec → List MatchSpec
  | [] => []
  | spec :: specs => nodes spec ++ nodesOfItems specs

def nodesOfSubMatch : Option MatchSpec → List MatchSpec
  | none => []
  | some spec => nodes spec

end

theorem nodesOfItems_eq (specs : List MatchSpec) : nodesOfItems specs = specs.flatMap nodes := by
  induction specs with
  | nil => rfl
  | cons spec specs ih => rw [nodesOfItems, ih, List.flatMap_cons]

theorem mem_nodes_self (spec : MatchSpec) : spec ∈ spec.nodes := by
  cases spec
  exact List.mem_cons_self

theorem mem_nodes_of_predicate {spec p n : MatchSpec} (hp : p ∈ spec.predicates)
    (hn : n ∈ p.nodes) : n ∈ spec.nodes := by
  cases spec
  refine List.mem_cons_of_mem _ (List.mem_append_left _ (List.mem_append_left _ ?_))
  rw [nodesOfItems_eq]
  exact List.mem_flatMap.mpr ⟨p, hp, hn⟩

theorem mem_nodes_of_subMatch {spec s n : MatchSpec} (hs : s ∈ spec.subMatch)
    (hn : n ∈ s.nodes) : n ∈ spec.nodes := by
  cases spec
  obtain rfl := Option.mem_def.mp hs
  exact List.mem_cons_of_mem _ (List.mem_append_left _ (List.mem_append_right _ hn))

theorem mem_nodes_of_preCondition {spec c n : MatchSpec} (hc : c ∈ spec.preConditions)
    (hn : n ∈ c.nodes) : n ∈ spec.nodes := by
  cases spec
  refine List.mem_cons_of_mem _ (List.mem_append_right _ ?_)
  rw [nodesOfItems_eq]
  exact List.mem_flatMap.mpr ⟨c, hc, hn⟩

end BlockAudit.MatchSpec
