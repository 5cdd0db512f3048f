import BlockAudit.MatchSpec.Problems
import BlockAudit.Proofs.MatchSpec.Places
import BlockAudit.Proofs.Value.Lookup
/-!
The problems of a match spec are the flaws of its nodes, each under the path of its node. A node has a
flaw if it is not well formed, and then only. Main statement: `problems_exact`.
-/

namespace BlockAudit.MatchSpec

structure WellFormed (n : MatchSpec) : Prop where
  combines : n.action.isCombinator = true → n.predicates ≠ []
  negates : n.action = .not → n.predicates.length = 1
  childless : n.action.isCombinator = false → n.predicates = []
  named : n.action.isCombinator = false → n.action ≠ .inModule → n.name ≠ ""
  tests : n.action = .requiresPresence → n.subMatch.isSome = true
  descends : n.subMatch.isSome = true →
    n.action = .requiresPresence ∨ ∃ p, n.action = .presence p
  pattern : n.action = .comparison .regexMatches → ∃ s, n.matchValue = .str s
  alternatives : n.action = .comparison .isAny ∨ n.action = .comparison .isNone →
    ∃ vs, n.matchValue = .list vs
  compares : ∀ c, n.action = .comparison c → c ∉ [.regexMatches, .isAny, .isNone] →
    n.matchValue ≠ .null

variable {path : String} {spec n : MatchSpec} {a : Action} {v : Value}

theorem flawIf_eq_nil {c : Bool} {f : Flaw} : flawIf c f = [] ↔ c = false := by
  cases c <;> simp [flawIf]

theorem predicateFlaws_eq_nil {count : Nat} : predicateFlaws a count = [] ↔
    (a.isCombinator = true → count ≠ 0) ∧ (a = .not → count = 1) ∧
      (a.isCombinator = false → count = 0) := by
  rw [predicateFlaws]
  cases hcombinator : a.isCombinator with
  | true =>
    simp only [↓reduceIte, List.append_eq_nil_iff, flawIf_eq_nil]
    by_cases hnot : a = .not <;> by_cases hcount : count = 0 <;> simp [hnot, hcount]
  | false =>
    have hnot : a ≠ .not := by
      rintro rfl
      cases hcombinator
    simp [flawIf_eq_nil, hnot]

theorem isSome_text? : v.text?.isSome = true ↔ ∃ s, v = .str s := by
  cases v <;> simp [Value.text?]

theorem isSome_items? : v.items?.isSome = true ↔ ∃ vs, v = .list vs := by
  cases v <;> simp [Value.items?]

theorem valueFlaws_eq_nil : valueFlaws v a = [] ↔
    (a = .comparison .regexMatches → ∃ s, v = .str s) ∧
      (a = .comparison .isAny ∨ a = .comparison .isNone → ∃ vs, v = .list vs) ∧
      ∀ c, a = .comparison c → c ∉ [.regexMatches, .isAny, .isNone] → v ≠ .null := by
  cases a with
  | comparison c =>
    simp only [valueFlaws, List.append_eq_nil_iff, flawIf_eq_nil, Action.comparison.injEq]
    cases c with
    | regexMatches =>
      have hnull : (∃ s, v = .str s) → v.isNull = false := by
        rintro ⟨s, rfl⟩
        rfl
      simpa [Comparison.takesList, isSome_text?] using hnull
    | _ => simp [Comparison.takesList, isSome_items?, Value.isNull_eq_false]
  | _ => simp [valueFlaws]

theorem flaws_eq_nil_iff : n.flaws = [] ↔ n.WellFormed := by
  simp only [flaws, List.append_eq_nil_iff, predicateFlaws_eq_nil, valueFlaws_eq_nil, flawIf_eq_nil]
  constructor
  · rintro ⟨⟨⟨⟨⟨hcombines, hnegates, hchildless⟩, hnamed⟩, htests⟩, hdescends⟩, hpattern,
      halternatives, hcompares⟩
    exact
      { combines := fun h => by simpa using hcombines h
        negates := hnegates
        childless := fun h => by simpa using hchildless h
        named := fun h hin hname => by simp [Action.isNamed, h, hin, hname] at hnamed
        tests := fun h => by simpa [h] using htests
        descends := fun h => by
          cases ha : n.action <;> simp_all [Action.takesSubMatch, Action.isPresence]
        pattern := hpattern
        alternatives := halternatives
        compares := hcompares }
  · intro h
    refine ⟨⟨⟨⟨⟨fun hc => ?_, h.negates, fun hc => ?_⟩, ?_⟩, ?_⟩, ?_⟩, h.pattern, h.alternatives,
      h.compares⟩
    · simpa using h.combines hc
    · simpa using h.childless hc
    · have hnamed := h.named
      cases hc : n.action.isCombinator <;> simp_all [Action.isNamed]
    · have htests := h.tests
      by_cases ha : n.action = .requiresPresence <;> simp_all
    · have hdescends := h.descends
      cases hs : n.subMatch.isSome with
      | false => rfl
      | true =>
        rcases hdescends hs with ha | ⟨p, ha⟩ <;> simp [ha, Action.takesSubMatch, Action.isPresence]

theorem mem_problemsOfItems {p : Problem} {i : Nat} {specs : List MatchSpec} :
    p ∈ problemsOfItems path i specs ↔
      ∃ j c, specs[j]? = some c ∧ p ∈ problems (itemPath path (i + j)) c := by
  induction specs generalizing i with
  | nil => simp [problemsOfItems]
  | cons spec specs ih =>
    rw [problemsOfItems, List.mem_append, ih]
    constructor
    · rintro (h | ⟨j, c, hc, h⟩)
      · exact ⟨0, spec, rfl, h⟩
      · exact ⟨j + 1, c, hc, by rwa [← Nat.add_assoc, Nat.add_right_comm]⟩
    · rintro ⟨j, c, hc, h⟩
      cases j with
      | zero =>
        cases hc
        exact Or.inl h
      | succ j => exact Or.inr ⟨j, c, hc, by rwa [Nat.add_right_comm, Nat.add_assoc]⟩

theorem mem_problemsOfSubMatch {p : Problem} {subMatch : Option MatchSpec} :
    p ∈ problemsOfSubMatch path subMatch ↔ ∃ c, subMatch = some c ∧ p ∈ problems path c := by
  cases subMatch <;> simp [problemsOfSubMatch]

theorem problems_eq (path : String) (spec : MatchSpec) : spec.problems path =
    spec.flaws.map (⟨path, ·⟩) ++
      problemsOfItems (partPath path "predicateMatchSpec") 0 spec.predicates ++
      problemsOfItems (partPath path "preConditions") 0 spec.preConditions ++
      problemsOfSubMatch (partPath path "subMatch") spec.subMatch := by
  cases spec
  rfl

theorem mem_problems_cases {p : Problem} : p ∈ spec.problems path ↔
    (∃ f ∈ spec.flaws, p = ⟨path, f⟩) ∨
      ∃ s c, spec.child? s = some c ∧ p ∈ c.problems (s.extend path) := by
  simp only [problems_eq path spec, List.mem_append, List.mem_map, mem_problemsOfItems,
    mem_problemsOfSubMatch, Nat.zero_add]
  constructor
  · rintro (((⟨f, hf, rfl⟩ | ⟨i, c, hc, h⟩) | ⟨i, c, hc, h⟩) | ⟨c, hc, h⟩)
    · exact Or.inl ⟨f, hf, rfl⟩
    · exact Or.inr ⟨.item .predicates i, c, hc, h⟩
    · exact Or.inr ⟨.item .preConditions i, c, hc, h⟩
    · exact Or.inr ⟨.subMatch, c, hc, h⟩
  · rintro (⟨f, hf, rfl⟩ | ⟨s, c, hc, h⟩)
    · exact Or.inl (Or.inl (Or.inl ⟨f, hf, rfl⟩))
    · cases s with
      | item b i =>
        cases b with
        | predicates => exact Or.inl (Or.inl (Or.inr ⟨i, c, hc, h⟩))
        | preConditions => exact Or.inl (Or.inr ⟨i, c, hc, h⟩)
      | subMatch => exact Or.inr ⟨c, hc, h⟩

theorem mem_problems {p : Problem} : p ∈ spec.problems path ↔
    ∃ steps n, spec.nodeAt? steps = some n ∧ ∃ f ∈ n.flaws, p = ⟨pathTo path steps, f⟩ := by
  induction spec using induct_child generalizing path with
  | node spec ih =>
    rw [mem_problems_cases]
    constructor
    · rintro (hself | ⟨s, c, hc, h⟩)
      · exact ⟨[], spec, rfl, hself⟩
      · obtain ⟨steps, n, hn, hf⟩ := (ih s c hc).mp h
        exact ⟨s :: steps, n, by rw [nodeAt?, hc]; exact hn, hf⟩
    · rintro ⟨steps, n, hn, hf⟩
      cases steps with
      | nil =>
        cases hn
        exact Or.inl hf
      | cons s steps =>
        obtain ⟨c, hc, hrest⟩ := Option.bind_eq_some_iff.mp hn
        exact Or.inr ⟨s, c, hc, (ih s c hc).mpr ⟨steps, n, hrest, hf⟩⟩

/-- Every ill-formed node is reported under its path, and nothing else is. -/
theorem problems_exact (spec : MatchSpec) (path : String) :
    (spec.problems path = [] ↔ ∀ steps n, spec.nodeAt? steps = some n → n.WellFormed) ∧
      ∀ steps n, spec.nodeAt? steps = some n →
        ((∃ p ∈ spec.problems path, ∃ rest, p.message = pathTo path steps ++ ": " ++ rest) ↔
          ¬n.WellFormed) := by
  constructor
  · simp only [List.eq_nil_iff_forall_not_mem, mem_problems, ← flaws_eq_nil_iff]
    constructor
    · intro h steps n hn f hf
      exact h _ ⟨steps, n, hn, f, hf, rfl⟩
    · rintro h p ⟨steps, n, hn, f, hf, -⟩
      exact h steps n hn f hf
  · intro steps n hn
    rw [← flaws_eq_nil_iff]
    constructor
    · rintro ⟨p, hp, rest, hmessage⟩ hnone
      obtain ⟨other, m, hm, f, hf, rfl⟩ := mem_problems.mp hp
      obtain rfl := eq_of_pathTo_colon hmessage
      rw [hn, Option.some.injEq] at hm
      rw [← hm, hnone] at hf
      cases hf
    · intro hflaws
      obtain ⟨f, hf⟩ := List.exists_mem_of_ne_nil _ hflaws
      exact ⟨⟨pathTo path steps, f⟩, mem_problems.mpr ⟨steps, n, hn, f, hf, rfl⟩, f.text, rfl⟩

def negatingNothing : MatchSpec :=
  ⟨.or, "", .null,
    [⟨.presence .present, "tags", .null, [], some ⟨.not, "", .null, [], none, [], ""⟩, [], ""⟩],
    none, [], ""⟩

theorem problems_exact_negatingNothing : ∃ p ∈ negatingNothing.problems "matchSpec", ∃ rest,
    p.message = "matchSpec.predicateMatchSpec[0].subMatch" ++ ": " ++ rest := by
  refine ((problems_exact negatingNothing "matchSpec").2 [.item .predicates 0, .subMatch] _ rfl).mpr ?_
  exact fun h => h.combines rfl rfl

end BlockAudit.MatchSpec
