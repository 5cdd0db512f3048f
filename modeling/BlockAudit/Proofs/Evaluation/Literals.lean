import BlockAudit.Proofs.Evaluation.Leaves
import BlockAudit.Proofs.Value.Literal

namespace BlockAudit.MatchSpec

variable {n : MatchSpec} {b : Block} {σ : Bindings} {x y : Literal}

structure Confronts (n : MatchSpec) (b : Block) (σ : Bindings) (x y : Literal) : Prop where
  preConditions : n.preConditions = []
  attributeAt : b.attributeAt n.name = .ok x.value
  resolveItems : σ.resolveItems n.matchValue = y.value

theorem Confronts.verdictWith_eq (h : n.Confronts b σ x y) (modules : List Module) (c : Comparison) :
    n.verdictWith modules b σ (.comparison c) = c.holds x.value y.value := by
  have hpresent : ¬x.value.isNull = true := by
    cases x <;> nofun
  rw [verdictWith_comparison h.preConditions h.attributeAt, if_neg hpresent, h.resolveItems]

theorem Confronts.exists_part (h : n.Confronts b σ x y) (modules : List Module) (heq : x.Equals y) :
    ∀ c ∈ [Comparison.startsWith, .endsWith, .contains],
      ∃ p, n.verdictWith modules b σ (.comparison c) = .ok p ∧ (p = true ↔ ¬x.Conflated y) := by
  simp only [h.verdictWith_eq, List.forall_mem_cons, Comparison.holds, Literal.onTexts_value,
    Literal.contained_value]
  refine ⟨⟨_, rfl, ?_⟩, ⟨_, rfl, ?_⟩, ⟨_, rfl, ?_⟩, nofun⟩
  · exact Literal.test_iff (fun s t => t.isPrefixOf s) (fun s => by simp)
      (fun s t hst => (List.isPrefixOf_iff_prefix.mp hst).isInfix) heq
  · exact Literal.test_iff (fun s t => t.isSuffixOf s) (fun s => by simp)
      (fun s t hst => (List.isSuffixOf_iff_suffix.mp hst).isInfix) heq
  · exact Literal.test_iff (fun s t => Text.isInfix t s)
      (fun s => Text.isInfix_iff.mpr List.infix_rfl) (fun s t hst => Text.isInfix_iff.mp hst) heq

/-- Such a node tells whether the texts are equal, unless a truth value is compared with the integer
that it counts as. Those two are equal although their texts are not, and neither text is a part of the
other. -/
theorem equals_literals (modules : List Module) (h : n.Confronts b σ x y) :
    (∃ p, n.verdictWith modules b σ (.comparison .equals) = .ok p ∧ (p = true ↔ x.Equals y)) ∧
      (x.Equals y ↔ x.written = y.written ∨ x.Conflated y) ∧
      (x.Conflated y → x.written ≠ y.written) ∧
      (x.Equals y → ∀ c ∈ [Comparison.startsWith, .endsWith, .contains],
        ∃ p, n.verdictWith modules b σ (.comparison c) = .ok p ∧ (p = true ↔ ¬x.Conflated y)) ∧
      (∀ q i, (Literal.truth q).Equals (.whole i) ↔ i = Literal.worth q) ∧
      ∀ S : Set Literal, (∀ x ∈ S, ∀ y ∈ S, ¬x.Conflated y) →
        Equivalence fun x y : S => x.1.Equals y.1 :=
  ⟨⟨_, h.verdictWith_eq modules .equals, Iff.rfl⟩, Literal.equals_iff,
    Literal.written_ne_of_conflated, h.exists_part modules, Literal.equals_truth_whole,
    fun _ hS => Literal.equivalence_equals hS⟩

open Sample in
theorem equals_literals_port :
    knownPort.Confronts gated [("known", .int 443)] (.text "443") (.whole 443) ∧
      ∀ c ∈ [Comparison.equals, .startsWith, .endsWith, .contains],
        knownPort.verdictWith [] gated [("known", .int 443)] (.comparison c) = .ok true := by
  have h : knownPort.Confronts gated [("known", .int 443)] (.text "443") (.whole 443) :=
    ⟨rfl, rfl, rfl⟩
  obtain ⟨⟨p, hp, hiff⟩, hequals, -, hparts, -⟩ := equals_literals [] h
  have heq : (Literal.text "443").Equals (.whole 443) := hequals.mpr (Or.inl (by decide))
  refine ⟨h, List.forall_mem_cons.mpr ⟨hp.trans (congrArg Except.ok (hiff.mpr heq)), ?_⟩⟩
  intro c hc
  obtain ⟨q, hq, hiff⟩ := hparts heq c hc
  exact hq.trans (congrArg Except.ok (hiff.mpr nofun))

namespace Sample

def versioned : Block :=
  ⟨"resource", ["bucket", "x"], [(.str "versioning", .bool true)], .file "main", []⟩

def versioningIsOne : MatchSpec :=
  ⟨.comparison .equals, "versioning", .int 1, [], none, [], ""⟩

end Sample

open Sample in
/-- Equality of a truth value and an integer is not equality of their texts, and is not transitive. -/
theorem equals_not_texts_versioning :
    versioningIsOne.Confronts versioned [] (.truth true) (.whole 1) ∧
      versioningIsOne.verdictWith [] versioned [] (.comparison .equals) = .ok true ∧
      (Literal.truth true).written ≠ (Literal.whole 1).written ∧
      versioningIsOne.verdictWith [] versioned [] (.comparison .startsWith) = .ok false ∧
      (Literal.truth true).Equals (.whole 1) ∧ (Literal.whole 1).Equals (.text "1") ∧
      ¬(Literal.truth true).Equals (.text "1") :=
  ⟨⟨rfl, rfl, rfl⟩, rfl, by decide, rfl, rfl, rfl, nofun⟩

end BlockAudit.MatchSpec
