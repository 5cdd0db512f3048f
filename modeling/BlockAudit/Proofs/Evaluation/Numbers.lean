import BlockAudit.Proofs.Evaluation.Leaves
import BlockAudit.Proofs.Value.Numeric

namespace BlockAudit.MatchSpec

open Value

variable {n : MatchSpec} {b : Block} {u : Value}

/-- Such a node compares integers as integers, however they are written, as long as they are exact in
binary. With what is no number it does not hold, whichever of the four comparisons it makes. -/
theorem numeric_laws (modules : List Module) (σ : Bindings) (hpre : n.preConditions = [])
    (hu : b.attributeAt n.name = .ok u) :
    (∀ i j : Int, u.Writes i → (σ.resolveItems n.matchValue).Writes j →
      i.natAbs ≤ 2 ^ 53 → j.natAbs ≤ 2 ^ 53 →
        n.verdictWith modules b σ (.comparison .lessThan) = .ok (decide (i < j)) ∧
        n.verdictWith modules b σ (.comparison .lessThanOrEqualTo) = .ok (decide (i ≤ j)) ∧
        n.verdictWith modules b σ (.comparison .greaterThan) = .ok (decide (j < i)) ∧
        n.verdictWith modules b σ (.comparison .greaterThanOrEqualTo) = .ok (decide (j ≤ i))) ∧
    (u.NoNumber ∧ (σ.resolveItems n.matchValue).InRange ∨
        (σ.resolveItems n.matchValue).NoNumber ∧ u.InRange →
      ∀ c ∈ [Comparison.lessThan, .lessThanOrEqualTo, .greaterThan, .greaterThanOrEqualTo],
        n.verdictWith modules b σ (.comparison c) = .ok false) := by
  simp only [verdictWith_comparison hpre hu]
  refine ⟨fun i j hi hj hibound hjbound => ?_, fun h c hc => ?_⟩
  · simp only [hi.isNull_eq, Bool.false_eq_true, if_false]
    exact Comparison.holds_of_writes hi hj hibound hjbound
  · rw [Comparison.holds_of_noNumber h c hc, ite_self]

open Sample in
theorem numeric_laws_port : knownPort.preConditions = [] ∧
    gated.attributeAt knownPort.name = .ok (.str "443") ∧ (str "443").Writes 443 ∧
    knownPort.verdictWith [] gated [("known", .str "80")] (.comparison .lessThan) = .ok false ∧
    knownPort.verdictWith [] gated [("known", .int 1024)] (.comparison .lessThan) = .ok true ∧
    (bool true).NoNumber ∧
    knownPort.verdictWith [] gated [("known", .bool true)] (.comparison .greaterThan) = .ok false := by
  have hport : gated.attributeAt knownPort.name = .ok (.str "443") := rfl
  have hwrites : (str "443").Writes 443 := writes_toString 443
  obtain ⟨htext, -⟩ := (numeric_laws [] [("known", .str "80")] rfl hport).1 443 80 hwrites
    (writes_toString 80) (by decide) (by decide)
  obtain ⟨hint, -⟩ := (numeric_laws [] [("known", .int 1024)] rfl hport).1 443 1024 hwrites
    (.int 1024) (by decide) (by decide)
  have htruth := (numeric_laws [] [("known", .bool true)] rfl hport).2
    (Or.inr ⟨trivial, trivial⟩) .greaterThan (by decide)
  exact ⟨rfl, hport, hwrites, htext, hint, trivial, htruth⟩

end BlockAudit.MatchSpec
