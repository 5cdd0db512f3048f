import BlockAudit.Proofs.Block.Bare
import BlockAudit.Proofs.Evaluation.Bindings
import BlockAudit.Proofs.Evaluation.Related
import BlockAudit.Proofs.Scan.Isolation

namespace BlockAudit.Scan

variable {modules : List Module}

def equalsSpec (name : String) (v : Value) : MatchSpec where
  action := .comparison .equals
  name := name
  matchValue := v
  predicates := []
  subMatch := none
  preConditions := []
  assignVariable := ""

open Evaluation in
theorem run_equalsSpec {b : Block} {name : String} {u : Value} (h : b.attributeAt name = .ok u)
    (v : Value) : ((equalsSpec name v).run modules b []).1 =
      .ok (!u.isNull && Comparison.equalTo u v) := by
  have hnode : ((equalsSpec name v).run modules b []).1 =
      ((MatchSpec.evaluateComparison .equals name "" v b).after ⟨[], []⟩).1 := rfl
  have hnotices : Comparison.equals.notices u v = [] := by simp [Comparison.notices]
  have hholds : Comparison.equals.holds u v = .ok (Comparison.equalTo u v) := rfl
  rw [hnode, MatchSpec.evaluateComparison, after_lift_bind h]
  cases u.isNull with
  | true => rfl
  | false =>
    rw [if_neg Bool.false_ne_true, after_bindings_bind]
    dsimp only
    rw [Bindings.resolveItems_nil, hnotices, List.forM, pure_bind, after_lift_bind hholds]
    cases Comparison.equalTo u v <;> rfl

def equalsCheck (type name : String) (v : Value) : Check where
  code := ""
  description := ""
  requiredTypes := [type]
  requiredLabels := []
  severity := .low
  matchSpec := equalsSpec name v
  errorMessage := ""
  relatedLinks := []
  impact := ""
  resolution := ""
  source := ""

theorem fails_equalsCheck {b : Block} {type name : String} {u : Value}
    (h : b.attributeAt name = .ok u) (v : Value) :
    Fails .default modules (equalsCheck type name v, b) ↔
      b.type = type ∧ (!u.isNull && Comparison.equalTo u v) = false := by
  have hrun : ((equalsSpec name v).run modules b []).1 = _ := run_equalsSpec h v
  simp only [Fails, equalsCheck, hrun]
  simp [ScanConfig.default, Severity.rank]

def onlyCheck (c : Check) : Registry := ⟨[c], by simp⟩

theorem noFault_equalsCheck {type name : String} {v : Value} (hname : '.' ∉ name.toList)
    (hkeyed : ∀ b ∈ blocks modules, (Value.map b.body).keyedByText = true) :
    NoFault .default modules (onlyCheck (equalsCheck type name v)) := by
  rintro c hc - b hb -
  obtain ⟨u, hu, -, -⟩ := Block.exists_attribute (hkeyed b hb) hname
  rw [List.mem_singleton.mp hc]
  exact ⟨_, run_equalsSpec hu v⟩

theorem length_failures_singleton (c : Check) : (failures .default modules [c]).length =
    ((blocks modules).filter fun b => Fails .default modules (c, b)).length := by
  rw [failures, List.length_map, List.product_cons, List.filter_append, List.filter_map]
  simp [Function.comp_def]

end BlockAudit.Scan
