import BlockAudit.Evaluation.Evaluate

namespace BlockAudit.MatchSpec

open Evaluation

variable (modules : List Module)

def require (spec : MatchSpec) (b : Block) : Evaluation Bool :=
  match Module.ofType spec.name modules with
  | [] => do
    note (.noBlockFound spec.name b.address)
    return false
  | companion :: _ => evaluateSubMatch modules spec.subMatch (.ok [companion])

def handle (spec : MatchSpec) (b : Block) : Evaluation Bool :=
  match spec.action with
  | .and => return (← verdicts modules spec.predicates b).all id
  | .or => return (← verdicts modules spec.predicates b).any id
  | .not => return !(← firstVerdict modules spec.predicates b)
  | .presence p => do
    if ← p.holds spec.name b then
      assign spec.name spec.assignVariable b
      evaluateSubMatch modules spec.subMatch (targets spec.name b)
    else return false
  | .comparison c => evaluateComparison c spec.name spec.assignVariable spec.matchValue b
  | .requiresPresence => require modules spec b
  | .inModule => return b.inModule
  | .hasTag => evaluateTag spec.name spec.matchValue b

theorem evaluate_eq (spec : MatchSpec) (b : Block) : evaluate modules spec b = do
    if ← meets modules spec.preConditions b then handle modules spec b else return true := by
  cases spec
  rw [evaluate.eq_def]
  rfl

theorem evaluate_of_no_preConditions {spec : MatchSpec} (h : spec.preConditions = []) (b : Block) :
    evaluate modules spec b = handle modules spec b := by
  rw [evaluate_eq, h, meets, pure_bind, if_pos rfl]

end BlockAudit.MatchSpec
