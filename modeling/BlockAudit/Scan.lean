import BlockAudit.Checks.Registry
import BlockAudit.Config.Basic
import BlockAudit.Evaluation.Evaluate
import BlockAudit.Journal
import BlockAudit.Pool
import BlockAudit.ScanResult

namespace BlockAudit.Scan

abbrev Pair := Check × Block

def chosen (config : ScanConfig) : List Check → Run (List Check)
  | [] => return []
  | c :: cs =>
    if config.isExcluded c.code then do
      Run.note (.checkExcluded c.code)
      chosen config cs
    else return c :: (← chosen config cs)

def blocks (modules : List Module) : List Block := modules.flatMap Module.blocks

def pairs (modules : List Module) (checks : List Check) : List Pair :=
  checks.flatMap fun c => ((blocks modules).filter c.appliesTo).map (c, ·)

def finding? (config : ScanConfig) (p : Pair) : Option Finding :=
  let severity := config.severityFor p.1.code p.1.severity
  if severity.below config.minimumSeverity then none else some (.of p.1 p.2 severity)

structure Judgement where
  finding : Except Fault (Option Finding)
  notices : List Notice

/-- The judgement on a pair. No variables are bound at the start. -/
def judge (config : ScanConfig) (modules : List Module) (p : Pair) : Judgement :=
  let (outcome, _, notices) := p.1.matchSpec.run modules p.2 []
  ⟨outcome.map fun holds => if holds then none else finding? config p, notices⟩

def judgeInTurn (config : ScanConfig) (modules : List Module) :
    List Pair → Run (List (Option Finding))
  | [] => return []
  | p :: ps => do
    let j := judge config modules p
    j.notices.forM Run.note
    let found ← Run.ofFault j.finding
    let rest ← judgeInTurn config modules ps
    return found :: rest

/-- All pairs are judged before the first fault is looked for, in the order of the pairs. A pool that meets a
fault leaves out the pairs that no worker has begun; their notices are kept here. -/
def judgePooled (s : Schedule) (config : ScanConfig) (modules : List Module) (ps : List Pair) :
    Run (List (Option Finding)) := do
  let done := Pool.completed (judge config modules) ps (s.order ps.length)
  done.forM fun d => d.2.notices.forM Run.note
  (Pool.arranged ps.length done).mapM fun j => Run.ofFault j.finding

def judgeAll (s : Schedule) (config : ScanConfig) (modules : List Module) (ps : List Pair) :
    Run (List (Option Finding)) :=
  if 1 < config.workers && 1 < ps.length then judgePooled s config modules ps
  else judgeInTurn config modules ps

def findingsBy (s : Schedule) (config : ScanConfig) (registry : Registry)
    (modules : List Module) : Run (List Finding) := do
  let ps := pairs modules (← chosen config registry.checks)
  let found := (← judgeAll s config modules ps).filterMap id
  Run.note (.pairsEvaluated ps.length found.length)
  return found

def findings (config : ScanConfig) (registry : Registry) (modules : List Module) :
    Run (List Finding) :=
  findingsBy .inTurn config registry modules

def addTo (config : ScanConfig) (registry : Registry) (modules : List Module)
    (result : ScanResult) : Run ScanResult := do
  let found ← findings config registry modules
  return result.addAll found

end BlockAudit.Scan
