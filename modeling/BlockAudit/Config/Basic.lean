import BlockAudit.Failure
import BlockAudit.Value.Convert

namespace BlockAudit

structure ScanConfig where
  exclude : List String
  severityOverrides : List (String × Severity)
  minimumSeverity : Severity
  workers : Nat
deriving DecidableEq

namespace ScanConfig

def default : ScanConfig := ⟨[], [], .low, 1⟩

def isExcluded (c : ScanConfig) (code : String) : Bool := c.exclude.contains code

def severityFor (c : ScanConfig) (code : String) (severity : Severity) : Severity :=
  (c.severityOverrides.lookup code).getD severity

def readSeverity (key : String) (v : Value) : Except Failure Severity :=
  match Severity.ofValue? v with
  | some s => .ok s
  | none => .error (.config (.unknownSeverity key v))

def readWorkers (v : Value) : Except Failure Nat :=
  match v.integer? with
  | .error f => .error (.fault f)
  | .ok none => .error (.config (.workersNotInteger v))
  | .ok (some n) => if n < 1 then .error (.config .tooFewWorkers) else .ok n.toNat

def readExclude : Value → Except Failure (List String)
  | .null => .ok []
  | .list vs => .ok (vs.map (·.text))
  | _ => .error (.config (.notStringList "exclude"))

def override (name : String) (s : Severity) : List (String × Severity) → List (String × Severity)
  | [] => [(name, s)]
  | (n, t) :: es => if n = name then (n, s) :: es else (n, t) :: override name s es

def readOverrides : List (String × Severity) → List Entry →
    Except Failure (List (String × Severity))
  | done, [] => .ok done
  | done, (k, v) :: es => do
    let s ← readSeverity s!"severity_overrides.{k.text}" v
    readOverrides (override k.text s done) es

def overrideEntries (v : Value) : Except Failure (List Entry) :=
  if !v.truthy then .ok []
  else match v with
    | .map es => .ok es
    | _ => .error (.config .overridesNotObject)

def ofEntries (es : List Entry) : Except Failure ScanConfig := do
  let overrides ← overrideEntries (Value.get "severity_overrides" es)
  let exclude ← readExclude (Value.get "exclude" es)
  let severityOverrides ← readOverrides [] overrides
  let minimumSeverity ←
    match Value.lookup? "minimum_severity" es with
    | some v => readSeverity "minimum_severity" v
    | none => pure .low
  let workers ←
    match Value.lookup? "workers" es with
    | some v => readWorkers v
    | none => pure 1
  return ⟨exclude, severityOverrides, minimumSeverity, workers⟩

def merged (c : ScanConfig) (exclude : List String) (minimumSeverity workers : Value) :
    Except Failure ScanConfig := do
  let extra := exclude.filter fun code => !c.isExcluded code
  let severity ←
    if minimumSeverity.isNull then pure c.minimumSeverity
    else readSeverity "minimum_severity" minimumSeverity
  let count ← if workers.isNull then pure c.workers else readWorkers workers
  return { c with exclude := c.exclude ++ extra, minimumSeverity := severity, workers := count }

end ScanConfig
end BlockAudit
