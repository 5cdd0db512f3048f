import BlockAudit.Checks.Check
import BlockAudit.Checks.Error
/-!
Reading checks from a value. The first defect of the first defective check is reported.
-/

namespace BlockAudit

namespace Checks

def requiredKeys : List String := ["code", "requiredTypes", "severity", "matchSpec"]

def textList (key : String) (v : Value) : Except ChecksDefect (List String) :=
  match v with
  | .null => .ok []
  | .list vs =>
    match vs.mapM (·.text?) with
    | some texts => .ok (texts.map Text.stripped)
    | none => .error (.notTextList key)
  | _ => .error (.notTextList key)

def reportText (v : Value) : String := if v.isNull then "" else Text.stripped v.text

def readSeverity (v : Value) : Except ChecksDefect Severity :=
  match Severity.ofValue? v with
  | some s => .ok s
  | none => .error (.unknownSeverity v)

def readSpec (v : Value) : Except ChecksDefect MatchSpec :=
  (MatchSpec.decode "matchSpec" v).mapError .spec

def readTypes (v : Value) : Except ChecksDefect (List String) := do
  let types ← textList "requiredTypes" v
  if types.isEmpty then throw .noRequiredTypes
  return types

def readBody (source code : String) (es : List Entry) : Except ChecksDefect Check := do
  let missing := requiredKeys.filter fun key => !Value.contains key es
  if !missing.isEmpty then throw (.missingKeys missing)
  let types ← readTypes (Value.get "requiredTypes" es)
  let labels ← textList "requiredLabels" (Value.get "requiredLabels" es)
  let links ← textList "relatedLinks" (Value.get "relatedLinks" es)
  let severity ← readSeverity (Value.get "severity" es)
  let spec ← readSpec (Value.get "matchSpec" es)
  let problems := spec.problems "matchSpec"
  if !problems.isEmpty then throw (.problems problems)
  return {
    code := code
    description := reportText (Value.get "description" es)
    requiredTypes := types
    requiredLabels := labels
    severity := severity
    matchSpec := spec
    errorMessage := reportText (Value.get "errorMessage" es)
    relatedLinks := links
    impact := reportText (Value.get "impact" es)
    resolution := reportText (Value.get "resolution" es)
    source := source }

def readCode (index : Nat) (v : Value) : Except ChecksDefect String :=
  match v with
  | .null => .error (.noCode index)
  | .str s => if (Text.stripped s).isEmpty then .error (.noCode index) else .ok (Text.stripped s)
  | _ => .error (.codeNotText index)

def readCheck (source : String) (index : Nat) (v : Value) : Except ChecksError Check :=
  match v with
  | .map es =>
    match readCode index (Value.get "code" es) with
    | .ok code => (readBody source code es).mapError (⟨·, some source, some code⟩)
    | .error d => .error ⟨d, some source, none⟩
  | _ => .error ⟨.checkNotObject index, some source, none⟩

def readChecks (source : String) (index : Nat) : List Value → Except ChecksError (List Check)
  | [] => .ok []
  | v :: vs => do
    let check ← readCheck source index v
    let checks ← readChecks source (index + 1) vs
    return check :: checks

def ofDocument (source : String) (v : Value) : Except ChecksError (List Check) :=
  match v.entries?.bind fun es => (Value.get "checks" es).items? with
  | some items => readChecks source 0 items
  | none => .error ⟨.noChecksList, some source, none⟩

end Checks
end BlockAudit
