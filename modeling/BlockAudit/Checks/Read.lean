import BlockAudit.Checks.Decode
import BlockAudit.Failure
import BlockAudit.Json.Read
import BlockAudit.Yaml.Read

namespace BlockAudit.Checks

/-- A text is read as JSON if it can be, else as YAML. -/
def readDocument (source : String) (s : List Char) : Except Failure Value :=
  match Json.read? s with
  | some v => .ok v
  | none =>
    match Yaml.read false s with
    | .ok v => .ok v
    | .error .malformedDocument =>
      .error (.checks ⟨.undecodable "neither JSON nor YAML", some source, none⟩)
    | .error f => .error (.fault f)

def read (source : String) (s : List Char) : Except Failure (List Check) := do
  let v ← readDocument source s
  (ofDocument source v).mapError .checks

end BlockAudit.Checks
