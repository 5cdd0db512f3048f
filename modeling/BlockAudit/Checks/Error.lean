import BlockAudit.MatchSpec.Decode
import BlockAudit.MatchSpec.Problems
import BlockAudit.Severity

namespace BlockAudit

inductive ChecksDefect where
  | undecodable (reason : String)
  | noChecksList
  | checkNotObject (index : Nat)
  | codeNotText (index : Nat)
  | noCode (index : Nat)
  | missingKeys (keys : List String)
  | noRequiredTypes
  | notTextList (key : String)
  | unknownSeverity (value : Value)
  | spec (d : SpecDefect)
  | problems (ps : List Problem)
  | noFile
  | duplicateCode (firstSource : String)

namespace ChecksDefect

def text : ChecksDefect → String
  | undecodable reason => s!"failed to decode checks file: {reason}"
  | noChecksList => "checks file must contain a 'checks' list"
  | checkNotObject i => s!"checks[{i}] must be an object"
  | codeNotText i => s!"checks[{i}]: 'code' must be a string"
  | noCode i => s!"checks[{i}] is missing a non-empty 'code'"
  | missingKeys keys => "missing keys: " ++ ", ".intercalate keys
  | noRequiredTypes => "'requiredTypes' must list at least one block type"
  | notTextList key => s!"'{key}' must be a list of strings"
  | unknownSeverity v => Severity.unknown v
  | spec d => d.message
  | problems ps => "; ".intercalate (ps.map (·.message))
  | noFile => "checks file not found"
  | duplicateCode firstSource => s!"duplicate check code (already defined in {firstSource})"

end ChecksDefect

structure ChecksError where
  defect : ChecksDefect
  source : Option String
  code : Option String

namespace ChecksError

def origin (source code : Option String) : String :=
  let nonempty := fun (s : Option String) => s.filter (!·.isEmpty)
  let parts := (nonempty source).toList ++ (nonempty code).toList.map ("check " ++ ·)
  String.join (parts.map (· ++ ": "))

def message (e : ChecksError) : String := origin e.source e.code ++ e.defect.text

def ofSpec (d : SpecDefect) : ChecksError := ⟨.spec d, none, none⟩

def isUnsupportedAction (e : ChecksError) : Bool := e.defect matches .spec (.unsupportedAction _)

end ChecksError
end BlockAudit
