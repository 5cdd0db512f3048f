import BlockAudit.Fault

namespace BlockAudit.Yaml

structure TagName where
  handle : Option String
  suffix : String
deriving DecidableEq

inductive TokenKind where
  | versionDirective (major : Nat)
  | tagDirective (handle expansion : String)
  | otherDirective
  | documentStart
  | documentEnd
  | streamEnd
  | blockSequenceStart
  | blockMappingStart
  | blockEnd
  | flowSequenceStart
  | flowSequenceEnd
  | flowMappingStart
  | flowMappingEnd
  | flowEntry
  | blockEntry
  | key
  | value
  | reference (name : String)
  | anchor (name : String)
  | tag (name : TagName)
  | scalar (text : String) (plain : Bool)
deriving DecidableEq

structure Token where
  kind : TokenKind
  startLine : Nat
  endLine : Nat

/-- Tokens of a document. After the last one comes either nothing or a fault. -/
structure Tokens where
  list : List Token
  fault : Option Fault

end BlockAudit.Yaml
