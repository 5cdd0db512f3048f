import BlockAudit.MatchSpec.Action

namespace BlockAudit

/-- A null match value is an absent one; an empty name or variable is an absent one. -/
structure MatchSpec where
  action : Action
  name : String
  matchValue : Value
  predicates : List MatchSpec
  subMatch : Option MatchSpec
  preConditions : List MatchSpec
  assignVariable : String

namespace MatchSpec

def partPath (path part : String) : String := s!"{path}.{part}"

def itemPath (path : String) (i : Nat) : String := s!"{path}[{i}]"

end MatchSpec
end BlockAudit
