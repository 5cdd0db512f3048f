import BlockAudit.MatchSpec.Basic

namespace BlockAudit.MatchSpec

def entryUnless (absent : Bool) (name : String) (v : Value) : List Entry :=
  if absent then [] else [(.str name, v)]

mutual

def encode : MatchSpec → Value
  | ⟨action, name, matchValue, predicates, subMatch, preConditions, assignVariable⟩ =>
    .map ((.str "action", .str action.name) ::
      (entryUnless name.isEmpty "name" (.str name) ++
       entryUnless matchValue.isNull "matchValue" matchValue ++
       entryUnless predicates.isEmpty "predicateMatchSpec" (.list (encodeList predicates)) ++
       encodeSubMatch subMatch ++
       entryUnless preConditions.isEmpty "preConditions" (.list (encodeList preConditions)) ++
       entryUnless assignVariable.isEmpty "assignVariable" (.str assignVariable)))

def encodeSubMatch : Option MatchSpec → List Entry
  | none => []
  | some spec => [(.str "subMatch", encode spec)]

def encodeList : List MatchSpec → List Value
  | [] => []
  | spec :: specs => encode spec :: encodeList specs

end

end BlockAudit.MatchSpec
