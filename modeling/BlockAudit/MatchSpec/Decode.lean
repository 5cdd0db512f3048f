import BlockAudit.MatchSpec.Basic
import BlockAudit.Text.Blank
/-!
Reading a match spec from a value. Entries with other keys than those of a match spec are passed
over.
-/

namespace BlockAudit

inductive SpecDefect where
  | notObject (path : String)
  | notList (path : String)
  | notText (path : String)
  | unsupportedAction (action : Value)

namespace SpecDefect

def message : SpecDefect → String
  | notObject path => s!"{path} must be an object"
  | notList path => s!"{path} must be a list"
  | notText path => s!"{path} must be a string"
  | unsupportedAction action => s!"unsupported action {action.shown}"

end SpecDefect

namespace MatchSpec

def decodeAction (v : Value) : Except SpecDefect Action :=
  match Action.ofValue? v with
  | some a => .ok a
  | none => .error (.unsupportedAction v)

def decodeName (path : String) : Value → Except SpecDefect String
  | .null => .ok ""
  | .str s => .ok (Text.stripped s)
  | _ => .error (.notText path)

def decodeMatchValue (es : List Entry) : Value :=
  match Value.lookup? "matchValue" es with
  | some v => v
  | none => Value.get "value" es

mutual

/-- Of several defects the first is reported, the parts being read in the order of the fields. -/
def decode (path : String) : Value → Except SpecDefect MatchSpec
  | .map es => do
    let action ← decodeAction (Value.get "action" es)
    let name ← decodeName (partPath path "name") (Value.get "name" es)
    let predicates ← decodeEntry "predicateMatchSpec" (partPath path "predicateMatchSpec") es
    let subMatch ← decodeSubMatch (partPath path "subMatch") es
    let preConditions ← decodeEntry "preConditions" (partPath path "preConditions") es
    let variableName ←
      decodeName (partPath path "assignVariable") (Value.get "assignVariable" es)
    return ⟨action, name, decodeMatchValue es, predicates, subMatch, preConditions, variableName⟩
  | _ => .error (.notObject path)

def decodeSubMatch (path : String) : List Entry → Except SpecDefect (Option MatchSpec)
  | [] => .ok none
  | (.str key, v) :: es =>
    if key = "subMatch" then
      if v.isNull then .ok none else (decode path v).map some
    else decodeSubMatch path es
  | _ :: es => decodeSubMatch path es

def decodeEntry (name path : String) : List Entry → Except SpecDefect (List MatchSpec)
  | [] => .ok []
  | (.str key, v) :: es =>
    if key = name then decodeList path v else decodeEntry name path es
  | _ :: es => decodeEntry name path es

def decodeList (path : String) : Value → Except SpecDefect (List MatchSpec)
  | .null => .ok []
  | .list vs => decodeItems path 0 vs
  | _ => .error (.notList path)

def decodeItems (path : String) (i : Nat) : List Value → Except SpecDefect (List MatchSpec)
  | [] => .ok []
  | v :: vs => do
    let spec ← decode (itemPath path i) v
    let specs ← decodeItems path (i + 1) vs
    return spec :: specs

end

end MatchSpec
end BlockAudit
