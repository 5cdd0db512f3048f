import BlockAudit.Value.Basic
/-!
Variables bound in the course of an evaluation. A binding can be replaced and is never taken away.
-/

namespace BlockAudit

/-- Each name occurs once. -/
abbrev Bindings := List (String × Value)

namespace Bindings

def find? (name : String) : Bindings → Option Value
  | [] => none
  | (n, v) :: bs => if n = name then some v else find? name bs

def bind (name : String) (value : Value) : Bindings → Bindings
  | [] => [(name, value)]
  | (n, v) :: bs => if n = name then (n, value) :: bs else (n, v) :: bind name value bs

def resolve (bs : Bindings) (v : Value) : Value :=
  match v with
  | .str s => (bs.find? s).getD v
  | _ => v

/-- The items of a list are resolved one by one; what they stand for is not resolved again. -/
def resolveItems (bs : Bindings) : Value → Value
  | .list vs => .list (vs.map bs.resolve)
  | v => bs.resolve v

end Bindings
end BlockAudit
