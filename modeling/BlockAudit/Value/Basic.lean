import BlockAudit.Number.Binary
import BlockAudit.Calendar

namespace BlockAudit

inductive Atom where
  | null
  | bool (b : Bool)
  | int (n : Int)
  | float (x : Number.Binary)
  | str (s : String)
  | bytes (bs : List UInt8)
  | date (d : Calendar.Date)
  | moment (t : Calendar.Moment)

/-- Values are finite: no list or mapping is a part of itself. -/
inductive Value where
  | null
  | bool (b : Bool)
  | int (n : Int)
  | float (x : Number.Binary)
  | str (s : String)
  | bytes (bs : List UInt8)
  | date (d : Calendar.Date)
  | moment (t : Calendar.Moment)
  | list (items : List Value)
  | pair (first second : Value)
  | map (entries : List (Value × Value))
  | set (members : List Atom)
deriving Inhabited

abbrev Entry := Value × Value

def Atom.value : Atom → Value
  | null => .null
  | bool b => .bool b
  | int n => .int n
  | float x => .float x
  | str s => .str s
  | bytes bs => .bytes bs
  | date d => .date d
  | moment t => .moment t

namespace Value

@[deprecated Value.set (since := "2026-11-19"), match_pattern]
abbrev back : List Atom → Value := set

def atom? : Value → Option Atom
  | null => some .null
  | bool b => some (.bool b)
  | int n => some (.int n)
  | float x => some (.float x)
  | str s => some (.str s)
  | bytes bs => some (.bytes bs)
  | date d => some (.date d)
  | moment t => some (.moment t)
  | _ => none

def isNull : Value → Bool
  | null => true
  | _ => false

def entries? : Value → Option (List Entry)
  | map es => some es
  | _ => none

def items? : Value → Option (List Value)
  | list vs => some vs
  | _ => none

def text? : Value → Option String
  | str s => some s
  | _ => none

def spread : Value → List Value
  | list vs => vs
  | v => [v]

def truthy : Value → Bool
  | null => false
  | bool b => b
  | int n => n != 0
  | float x => !x.isZero
  | str s => !s.isEmpty
  | bytes bs => !bs.isEmpty
  | list vs => !vs.isEmpty
  | map es => !es.isEmpty
  | set ms => !ms.isEmpty
  | _ => true

def lookup? (name : String) : List Entry → Option Value
  | [] => none
  | (str s, v) :: es => if s = name then some v else lookup? name es
  | _ :: es => lookup? name es

def contains (name : String) (es : List Entry) : Bool := (lookup? name es).isSome

def get (name : String) (es : List Entry) : Value := (lookup? name es).getD null

end Value
end BlockAudit
