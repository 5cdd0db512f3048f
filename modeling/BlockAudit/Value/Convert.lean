import BlockAudit.Fault
import BlockAudit.Number.Numeral
import BlockAudit.Value.Text

namespace BlockAudit.Value

def comparedText? : Value → Option (List Char)
  | bool b => some (if b then "true".toList else "false".toList)
  | str s => some s.toList
  | int n => some (intText n)
  | float x => some x.text
  | _ => none

def asciiText (bs : List UInt8) : List Char :=
  bs.map fun b => if b.toNat < 0x80 then Char.ofNat b.toNat else '?'

/-- The number that a value is compared by; truth values are none. -/
def number? : Value → Except Fault (Option Number.Binary)
  | int n =>
    match Number.Binary.ofInt? n with
    | some x => .ok (some x)
    | none => .error .numberTooLarge
  | float x => .ok (some x)
  | str s => .ok (Number.binary? s.toList)
  | bytes bs => .ok (Number.binary? (asciiText bs))
  | _ => .ok none

def integer? : Value → Except Fault (Option Int)
  | bool b => .ok (some (if b then 1 else 0))
  | int n => .ok (some n)
  | float (.infinite _) => .error .numberTooLarge
  | float x => .ok x.truncate?
  | str s => .ok (Number.integer? s.toList)
  | bytes bs => .ok (Number.integer? (asciiText bs))
  | _ => .ok none

end BlockAudit.Value
