import BlockAudit.Text.Quoted
import BlockAudit.Value.Text

namespace BlockAudit.Json

def unitEscape (n : Nat) : List Char := '\\' :: 'u' :: Text.hex 4 n

def escaped (c : Char) : List Char :=
  let n := c.toNat
  if c = '"' || c = '\\' then ['\\', c]
  else if c = '\n' then ['\\', 'n']
  else if c = '\r' then ['\\', 'r']
  else if c = '\t' then ['\\', 't']
  else if n = 8 then ['\\', 'b']
  else if n = 12 then ['\\', 'f']
  else if 0x20 ≤ n && n < 0x7F then [c]
  else if n < 0x10000 then unitEscape n
  else
    let m := n - 0x10000
    unitEscape (0xD800 + m / 0x400) ++ unitEscape (0xDC00 + m % 0x400)

def stringText (s : String) : List Char := '"' :: s.toList.flatMap escaped ++ ['"']

def numberText : Number.Binary → List Char
  | .nan _ => "NaN".toList
  | .infinite negative => (if negative then "-Infinity" else "Infinity").toList
  | x => x.text

def newLine (level : Nat) : List Char := '\n' :: List.replicate (2 * level) ' '

mutual

def valueText (level : Nat) : Value → List Char
  | .null => "null".toList
  | .bool b => (if b then "true" else "false").toList
  | .int n => Value.intText n
  | .float x => numberText x
  | .str s => stringText s
  | .list [] => ['[', ']']
  | .list (v :: vs) => '[' :: itemsText (level + 1) (v :: vs) ++ newLine level ++ [']']
  | .map [] => ['\x7b', '\x7d']
  | .map (e :: es) => '\x7b' :: entriesText (level + 1) (e :: es) ++ newLine level ++ ['\x7d']
  | v => stringText v.text

def itemsText (level : Nat) : List Value → List Char
  | [] => []
  | [v] => newLine level ++ valueText level v
  | v :: vs => newLine level ++ valueText level v ++ ',' :: itemsText level vs

def entriesText (level : Nat) : List Entry → List Char
  | [] => []
  | [(k, v)] => newLine level ++ stringText k.text ++ ':' :: ' ' :: valueText level v
  | (k, v) :: es =>
    newLine level ++ stringText k.text ++ ':' :: ' ' :: valueText level v ++
      ',' :: entriesText level es

end

def write (v : Value) : String := String.ofList (valueText 0 v)

end BlockAudit.Json
