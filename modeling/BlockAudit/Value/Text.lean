import BlockAudit.Value.Basic
import BlockAudit.Number.Shortest
import BlockAudit.Text.Quoted
/-!
The text of a value. Inside lists and mappings, and in messages, texts are shown in quotes. The members of
a set are shown in the order in which they are written.
-/

namespace BlockAudit.Value

open Number

def intText (n : Int) : List Char :=
  if n < 0 then '-' :: Nat.toDigits 10 n.natAbs else Nat.toDigits 10 n.natAbs

def boolShown (b : Bool) : List Char := if b then "True".toList else "False".toList

def shownByte (quote : Char) (b : UInt8) : List Char :=
  let n := b.toNat
  let c := Char.ofNat n
  if c = quote || c = '\\' then ['\\', c]
  else if c = '\t' then ['\\', 't']
  else if c = '\n' then ['\\', 'n']
  else if c = '\r' then ['\\', 'r']
  else if 0x20 ≤ n && n < 0x7F then [c]
  else '\\' :: 'x' :: Text.hex 2 n

def bytesShown (bs : List UInt8) : List Char :=
  let quote := if bs.contains 39 && !bs.contains 34 then '"' else '\''
  'b' :: quote :: bs.flatMap (shownByte quote) ++ [quote]

def atomShown : Atom → List Char
  | .null => "None".toList
  | .bool b => boolShown b
  | .int n => intText n
  | .float x => x.text
  | .str s => Text.quoted s.toList
  | .bytes bs => bytesShown bs
  | .date d => d.shown
  | .moment t => t.shown

/-- A set has no order of its own: its members are shown in the order in which they were met. -/
def setShown (ms : List Atom) : List Char :=
  if ms.isEmpty then "set()".toList
  else '\x7b' :: [',', ' '].intercalate (ms.map atomShown) ++ ['\x7d']

mutual

def shownChars : Value → List Char
  | null => atomShown .null
  | bool b => atomShown (.bool b)
  | int n => atomShown (.int n)
  | float x => atomShown (.float x)
  | str s => atomShown (.str s)
  | bytes bs => atomShown (.bytes bs)
  | date d => atomShown (.date d)
  | moment t => atomShown (.moment t)
  | list vs => '[' :: itemsShown vs ++ [']']
  | pair v w => '(' :: shownChars v ++ ',' :: ' ' :: shownChars w ++ [')']
  | map es => '\x7b' :: entriesShown es ++ ['\x7d']
  | set ms => setShown ms

def itemsShown : List Value → List Char
  | [] => []
  | [v] => shownChars v
  | v :: vs => shownChars v ++ ',' :: ' ' :: itemsShown vs

def entriesShown : List Entry → List Char
  | [] => []
  | [(k, v)] => shownChars k ++ ':' :: ' ' :: shownChars v
  | (k, v) :: es => shownChars k ++ ':' :: ' ' :: shownChars v ++ ',' :: ' ' :: entriesShown es

end

def shown (v : Value) : String := String.ofList (shownChars v)

def text : Value → String
  | str s => s
  | date d => String.ofList d.text
  | moment t => String.ofList (t.text ' ')
  | v => v.shown

end BlockAudit.Value
