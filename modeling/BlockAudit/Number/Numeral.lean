import BlockAudit.Number.Binary
import BlockAudit.Text.Blank
import BlockAudit.Text.Case
import BlockAudit.Text.Digit
import BlockAudit.Text.Search

namespace BlockAudit.Number

open Text

/-- The white space allowed around a numeral leaves out the four separator controls. -/
def isMargin (c : Char) : Bool := isBlank c && !(0x1C ≤ c.toNat && c.toNat ≤ 0x1F)

def withoutMargins (s : List Char) : List Char :=
  ((s.dropWhile isMargin).reverse.dropWhile isMargin).reverse

def splitSign : List Char → Bool × List Char
  | '-' :: s => (true, s)
  | '+' :: s => (false, s)
  | s => (false, s)

def digitIn? (base : Nat) (c : Char) : Option Nat :=
  let value := match decimalValue? c with
    | some d => d
    | none =>
      let n := toSmallAscii c.toNat
      if 0x61 ≤ n && n ≤ 0x7A then n - 0x61 + 10 else base
  if value < base then some value else none

def digits? (base : Nat) (s : List Char) : Option (List Nat) :=
  let groups := fields '_' s
  if groups.all (!·.isEmpty) then groups.flatten.mapM (digitIn? base) else none

def ofDigits (base : Nat) (digits : List Nat) : Nat := digits.foldl (fun n d => n * base + d) 0

def natural? (base : Nat) (s : List Char) : Option Nat := (digits? base s).map (ofDigits base)

def baseLetter : Nat → Option Char
  | 2 => some 'b'
  | 8 => some 'o'
  | 16 => some 'x'
  | _ => none

def withoutBase (base : Nat) : List Char → List Char
  | '0' :: c :: s =>
    if baseLetter base = some (Char.ofNat (toSmallAscii c.toNat)) then
      match s with
      | '_' :: t => t
      | t => t
    else '0' :: c :: s
  | s => s

def integerIn? (base : Nat) (s : List Char) : Option Int :=
  let (negative, t) := splitSign (withoutMargins s)
  (natural? base (withoutBase base t)).map fun n => if negative then -(n : Int) else n

def integer? (s : List Char) : Option Int := integerIn? 10 s

def fixedPoint? (s : List Char) : Option (List Nat × Nat) :=
  match fields '.' s with
  | [whole] => (digits? 10 whole).map (·, 0)
  | [whole, []] => (digits? 10 whole).map (·, 0)
  | [[], fraction] => (digits? 10 fraction).map fun f => (f, f.length)
  | [whole, fraction] => do
    let w ← digits? 10 whole
    let f ← digits? 10 fraction
    return (w ++ f, f.length)
  | _ => none

def exponent? (s : List Char) : Option Int :=
  let (negative, t) := splitSign s
  (natural? 10 t).map fun n => if negative then -(n : Int) else n

def unsignedBinary? (negative : Bool) (s : List Char) : Option Binary :=
  if s = ['i', 'n', 'f'] || s = ['i', 'n', 'f', 'i', 'n', 'i', 't', 'y'] then
    some (.infinite negative)
  else if s = ['n', 'a', 'n'] then some (.nan 0)
  else match fields 'e' s with
    | [point] => (fixedPoint? point).map fun (digits, places) =>
      .ofDecimal negative (ofDigits 10 digits) (-places)
    | [point, power] => do
      let (digits, places) ← fixedPoint? point
      let e ← exponent? power
      return .ofDecimal negative (ofDigits 10 digits) (e - places)
    | _ => none

def binary? (s : List Char) : Option Binary :=
  let (negative, t) := splitSign (withoutMargins s)
  unsignedBinary? negative (t.map fun c => Char.ofNat (toSmallAscii c.toNat))

end BlockAudit.Number
