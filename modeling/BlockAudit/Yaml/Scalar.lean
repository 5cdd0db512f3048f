import BlockAudit.Value.Basic
import BlockAudit.Yaml.Tag
/-!
Values of scalars with the common tags. A scalar whose looks gave it its tag nearly always has a
value; one whose tag was written may not.
-/

namespace BlockAudit.Yaml.Scalar

open Number

def small (s : List Char) : List Char := s.map fun c => Char.ofNat (Text.toSmallAscii c.toNat)

def truth (text : String) : Except Fault Value :=
  let word := String.ofList (small text.toList)
  if Look.truths.contains word then .ok (.bool true)
  else if Look.untruths.contains word then .ok (.bool false)
  else .error .malformedTruthValue

def withoutBars (s : List Char) : List Char := s.filter (· != '_')

def signed (s : List Char) : Except Fault (Bool × List Char) :=
  if s.isEmpty then .error .emptyNumeral else .ok (splitSign s)

def part (s : List Char) : Except Fault Int :=
  match integer? s with
  | some n => .ok n
  | none => .error .malformedNumeral

def inBase (base : Nat) (s : List Char) : Except Fault Int :=
  match integerIn? base s with
  | some n => .ok n
  | none => .error .malformedNumeral

def unsignedInt (s : List Char) : Except Fault Int :=
  match s with
  | [] => .error .emptyNumeral
  | ['0'] => .ok 0
  | '0' :: 'b' :: t => inBase 2 t
  | '0' :: 'x' :: t => inBase 16 t
  | '0' :: _ => inBase 8 s
  | _ =>
    if s.contains ':' then do
      let parts ← (Text.fields ':' s).mapM part
      return parts.foldl (fun n p => n * 60 + p) 0
    else part s

def int (text : String) : Except Fault Value := do
  let (negative, s) ← signed (withoutBars text.toList)
  let n ← unsignedInt s
  return .int (if negative then -n else n)

def floatPart (s : List Char) : Except Fault Binary :=
  match binary? s with
  | some x => .ok x
  | none => .error .malformedNumeral

/-- The sum of the parts, the last one first, each worth sixty times the one after it. -/
def sexagesimal : Nat → Binary → List Binary → Except Fault Binary
  | _, sum, [] => .ok sum
  | base, sum, x :: xs =>
    match Binary.ofInt? base with
    | some b => sexagesimal (base * 60) (sum.add (x.mul b)) xs
    | none => .error .numberTooLarge

def noNumberMark : Nat := 2

def unsignedFloat (s : List Char) : Except Fault Binary :=
  if s = ".inf".toList then .ok (.infinite false)
  else if s = ".nan".toList then .ok (.nan noNumberMark)
  else if s.contains ':' then do
    let parts ← (Text.fields ':' s).mapM floatPart
    sexagesimal 1 .zero parts.reverse
  else floatPart s

def float (text : String) : Except Fault Value := do
  let (negative, s) ← signed (small (withoutBars text.toList))
  let x ← unsignedFloat s
  return .float (if negative then x.neg else x)

def moment (text : String) : Except Fault Value :=
  match WrittenMoment.read? (Look.withoutLastFeed text.toList) with
  | none => .error .malformedMoment
  | some m =>
    match Calendar.Date.ofParts? m.year m.month m.day, m.clock with
    | none, _ => .error .impossibleMoment
    | some d, none => .ok (.date d)
    | some d, some c =>
      match Calendar.Moment.ofParts? d c.hour c.minute c.second
          (WrittenMoment.micro c.fraction) c.offset with
      | some t => .ok (.moment t)
      | none => .error .impossibleMoment

def sixBits? (c : Char) : Option Nat :=
  if 'A' ≤ c && c ≤ 'Z' then some (c.toNat - 65)
  else if 'a' ≤ c && c ≤ 'z' then some (c.toNat - 71)
  else if '0' ≤ c && c ≤ '9' then some (c.toNat + 4)
  else if c = '+' then some 62
  else if c = '/' then some 63
  else none

/-- Bytes of groups of four characters; `seen` holds those of the current group, the last one first.
Characters that are not among the sixty-four are passed over. -/
def bytes? (seen : List Nat) (pads : Nat) : List Char → Option (List UInt8)
  | [] => if seen.isEmpty then some [] else none
  | c :: s =>
    if c = '=' then
      if 2 ≤ seen.length then
        if 4 ≤ seen.length + pads + 1 then some [] else bytes? seen (pads + 1) s
      else bytes? seen pads s
    else
      match sixBits? c, seen with
      | none, _ => bytes? seen pads s
      | some n, [] => bytes? [n] 0 s
      | some n, [a] => (bytes? [n, a] 0 s).map ((a * 4 + n / 16).toUInt8 :: ·)
      | some n, [b, a] => (bytes? [n, b, a] 0 s).map ((b % 16 * 16 + n / 4).toUInt8 :: ·)
      | some n, b :: _ => (bytes? [] 0 s).map ((b % 4 * 64 + n).toUInt8 :: ·)

def binary (text : String) : Except Fault Value :=
  if text.toList.all fun c => c.toNat < 0x80 then
    match bytes? [] 0 text.toList with
    | some bs => .ok (.bytes bs)
    | none => .error .malformedDocument
  else .error .malformedDocument

def value? (tag : Tag) (text : String) : Option (Except Fault Value) :=
  match tag with
  | .null => some (.ok .null)
  | .bool => some (truth text)
  | .int => some (int text)
  | .float => some (float text)
  | .binary => some (binary text)
  | .timestamp => some (moment text)
  | .str => some (.ok (.str text))
  | _ => none

end BlockAudit.Yaml.Scalar
