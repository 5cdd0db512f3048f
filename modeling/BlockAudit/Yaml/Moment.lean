import BlockAudit.Calendar
import BlockAudit.Fault
import BlockAudit.Number.Numeral
import BlockAudit.Yaml.Cursor

namespace BlockAudit.Yaml

structure Clock where
  hour : Nat
  minute : Nat
  second : Nat
  fraction : List Char
  offset : Option Int

structure WrittenMoment where
  year : Nat
  month : Nat
  day : Nat
  padded : Bool
  clock : Option Clock

namespace WrittenMoment

def number (digits : List Char) : Nat := (Number.natural? 10 digits).getD 0

def digits? (least most : Nat) (s : List Char) : Option (List Char × List Char) :=
  let digits := (s.take most).takeWhile isDigit
  if least ≤ digits.length then some (digits, s.drop digits.length) else none

def after? (c : Char) : List Char → Option (List Char)
  | x :: s => if x = c then some s else none
  | [] => none

def zone? (s : List Char) : Option (Nat × List Char) := do
  let (hours, s) ← digits? 1 2 s
  match after? ':' s with
  | none => return (number hours * 60, s)
  | some t =>
    let (minutes, t) ← digits? 2 2 t
    return (number hours * 60 + number minutes, t)

def offset? (s : List Char) : Option (Option Int) :=
  match s, s.dropWhile isSpaceOrTab with
  | [], _ => some none
  | _, ['Z'] => some (some 0)
  | _, '+' :: t =>
    match zone? t with
    | some (n, []) => some (some n)
    | _ => none
  | _, '-' :: t =>
    match zone? t with
    | some (n, []) => some (some (-(n : Int)))
    | _ => none
  | _, _ => none

def clock? (s : List Char) : Option Clock := do
  let (hour, s) ← digits? 1 2 s
  let s ← after? ':' s
  let (minute, s) ← digits? 2 2 s
  let s ← after? ':' s
  let (second, s) ← digits? 2 2 s
  let (fraction, s) := match s with
    | '.' :: t => t.span isDigit
    | _ => ([], s)
  let offset ← offset? s
  return ⟨number hour, number minute, number second, fraction, offset⟩

def afterDay? : List Char → Option (List Char)
  | [] => none
  | c :: s =>
    if c = 'T' || c = 't' then some s
    else if isSpaceOrTab c then some (s.dropWhile isSpaceOrTab)
    else none

def read? (s : List Char) : Option WrittenMoment := do
  let (year, s) ← digits? 4 4 s
  let s ← after? '-' s
  let (month, s) ← digits? 1 2 s
  let s ← after? '-' s
  let (day, s) ← digits? 1 2 s
  let padded := month.length = 2 && day.length = 2
  if s.isEmpty then return ⟨number year, number month, number day, padded, none⟩
  let clock ← clock? (← afterDay? s)
  return ⟨number year, number month, number day, padded, some clock⟩

def micro (fraction : List Char) : Nat :=
  number (fraction.take 6 ++ List.replicate (6 - fraction.length) '0')

end WrittenMoment
end BlockAudit.Yaml
