import BlockAudit.Text.Search

namespace BlockAudit.Calendar

def isLeap (year : Nat) : Bool := year % 4 == 0 && (year % 100 != 0 || year % 400 == 0)

def daysIn (year month : Nat) : Nat :=
  if month = 2 then (if isLeap year then 29 else 28)
  else if month = 4 || month = 6 || month = 9 || month = 11 then 30 else 31

def decimal (width n : Nat) : List Char := Text.padStart width '0' (Nat.toDigits 10 n)

def commaSeparated (ns : List Nat) : List Char :=
  [',', ' '].intercalate (ns.map fun n => Nat.toDigits 10 n)

structure Date where
  year : Nat
  month : Nat
  day : Nat
deriving DecidableEq

namespace Date

def ofParts? (year month day : Nat) : Option Date :=
  if 1 ≤ year && year ≤ 9999 && 1 ≤ month && month ≤ 12 && 1 ≤ day && day ≤ daysIn year month then
    some ⟨year, month, day⟩
  else none

def text (d : Date) : List Char :=
  decimal 4 d.year ++ '-' :: decimal 2 d.month ++ '-' :: decimal 2 d.day

def parts (d : Date) : List Nat := [d.year, d.month, d.day]

def shown (d : Date) : List Char :=
  "datetime.date(".toList ++ commaSeparated d.parts ++ [')']

def number (d : Date) : Nat :=
  let y := d.year - 1
  let months := (List.range (d.month - 1)).map fun m => daysIn d.year (m + 1)
  months.foldl (· + ·) (365 * y + y / 4 - y / 100 + y / 400) + d.day

end Date

/-- The offset is in minutes; a moment without one is not placed in universal time. -/
structure Moment where
  date : Date
  hour : Nat
  minute : Nat
  second : Nat
  micro : Nat
  offset : Option Int
deriving DecidableEq

namespace Moment

def ofParts? (date : Date) (hour minute second micro : Nat) (offset : Option Int) :
    Option Moment :=
  if hour < 24 && minute < 60 && second < 60 && micro < 1000000
      && (offset.getD 0).natAbs < 1440 then
    some ⟨date, hour, minute, second, micro, offset⟩
  else none

def offsetText (offset : Int) : List Char :=
  let n := offset.natAbs
  (if offset < 0 then '-' else '+') :: decimal 2 (n / 60) ++ ':' :: decimal 2 (n % 60)

def text (separator : Char) (t : Moment) : List Char :=
  t.date.text ++ separator :: decimal 2 t.hour ++ ':' :: decimal 2 t.minute ++
    ':' :: decimal 2 t.second ++
    (if t.micro = 0 then [] else '.' :: decimal 6 t.micro) ++
    (t.offset.map offsetText).getD []

/-- A negative offset is shown as a day back and the seconds forward from there. -/
def offsetShown (offset : Int) : List Char :=
  if offset = 0 then "datetime.timezone.utc".toList
  else
    let seconds := Nat.toDigits 10 ((if offset < 0 then offset + 1440 else offset) * 60).toNat
    "datetime.timezone(datetime.timedelta(".toList ++
      (if offset < 0 then "days=-1, ".toList else []) ++
      "seconds=".toList ++ seconds ++ [')', ')']

def shown (t : Moment) : List Char :=
  let parts := t.date.parts ++ [t.hour, t.minute] ++
    (if t.micro ≠ 0 then [t.second, t.micro] else if t.second ≠ 0 then [t.second] else [])
  "datetime.datetime(".toList ++ commaSeparated parts ++
    (match t.offset with
      | none => []
      | some o => ", tzinfo=".toList ++ offsetShown o) ++ [')']

def clock (t : Moment) : Int :=
  (((t.date.number * 24 + t.hour) * 60 + t.minute) * 60 + t.second) * 1000000 + t.micro

/-- The same point in time, or the same clock reading if neither has an offset. -/
def same (t u : Moment) : Bool :=
  match t.offset, u.offset with
  | none, none => t.clock == u.clock
  | some o, some p => t.clock - o * 60000000 == u.clock - p * 60000000
  | _, _ => false

end Moment
end BlockAudit.Calendar
