import BlockAudit.Text.Blank
import BlockAudit.Text.Case
import BlockAudit.Value.Text

namespace BlockAudit

inductive Severity where
  | low
  | medium
  | high
  | critical
deriving DecidableEq, Inhabited

namespace Severity

def rank : Severity → Nat
  | low => 0
  | medium => 1
  | high => 2
  | critical => 3

def name : Severity → String
  | low => "LOW"
  | medium => "MEDIUM"
  | high => "HIGH"
  | critical => "CRITICAL"

def descending : List Severity := [critical, high, medium, low]

def below (s t : Severity) : Bool := s.rank < t.rank

def compareText? (s : Severity) : Value → Option Ordering
  | .str t => some (compare s.name.toList t.toList)
  | _ => none

/-- The capital of a letter of a severity's name. The dotless i has the capital of i. -/
def capital (c : Char) : Char :=
  if 'a' ≤ c && c ≤ 'z' then Char.ofNat (c.toNat - 32) else if c = 'ı' then 'I' else c

def ofName? (s : String) : Option Severity :=
  let capitals := s.toList.map capital
  descending.find? fun t => t.name.toList == capitals

def ofValue? (v : Value) : Option Severity := ofName? (Text.stripped v.text)

def unknown (v : Value) : String :=
  s!"Unknown severity {v.shown}, expected one of " ++ "|".intercalate (descending.map name)

end Severity
end BlockAudit
