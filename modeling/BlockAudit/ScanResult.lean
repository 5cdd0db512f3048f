import BlockAudit.Finding
import BlockAudit.Sorting

namespace BlockAudit

structure Summary where
  critical : Nat
  high : Nat
  medium : Nat
  low : Nat
deriving DecidableEq

structure ScanResult where
  summary : Summary
  findings : List Finding
deriving DecidableEq

namespace Summary

def empty : Summary := ⟨0, 0, 0, 0⟩

def count (s : Summary) : Severity → Nat
  | .critical => s.critical
  | .high => s.high
  | .medium => s.medium
  | .low => s.low

def increment (s : Summary) : Severity → Summary
  | .critical => { s with critical := s.critical + 1 }
  | .high => { s with high := s.high + 1 }
  | .medium => { s with medium := s.medium + 1 }
  | .low => { s with low := s.low + 1 }

def total (s : Summary) : Nat := s.critical + s.high + s.medium + s.low

def toValue (s : Summary) : Value :=
  .map
    [(.str "critical", .int s.critical), (.str "high", .int s.high),
     (.str "medium", .int s.medium), (.str "low", .int s.low)]

end Summary

namespace ScanResult

def empty : ScanResult := ⟨.empty, []⟩

def add (r : ScanResult) (f : Finding) : ScanResult :=
  ⟨r.summary.increment f.severity, r.findings ++ [f]⟩

def addAll (r : ScanResult) (fs : List Finding) : ScanResult := fs.foldl add r

/-- Findings of low severity do not keep a scan from passing. -/
def passed (r : ScanResult) : Bool :=
  r.summary.critical == 0 && r.summary.high == 0 && r.summary.medium == 0

def exitCode (r : ScanResult) : Nat :=
  if 0 < r.summary.critical || 0 < r.summary.high then 2
  else if 0 < r.summary.medium then 1
  else 0

def toValue (r : ScanResult) : Value :=
  .map
    [(.str "summary", r.summary.toValue),
     (.str "findings", .list (r.findings.map (·.toValue))),
     (.str "passed", .bool r.passed)]

/-- The first `limit` items; a negative limit counts from the end. -/
def takeUpTo {α : Type} (limit : Int) (xs : List α) : List α :=
  match limit with
  | .ofNat n => xs.take n
  | .negSucc n => xs.take (xs.length - (n + 1))

def topFindings (r : ScanResult) (limit : Int) : List Finding :=
  takeUpTo limit (sorted Finding.precedes r.findings)

def row (name count : String) : String :=
  String.ofList (Text.padEnd 10 ' ' name.toList) ++ " | " ++
    String.ofList (Text.padStart 5 ' ' count.toList)

def line (c : Char) (width : Nat) : String := String.ofList (List.replicate width c)

def findingLines (f : Finding) : List String :=
  [s!"[{f.severity.name}] {f.code} {f.message} -> {f.resource}", s!"  Location: {f.location}"]

def topLines : List Finding → List String
  | [] => []
  | fs => ["", "Top Findings", line '-' 40] ++ fs.flatMap findingLines

def table (r : ScanResult) (limit : Int) : String :=
  let header := row "Severity" "Count"
  let rule := line '-' header.length
  let rows := Severity.descending.map fun s => row s.name (toString (r.summary.count s))
  let status := if r.passed then "PASS" else "FAIL"
  "\n".intercalate
    (["Scan Summary", line '=' 40, header, rule] ++ rows ++
      [rule, s!"Status    : {status}", s!"Findings  : {r.summary.total}"] ++
      topLines (r.topFindings limit))

end ScanResult
end BlockAudit
