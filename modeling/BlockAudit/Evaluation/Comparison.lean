import BlockAudit.Notice
import BlockAudit.Pattern.Match
import BlockAudit.Pattern.Parse
import BlockAudit.Text.Search
import BlockAudit.Value.Convert
import BlockAudit.Value.Equality

namespace BlockAudit

namespace Comparison

open Value

def equalTo (actual expected : Value) : Bool :=
  actual.equal expected ||
    (actual.comparedText?.isSome && actual.comparedText? == expected.comparedText?)

def onTexts (test : List Char → List Char → Bool) (actual expected : Value) : Bool :=
  match actual.comparedText?, expected.comparedText? with
  | some s, some t => test s t
  | _, _ => false

def contained (actual expected : Value) : Bool :=
  match actual with
  | .list vs => vs.any fun v => equalTo v expected
  | .map es =>
    match expected with
    | .str s => Value.contains s es
    | _ => false
  | _ => onTexts (fun s t => Text.isInfix t s) actual expected

def anyOf (actual expected : Value) : Bool :=
  match expected with
  | .list vs => vs.any (equalTo actual)
  | _ => false

def noneOf (actual expected : Value) : Bool :=
  match expected with
  | .list vs => !vs.any (equalTo actual)
  | _ => false

def onNumbers (test : Number.Binary → Number.Binary → Bool) (actual expected : Value) :
    Except Fault Bool := do
  let x ← actual.number?
  let y ← expected.number?
  match x, y with
  | some x, some y => return test x y
  | _, _ => return false

def patternFault : PatternError → Except Fault Bool
  | .malformed _ => .ok false
  | .repeatTooLarge => .error .repeatTooLarge
  | .clashingFlags => .error .clashingFlags

/-- The pattern is found in the text. A malformed pattern is found nowhere. -/
def matching (actual expected : Value) : Except Fault Bool :=
  match actual.comparedText?, expected with
  | some s, .str t =>
    match Pattern.parse t.toList with
    | .ok p => .ok (p.found s)
    | .error e => patternFault e
  | _, _ => .ok false

def holds (c : Comparison) (actual expected : Value) : Except Fault Bool :=
  match c with
  | equals => .ok (equalTo actual expected)
  | notEquals => .ok (!equalTo actual expected)
  | startsWith => .ok (onTexts (fun s t => t.isPrefixOf s) actual expected)
  | endsWith => .ok (onTexts (fun s t => t.isSuffixOf s) actual expected)
  | contains => .ok (contained actual expected)
  | notContains => .ok (!contained actual expected)
  | regexMatches => matching actual expected
  | isAny => .ok (anyOf actual expected)
  | isNone => .ok (noneOf actual expected)
  | lessThan => onNumbers (fun x y => x.lt y) actual expected
  | lessThanOrEqualTo => onNumbers (fun x y => x.le y) actual expected
  | greaterThan => onNumbers (fun x y => y.lt x) actual expected
  | greaterThanOrEqualTo => onNumbers (fun x y => y.le x) actual expected

def notices (c : Comparison) (actual expected : Value) : List Notice :=
  match c, actual.comparedText?, expected with
  | regexMatches, some _, .str t =>
    match Pattern.parse t.toList with
    | .error (.malformed reason) => [.invalidPattern t reason]
    | _ => []
  | _, _, _ => []

end Comparison
end BlockAudit
