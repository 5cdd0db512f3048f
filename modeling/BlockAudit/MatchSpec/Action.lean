import BlockAudit.Value.Text

namespace BlockAudit

inductive Presence where
  | present
  | absent
  | empty
deriving DecidableEq

inductive Comparison where
  | equals
  | notEquals
  | startsWith
  | endsWith
  | contains
  | notContains
  | regexMatches
  | isAny
  | isNone
  | lessThan
  | lessThanOrEqualTo
  | greaterThan
  | greaterThanOrEqualTo
deriving DecidableEq

inductive Action where
  | presence (p : Presence)
  | comparison (c : Comparison)
  | inModule
  | hasTag
  | and
  | or
  | not
  | requiresPresence
deriving DecidableEq

namespace Presence

def name : Presence → String
  | present => "isPresent"
  | absent => "notPresent"
  | empty => "isEmpty"

def all : List Presence := [present, absent, empty]

end Presence

namespace Comparison

def name : Comparison → String
  | equals => "equals"
  | notEquals => "notEquals"
  | startsWith => "startsWith"
  | endsWith => "endsWith"
  | contains => "contains"
  | notContains => "notContains"
  | regexMatches => "regexMatches"
  | isAny => "isAny"
  | isNone => "isNone"
  | lessThan => "lessThan"
  | lessThanOrEqualTo => "lessThanOrEqualTo"
  | greaterThan => "greaterThan"
  | greaterThanOrEqualTo => "greaterThanOrEqualTo"

def all : List Comparison :=
  [equals, notEquals, startsWith, endsWith, contains, notContains, regexMatches, isAny, isNone,
   lessThan, lessThanOrEqualTo, greaterThan, greaterThanOrEqualTo]

def takesList : Comparison → Bool
  | isAny => true
  | isNone => true
  | _ => false

end Comparison

namespace Action

def name : Action → String
  | presence p => p.name
  | comparison c => c.name
  | inModule => "inModule"
  | hasTag => "hasTag"
  | and => "and"
  | or => "or"
  | not => "not"
  | requiresPresence => "requiresPresence"

def all : List Action :=
  Presence.all.map presence ++ Comparison.all.map comparison ++
    [inModule, hasTag, and, or, not, requiresPresence]

def isCombinator : Action → Bool
  | and => true
  | or => true
  | not => true
  | _ => false

def isPresence : Action → Bool
  | presence _ => true
  | _ => false

def isComparison : Action → Bool
  | comparison _ => true
  | _ => false

def isNamed (a : Action) : Bool := !a.isCombinator && a != inModule

def takesSubMatch (a : Action) : Bool := a.isPresence || a == requiresPresence

def otherName : String := "notEqual"

def ofName? (s : String) : Option Action :=
  if s = otherName then some (comparison .notEquals) else all.find? fun a => a.name == s

def ofValue? : Value → Option Action
  | .null => ofName? ""
  | v => ofName? v.text

end Action
end BlockAudit
