import BlockAudit.MatchSpec.Basic

namespace BlockAudit

inductive Flaw where
  | noPredicates (a : Action)
  | severalPredicates (count : Nat)
  | strayPredicates (a : Action)
  | noName (a : Action)
  | noSubMatch
  | straySubMatch (a : Action)
  | noPattern
  | noAlternatives (c : Comparison)
  | noMatchValue (c : Comparison)

namespace Flaw

def text : Flaw → String
  | noPredicates a => s!"'{a.name}' requires at least one predicateMatchSpec entry"
  | severalPredicates n => s!"'not' requires exactly one predicateMatchSpec entry, got {n}"
  | strayPredicates a => s!"'{a.name}' does not take predicateMatchSpec entries"
  | noName a => s!"'{a.name}' requires a name"
  | noSubMatch => "'requiresPresence' requires a subMatch"
  | straySubMatch a => s!"subMatch is not supported with '{a.name}'"
  | noPattern => "'regexMatches' requires a string matchValue"
  | noAlternatives c => s!"'{c.name}' requires a list matchValue"
  | noMatchValue c => s!"'{c.name}' requires a matchValue"

end Flaw

structure Problem where
  path : String
  flaw : Flaw

namespace Problem

def message (p : Problem) : String := s!"{p.path}: {p.flaw.text}"

end Problem

namespace MatchSpec

def flawIf (c : Bool) (f : Flaw) : List Flaw := if c then [f] else []

def predicateFlaws (a : Action) (count : Nat) : List Flaw :=
  if a.isCombinator then
    flawIf (count == 0) (.noPredicates a) ++
      flawIf (count != 0 && a == .not && count != 1) (.severalPredicates count)
  else flawIf (count != 0) (.strayPredicates a)

def valueFlaws (v : Value) : Action → List Flaw
  | .comparison c =>
    flawIf (c == .regexMatches && v.text?.isNone) .noPattern ++
      flawIf (c.takesList && v.items?.isNone) (.noAlternatives c) ++
      flawIf (!c.takesList && v.isNull) (.noMatchValue c)
  | _ => []

def flaws (spec : MatchSpec) : List Flaw :=
  let a := spec.action
  predicateFlaws a spec.predicates.length ++
    flawIf (a.isNamed && spec.name.isEmpty) (.noName a) ++
    flawIf (a == .requiresPresence && spec.subMatch.isNone) .noSubMatch ++
    flawIf (spec.subMatch.isSome && !a.takesSubMatch) (.straySubMatch a) ++
    valueFlaws spec.matchValue a

mutual

def problems (path : String) : MatchSpec → List Problem
  | ⟨action, name, matchValue, predicates, subMatch, preConditions, assignVariable⟩ =>
    (flaws ⟨action, name, matchValue, predicates, subMatch, preConditions, assignVariable⟩).map
        (⟨path, ·⟩) ++
      problemsOfItems (partPath path "predicateMatchSpec") 0 predicates ++
      problemsOfItems (partPath path "preConditions") 0 preConditions ++
      problemsOfSubMatch (partPath path "subMatch") subMatch

def problemsOfItems (path : String) (i : Nat) : List MatchSpec → List Problem
  | [] => []
  | spec :: specs => problems (itemPath path i) spec ++ problemsOfItems path (i + 1) specs

def problemsOfSubMatch (path : String) : Option MatchSpec → List Problem
  | none => []
  | some spec => problems path spec

end

end MatchSpec
end BlockAudit
