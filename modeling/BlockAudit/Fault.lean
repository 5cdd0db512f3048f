/-!
Conditions under which a computation stops without an answer. They are not defects that are
reported to the author of a file; each of them ends the whole run.
-/

namespace BlockAudit

inductive Fault where
  /-- The key of a mapping is no text and is asked for its first characters. -/
  | keyNotText
  | keyOfBytes
  /-- A digit that stands in no decimal numeral is read as an index. -/
  | detachedDigit
  /-- An integer has no binary number near it, or infinity is read as an integer. -/
  | numberTooLarge
  /-- A pattern asks for more repetitions than can be counted. -/
  | repeatTooLarge
  /-- A pattern asks for two letter tables at once. -/
  | clashingFlags
  /-- A document does not follow the grammar, where nothing reports it. -/
  | malformedDocument
  | malformedNumeral
  | emptyNumeral
  | malformedTruthValue
  | malformedMoment
  /-- A collection that is tagged as a moment has a default scalar that looks like one. -/
  | momentOfCollection
  | impossibleMoment
  | noSuchCodePoint
  /-- An escape sequence names a code point beyond what can be counted. -/
  | codePointTooLarge
  | notText
  | isDirectory
  | notDirectory
  | fileExists
  | malformedPath
  | missingKey
  | missingIndex
deriving DecidableEq

end BlockAudit
