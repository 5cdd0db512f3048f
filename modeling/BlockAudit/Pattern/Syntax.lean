/-!
Patterns of text. A pattern is a choice between sequences of nodes; the options in force at a node
are part of the node.
-/

namespace BlockAudit.Pattern

inductive CaseRule where
  | exact
  | anyCase
  | anyAsciiCase
deriving DecidableEq

inductive ClassName where
  | digit
  | space
  | word
deriving DecidableEq

structure CharClass where
  name : ClassName
  negated : Bool
  ascii : Bool
deriving DecidableEq

/-- Code points are numbers here: a range may include those that are no characters. -/
inductive SetItem where
  | range (low high : Nat)
  | charClass (c : CharClass)
deriving DecidableEq

inductive Anchor where
  | textStart
  | lineStart
  | textEnd
  | lastLineEnd
  | lineEnd
  | wordBoundary (ascii : Bool)
  | noWordBoundary (ascii : Bool)
deriving DecidableEq

inductive Greed where
  | greedy
  | lazy
  | possessive
deriving DecidableEq

inductive Node where
  | literal (code : Nat) (rule : CaseRule)
  | any (lineFeeds : Bool)
  | oneOf (negated : Bool) (items : List SetItem) (rule : CaseRule)
  | anchor (a : Anchor)
  | group (number : Option Nat) (choice : List (List Node))
  | atomic (choice : List (List Node))
  | loop (greed : Greed) (min : Nat) (max : Option Nat) (item : Node)
  | look (back : Option Nat) (negated : Bool) (choice : List (List Node))
  | backref (number : Nat) (rule : CaseRule)
  | conditional (number : Nat) (yes no : List Node)

abbrev Choice := List (List Node)

end BlockAudit.Pattern

namespace BlockAudit

/-- `ascii` tells whether the pattern as a whole uses the small letter tables. -/
structure Pattern where
  choice : Pattern.Choice
  ascii : Bool

inductive PatternError where
  | malformed (reason : String)
  | repeatTooLarge
  | clashingFlags
deriving DecidableEq

end BlockAudit
