import BlockAudit.Fault
/-!
Places in a document. The end of the document is read as the null character, which no document
holds.
-/

namespace BlockAudit.Yaml

structure Cursor where
  index : Nat
  line : Nat
  column : Nat
  rest : List Char

def isBreak (c : Char) : Bool :=
  c == '\n' || c == '\r' || c == '\u0085' || c == '\u2028' || c == '\u2029'

def isBreakOrEnd (c : Char) : Bool := c == '\x00' || isBreak c

def isSpaceOrEnd (c : Char) : Bool := c == ' ' || isBreakOrEnd c

def isBlankOrEnd (c : Char) : Bool := c == '\t' || isSpaceOrEnd c

def isSpaceOrTab (c : Char) : Bool := c == ' ' || c == '\t'

def isNameChar (c : Char) : Bool := c.isAlphanum || c == '-' || c == '_'

def isDigit (c : Char) : Bool := '0' ≤ c && c ≤ '9'

def isHexDigit (c : Char) : Bool :=
  isDigit c || ('a' ≤ c && c ≤ 'f') || ('A' ≤ c && c ≤ 'F')

namespace Cursor

def start (s : List Char) : Cursor := ⟨0, 0, 0, s⟩

def peek (c : Cursor) : Char := c.rest.head?.getD '\x00'

def peekAt (c : Cursor) (n : Nat) : Char := (c.rest.drop n).head?.getD '\x00'

/-- A carriage return ends a line unless a line feed follows. The byte order mark takes no column. -/
def next (c : Cursor) : Cursor :=
  match c.rest with
  | [] => c
  | x :: s =>
    if (x != '\r' && isBreak x) || (x == '\r' && s.head? != some '\n') then
      ⟨c.index + 1, c.line + 1, 0, s⟩
    else ⟨c.index + 1, c.line, if x = '\uFEFF' then c.column else c.column + 1, s⟩

def skip : Nat → Cursor → Cursor
  | 0, c => c
  | n + 1, c => skip n c.next

def startsWith (c : Cursor) (word : List Char) : Bool := word.isPrefixOf c.rest

def takeWhile (c : Cursor) (p : Char → Bool) : List Char × Cursor :=
  let word := c.rest.takeWhile p
  (word, c.skip word.length)

def skipWhile (c : Cursor) (p : Char → Bool) : Cursor := (c.takeWhile p).2

def skipSpaces (c : Cursor) : Cursor := c.skipWhile (· == ' ')

def skipComment (c : Cursor) : Cursor :=
  if c.peek = '#' then c.skipWhile fun x => !isBreakOrEnd x else c

/-- The line break that comes next, if one does. All of them are read as line feeds, but for the line
and the paragraph separator. -/
def lineBreak (c : Cursor) : List Char × Cursor :=
  let x := c.peek
  if x = '\r' && c.peekAt 1 = '\n' then (['\n'], c.skip 2)
  else if x = '\r' || x = '\n' || x = '\u0085' then (['\n'], c.next)
  else if isBreak x then ([x], c.next)
  else ([], c)

def isSeparator (c : Cursor) : Bool :=
  (c.startsWith ['-', '-', '-'] || c.startsWith ['.', '.', '.']) && isBlankOrEnd (c.peekAt 3)

end Cursor

def malformed {α : Type} : Except Fault α := .error .malformedDocument

end BlockAudit.Yaml
