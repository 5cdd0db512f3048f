import BlockAudit.Pattern.Width
import BlockAudit.Number.Numeral
import BlockAudit.Text.CharName
import BlockAudit.Text.Word

namespace BlockAudit.Pattern

open Text

/-- A backslash at the end of the pattern is an error as soon as it is the next token. -/
inductive Token where
  | plain (c : Char)
  | escape (c : Char)
  | dangling
deriving DecidableEq

def tokens : List Char → List Token
  | [] => []
  | ['\\'] => [.dangling]
  | '\\' :: c :: s => .escape c :: tokens s
  | c :: s => .plain c :: tokens s

structure Options where
  ignoreCase : Bool
  multiline : Bool
  dotAll : Bool
  verbose : Bool
  ascii : Bool
deriving DecidableEq

namespace Options

def none : Options := ⟨false, false, false, false, false⟩

def rule (o : Options) : CaseRule :=
  if !o.ignoreCase then .exact else if o.ascii then .anyAsciiCase else .anyCase

end Options

/-- `groups` counts the groups opened, the whole pattern among them; `widths` are those of the groups
closed. Groups from `behindFrom` on were opened inside a look behind. An error that shows only when
the pattern is complete is kept in `late`. -/
structure ReaderState where
  rest : List Token
  groups : Nat
  names : List (List Char × Nat)
  widths : List (Nat × Width)
  behindFrom : Option Nat
  options : Options
  unicode : Bool
  template : Bool
  loops : Bool
  lastConditional : Nat
  late : Option String

abbrev Reader := StateT ReaderState (Except PatternError)

namespace Reader

def fail {α : Type} (reason : String) : Reader α := throw (.malformed reason)

def start (s : List Char) : ReaderState where
  rest := tokens s
  groups := 1
  names := []
  widths := []
  behindFrom := none
  options := .none
  unicode := false
  template := false
  loops := false
  lastConditional := 0
  late := none

def checkRest : Reader Unit := do
  if (← get).rest.head? = some .dangling then fail "backslash at the end"

def peek : Reader (Option Token) := return (← get).rest.head?

def skip : Reader Unit := do
  modify fun st => { st with rest := st.rest.tail }
  checkRest

def next : Reader (Option Token) := do
  let t ← peek
  skip
  return t

def accept (c : Char) : Reader Bool := do
  if (← peek) = some (.plain c) then
    skip
    return true
  return false

def takeWhile (allowed : Char → Bool) : Nat → Reader (List Char)
  | 0 => return []
  | n + 1 => do
    match ← peek with
    | some (.plain c) =>
      if allowed c then
        skip
        return c :: (← takeWhile allowed n)
      return []
    | _ => return []

def spelling : Token → List Char
  | .plain c => [c]
  | .escape c => ['\\', c]
  | .dangling => ['\\']

def takeUntil (terminator : Char) : Nat → Reader (List Char)
  | 0 => fail "unterminated name"
  | n + 1 => do
    match ← next with
    | none => fail "unterminated name"
    | some t =>
      if t = .plain terminator then return []
      return spelling t ++ (← takeUntil terminator n)

def name (terminator : Char) : Reader (List Char) := do
  let s ← takeUntil terminator ((← get).rest.length + 1)
  if s.isEmpty then fail "missing name"
  return s

def groupName (terminator : Char) : Reader (List Char) := do
  let s ← name terminator
  if !isIdentifier s then fail "bad character in a group name"
  return s

def isClosed (n : Nat) : Reader Bool := do
  let st ← get
  return n < st.groups && st.widths.any (·.1 == n)

def checkBehind (n : Nat) : Reader Unit := do
  match (← get).behindFrom with
  | none => pure ()
  | some first =>
    if !(← isClosed n) then fail "reference to an open group"
    if first ≤ n then fail "reference to a group of the same look behind"

def checkClosed (n : Nat) : Reader Unit := do
  if !(← isClosed n) then fail "reference to an open group"
  checkBehind n

def isAsciiDigit (c : Char) : Bool := '0' ≤ c && c ≤ '9'

def isOctalDigit (c : Char) : Bool := '0' ≤ c && c ≤ '7'

def isHexDigit (c : Char) : Bool :=
  isAsciiDigit c || ('a' ≤ c && c ≤ 'f') || ('A' ≤ c && c ≤ 'F')

def valueIn (base : Nat) (digits : List Char) : Nat := (Number.natural? base digits).getD 0

def hexCode (n : Nat) : Reader Nat := do
  let digits ← takeWhile isHexDigit n
  if digits.length ≠ n then fail "incomplete escape"
  return valueIn 16 digits

def namedCode : Reader Nat := do
  if !(← accept '\x7b') then fail "missing brace"
  match codeOfName? (← name '\x7d') with
  | some n => return n
  | none => fail "undefined character name"

def octalCode (digits : List Char) : Reader Nat := do
  let n := valueIn 8 digits
  if n > 255 then fail "octal escape out of range"
  return n

def controlCode? : Char → Option Nat
  | 'a' => some 7
  | 'b' => some 8
  | 'f' => some 12
  | 'n' => some 10
  | 'r' => some 13
  | 't' => some 9
  | 'v' => some 11
  | '\\' => some 92
  | _ => none

def charClass? (ascii : Bool) : Char → Option CharClass
  | 'd' => some ⟨.digit, false, ascii⟩
  | 'D' => some ⟨.digit, true, ascii⟩
  | 's' => some ⟨.space, false, ascii⟩
  | 'S' => some ⟨.space, true, ascii⟩
  | 'w' => some ⟨.word, false, ascii⟩
  | 'W' => some ⟨.word, true, ascii⟩
  | _ => none

def codeOfEscape (c : Char) : Reader Nat := do
  if c = 'x' then hexCode 2
  else if c = 'u' then hexCode 4
  else if c = 'U' then
    let n ← hexCode 8
    if n > 0x10FFFF then fail "no such code point"
    return n
  else if c = 'N' then namedCode
  else if c.isAlphanum then fail "bad escape"
  else return c.toNat

def setEscape (ascii : Bool) (c : Char) : Reader SetItem := do
  match controlCode? c, charClass? ascii c with
  | some n, _ => return .range n n
  | none, some k => return .charClass k
  | none, none =>
    let n ← if isOctalDigit c then octalCode (c :: (← takeWhile isOctalDigit 2)) else codeOfEscape c
    return .range n n

def anchor? (o : Options) : Char → Option Anchor
  | 'A' => some .textStart
  | 'Z' => some .textEnd
  | 'b' => some (.wordBoundary o.ascii)
  | 'B' => some (.noWordBoundary o.ascii)
  | _ => none

def backreference (o : Options) (digits : List Char) : Reader Node := do
  let n := valueIn 10 digits
  if n < (← get).groups then
    checkClosed n
    return .backref n o.rule
  fail "invalid group reference"

def numberedEscape (o : Options) (c : Char) : Reader Node := do
  match ← takeWhile isAsciiDigit 1 with
  | [d] =>
    if isOctalDigit c && isOctalDigit d then
      match ← takeWhile isOctalDigit 1 with
      | [e] => return .literal (← octalCode [c, d, e]) o.rule
      | _ => backreference o [c, d]
    else backreference o [c, d]
  | _ => backreference o [c]

def escape (o : Options) (c : Char) : Reader Node := do
  match anchor? o c, charClass? o.ascii c, controlCode? c with
  | some a, _, _ => return .anchor a
  | none, some k, _ => return .oneOf false [.charClass k] o.rule
  | none, none, some n => return .literal n o.rule
  | none, none, none =>
    if c = '0' then return .literal (valueIn 8 ('0' :: (← takeWhile isOctalDigit 2))) o.rule
    if isAsciiDigit c then numberedEscape o c
    else return .literal (← codeOfEscape c) o.rule

end Reader
end BlockAudit.Pattern
