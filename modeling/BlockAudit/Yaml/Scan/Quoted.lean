import BlockAudit.Number.Numeral
import BlockAudit.Yaml.Cursor
/-!
Scanning of quoted scalars. Inside them line breaks are folded and the space around them is lost.
-/

namespace BlockAudit.Yaml.Scan

def quotedBreaks : Nat → Cursor → Except Fault (List Char × Cursor)
  | 0, _ => malformed
  | n + 1, c =>
    if c.isSeparator then malformed
    else
      let c := c.skipWhile isSpaceOrTab
      match c.lineBreak with
      | ([], c) => .ok ([], c)
      | (s, c) => do
        let (t, c) ← quotedBreaks n c
        return (s ++ t, c)

def quotedSpace (c : Cursor) : Except Fault (List Char × Cursor) :=
  let (space, c) := c.takeWhile isSpaceOrTab
  if c.peek = '\x00' then malformed
  else
    match c.lineBreak with
    | ([], c) => .ok (space, c)
    | (s, c) => do
      let (breaks, c) ← quotedBreaks (c.rest.length + 1) c
      if s ≠ ['\n'] then return (s ++ breaks, c)
      else if breaks.isEmpty then return ([' '], c)
      else return (breaks, c)

def escape? : Char → Option Char
  | '0' => some '\x00'
  | 'a' => some '\x07'
  | 'b' => some '\x08'
  | 't' => some '\t'
  | '\t' => some '\t'
  | 'n' => some '\n'
  | 'v' => some '\x0b'
  | 'f' => some '\x0c'
  | 'r' => some '\r'
  | 'e' => some '\x1b'
  | ' ' => some ' '
  | '"' => some '"'
  | '\\' => some '\\'
  | '/' => some '/'
  | 'N' => some '\u0085'
  | '_' => some '\u00a0'
  | 'L' => some '\u2028'
  | 'P' => some '\u2029'
  | _ => none

def codeWidth? : Char → Option Nat
  | 'x' => some 2
  | 'u' => some 4
  | 'U' => some 8
  | _ => none

def codePoint (n : Nat) : Except Fault Char :=
  if n > 0x7FFFFFFF then .error .codePointTooLarge
  else if n > 0x10FFFF then .error .noSuchCodePoint
  else if 0xD800 ≤ n && n < 0xE000 then .ok '\uFFFD'
  else .ok (Char.ofNat n)

def numberedEscape (width : Nat) (c : Cursor) : Except Fault (List Char × Cursor) := do
  let digits := c.rest.take width
  if digits.length = width && digits.all isHexDigit then
    let x ← codePoint ((Number.natural? 16 digits).getD 0)
    return ([x], c.skip width)
  else malformed

def escapeSequence (c : Cursor) : Except Fault (List Char × Cursor) :=
  match escape? c.peek, codeWidth? c.peek with
  | some x, _ => .ok ([x], c.next)
  | none, some width => numberedEscape width c.next
  | none, none =>
    match c.lineBreak with
    | ([], _) => malformed
    | (_, c) => quotedBreaks (c.rest.length + 1) c

def isQuotedText (c : Char) : Bool := !(c == '\'' || c == '"' || c == '\\' || isBlankOrEnd c)

def quotedChunk (double : Bool) (c : Cursor) : Except Fault (List Char × Cursor) :=
  let x := c.peek
  if isQuotedText x then .ok (c.takeWhile isQuotedText)
  else if isBlankOrEnd x then quotedSpace c
  else if double then
    if x = '\\' then escapeSequence c.next else .ok ([x], c.next)
  else if x = '\'' then .ok ([x], c.skip 2)
  else .ok ([x], c.next)

def closesQuote (double : Bool) (c : Cursor) : Bool :=
  c.peek = (if double then '"' else '\'') && (double || c.peekAt 1 ≠ '\'')

def quotedText (double : Bool) : Nat → Cursor → Except Fault (List Char × Cursor)
  | 0, _ => malformed
  | n + 1, c => do
    let (s, c) ← quotedChunk double c
    if closesQuote double c then return (s, c.next)
    let (t, c) ← quotedText double n c
    return (s ++ t, c)

def quoted (c : Cursor) : Except Fault (String × Cursor) := do
  let double := c.peek == '"'
  let c := c.next
  if closesQuote double c then return ("", c.next)
  let (s, c) ← quotedText double (c.rest.length + 1) c
  return (String.ofList s, c)

end BlockAudit.Yaml.Scan
