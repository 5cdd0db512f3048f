import BlockAudit.Number.Numeral
import BlockAudit.Yaml.Cursor
import BlockAudit.Yaml.Token

namespace BlockAudit.Yaml.Scan

def restOfLine (c : Cursor) : Except Fault Cursor :=
  let c := c.skipSpaces.skipComment
  if isBreakOrEnd c.peek then .ok c.lineBreak.2 else malformed

def directiveName (c : Cursor) : Except Fault (List Char × Cursor) :=
  let (name, c) := c.takeWhile isNameChar
  if name.isEmpty || !isSpaceOrEnd c.peek then malformed else .ok (name, c)

def versionNumber (c : Cursor) : Except Fault (Nat × Cursor) :=
  let (digits, c) := c.takeWhile isDigit
  match Number.natural? 10 digits with
  | some n => .ok (n, c)
  | none => malformed

/-- The major and the minor version, with a point between them; only the major one counts. -/
def version (c : Cursor) : Except Fault (Nat × Cursor) := do
  let (major, c) ← versionNumber c.skipSpaces
  if c.peek ≠ '.' then malformed
  else
    let (_, c) ← versionNumber c.next
    if isSpaceOrEnd c.peek then return (major, c) else malformed

def tagHandle (c : Cursor) : Except Fault (String × Cursor) :=
  if c.peek ≠ '!' then malformed
  else if c.peekAt 1 = ' ' then .ok ("!", c.next)
  else
    let (name, d) := c.next.takeWhile isNameChar
    if d.peek = '!' then .ok (String.ofList ('!' :: name ++ ['!']), d.next) else malformed

def isUriChar (c : Char) : Bool := c.isAlphanum || "-;/?:@&=+$,_.!~*'()[]".toList.contains c

def uriBytes : Nat → Cursor → Except Fault (List UInt8 × Cursor)
  | 0, _ => malformed
  | n + 1, c =>
    if c.peek ≠ '%' then .ok ([], c)
    else if isHexDigit (c.peekAt 1) && isHexDigit (c.peekAt 2) then do
      let b := (Number.natural? 16 [c.peekAt 1, c.peekAt 2]).getD 0
      let (bs, c) ← uriBytes n (c.skip 3)
      return (b.toUInt8 :: bs, c)
    else malformed

def uriEscapes (c : Cursor) : Except Fault (List Char × Cursor) := do
  let (bs, c) ← uriBytes (c.rest.length + 1) c
  match String.fromUTF8? ⟨bs.toArray⟩ with
  | some s => return (s.toList, c)
  | none => malformed

def uriChars : Nat → Cursor → Except Fault (List Char × Cursor)
  | 0, _ => malformed
  | n + 1, c =>
    if c.peek = '%' then do
      let (s, c) ← uriEscapes c
      let (t, c) ← uriChars n c
      return (s ++ t, c)
    else
      match c.takeWhile isUriChar with
      | ([], c) => .ok ([], c)
      | (s, c) => do
        let (t, c) ← uriChars n c
        return (s ++ t, c)

def uri (c : Cursor) : Except Fault (String × Cursor) := do
  if c.peek ≠ '%' && !isUriChar c.peek then malformed
  else
    let (s, c) ← uriChars (c.rest.length + 1) c
    return (String.ofList s, c)

def tagDirective (c : Cursor) : Except Fault (TokenKind × Cursor) := do
  let (handle, c) ← tagHandle c.skipSpaces
  if c.peek ≠ ' ' then malformed
  else
    let (expansion, c) ← uri c.skipSpaces
    if isSpaceOrEnd c.peek then return (.tagDirective handle expansion, c) else malformed

def directive (c : Cursor) : Except Fault (TokenKind × Cursor) := do
  let (name, c) ← directiveName c.next
  let (kind, c) ←
    if name = "YAML".toList then (version c).map fun (major, c) => (.versionDirective major, c)
    else if name = "TAG".toList then tagDirective c
    else .ok (.otherDirective, c.skipWhile fun x => !isBreakOrEnd x)
  let c ← restOfLine c
  return (kind, c)

def anchorName (c : Cursor) : Except Fault (String × Cursor) :=
  let (name, c) := c.next.takeWhile isNameChar
  if name.isEmpty then malformed
  else if isBlankOrEnd c.peek || "?:,]\x7d%@\x60".toList.contains c.peek then
    .ok (String.ofList name, c)
  else malformed

def hasHandle (c : Cursor) : Bool :=
  ((c.next.rest.takeWhile fun x => !isSpaceOrEnd x)).contains '!'

def tagName (c : Cursor) : Except Fault (TagName × Cursor) :=
  let x := c.peekAt 1
  if x = '<' then do
    let (s, c) ← uri (c.skip 2)
    if c.peek = '>' then return (⟨none, s⟩, c.next) else malformed
  else if isBlankOrEnd x then .ok (⟨none, "!"⟩, c.next)
  else if hasHandle c then do
    let (handle, c) ← tagHandle c
    let (suffix, c) ← uri c
    return (⟨some handle, suffix⟩, c)
  else do
    let (suffix, c) ← uri c.next
    return (⟨some "!", suffix⟩, c)

def tag (c : Cursor) : Except Fault (TagName × Cursor) := do
  let (name, c) ← tagName c
  if isSpaceOrEnd c.peek then return (name, c) else malformed

end BlockAudit.Yaml.Scan
