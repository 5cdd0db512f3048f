import BlockAudit.Yaml.Scan.Name

namespace BlockAudit.Yaml.Scan

inductive Chomping where
  | strip
  | clip
  | keep
deriving DecidableEq

def chomping? : Char → Option Chomping
  | '+' => some .keep
  | '-' => some .strip
  | _ => none

def indentation (c : Cursor) : Except Fault (Option Nat × Cursor) :=
  if isDigit c.peek then
    if c.peek = '0' then malformed else .ok (some (c.peek.toNat - 48), c.next)
  else .ok (none, c)

def blockHeader (c : Cursor) : Except Fault (Chomping × Option Nat × Cursor) := do
  let (chomping, indent, c) ←
    match chomping? c.peek with
    | some chomping => do
      let (indent, c) ← indentation c.next
      pure (chomping, indent, c)
    | none => do
      let (indent, c) ← indentation c
      match indent, chomping? c.peek with
      | some _, some chomping => pure (chomping, indent, c.next)
      | _, _ => pure (.clip, indent, c)
  if !isSpaceOrEnd c.peek then malformed
  else
    let c ← restOfLine c
    return (chomping, indent, c)

def leadingBreaks : Nat → Nat → Cursor → List Char × Nat × Cursor
  | 0, deepest, c => ([], deepest, c)
  | n + 1, deepest, c =>
    if c.peek = ' ' then leadingBreaks n (max deepest c.next.column) c.next
    else match c.lineBreak with
      | ([], c) => ([], deepest, c)
      | (s, c) =>
        let (t, deepest, c) := leadingBreaks n deepest c
        (s ++ t, deepest, c)

def skipIndent (indent : Nat) (c : Cursor) : Cursor :=
  c.skip (min (indent - c.column) (c.rest.takeWhile (· == ' ')).length)

def blockBreaks (indent : Nat) : Nat → Cursor → List Char × Cursor
  | 0, c => ([], c)
  | n + 1, c =>
    let c := skipIndent indent c
    match c.lineBreak with
    | ([], c) => ([], c)
    | (s, c) =>
      let (t, c) := blockBreaks indent n c
      (s ++ t, c)

/-- The break between two lines. In folded text a single line feed between lines that start with
text is a space, and of several the first one is lost. -/
def lineJoint (folded startsWithText : Bool) (next : Char) (line breaks : List Char) : List Char :=
  if folded && line == ['\n'] && startsWithText && !isSpaceOrTab next then
    if breaks.isEmpty then [' '] else []
  else line

def blockLines (folded : Bool) (chomping : Chomping) (indent : Nat) :
    Nat → List Char → Cursor → List Char × Cursor
  | 0, breaks, c => (breaks, c)
  | n + 1, breaks, c =>
    let startsWithText := !isSpaceOrTab c.peek
    let (text, c) := c.takeWhile fun x => !isBreakOrEnd x
    let (line, c) := c.lineBreak
    let (after, c) := blockBreaks indent (c.rest.length + 1) c
    if c.column = indent && c.peek ≠ '\x00' then
      let joint := lineJoint folded startsWithText c.peek line after
      let (rest, c) := blockLines folded chomping indent n after c
      (breaks ++ text ++ joint ++ rest, c)
    else
      let tail := match chomping with
        | .strip => []
        | .clip => line
        | .keep => line ++ after
      (breaks ++ text ++ tail, c)

/-- A block scalar in a collection that is indented by `outer`, -1 at the top. -/
def block (outer : Int) (c : Cursor) : Except Fault (String × Cursor) := do
  let folded := c.peek == '>'
  let (chomping, increment, c) ← blockHeader c.next
  let least := max (outer + 1).toNat 1
  let fuel := c.rest.length + 1
  let (breaks, indent, c) := match increment with
    | some n =>
      let indent := least + n - 1
      let (breaks, c) := blockBreaks indent fuel c
      (breaks, indent, c)
    | none =>
      let (breaks, deepest, c) := leadingBreaks fuel 0 c
      (breaks, max least deepest, c)
  if c.column = indent && c.peek ≠ '\x00' then
    let (s, c) := blockLines folded chomping indent fuel breaks c
    return (String.ofList s, c)
  return (String.ofList (if chomping = .keep then breaks else []), c)

end BlockAudit.Yaml.Scan
