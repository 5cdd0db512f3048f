import BlockAudit.Yaml.Cursor

namespace BlockAudit.Yaml.Scan

def isFlowIndicator (c : Char) : Bool :=
  c == ',' || c == '[' || c == ']' || c == '\x7b' || c == '\x7d'

/-- A colon ends a plain scalar before a space, and before an indicator inside brackets. -/
def isValueColon (inFlow : Bool) (next : Char) : Bool :=
  isBlankOrEnd next || (inFlow && isFlowIndicator next)

def plainWord (inFlow : Bool) : List Char → List Char
  | [] => []
  | x :: s =>
    if isBlankOrEnd x || (x == ':' && isValueColon inFlow (s.head?.getD '\x00')) ||
        (inFlow && (x == '?' || isFlowIndicator x)) then []
    else x :: plainWord inFlow s

/-- Line breaks of empty lines, or nothing if a mark between documents is met at a line's start. -/
def plainBreaks : Nat → Cursor → Option (List Char) × Cursor
  | 0, c => (none, c)
  | n + 1, c =>
    let c := c.skipSpaces
    match c.lineBreak with
    | ([], c) => (some [], c)
    | (s, c) =>
      if c.isSeparator then (none, c)
      else
        let (t, c) := plainBreaks n c
        (t.map (s ++ ·), c)

structure Gap where
  text : List Char
  broken : Bool
  cursor : Cursor

/-- The spaces before another word on the line, or a folded line break. An empty gap ends the
scalar. -/
def gap (c : Cursor) : Gap :=
  let (space, c) := c.takeWhile (· == ' ')
  match c.lineBreak with
  | ([], c) => ⟨space, false, c⟩
  | (line, c) =>
    if c.isSeparator then ⟨[], true, c⟩
    else
      match plainBreaks (c.rest.length + 1) c with
      | (none, c) => ⟨[], true, c⟩
      | (some breaks, c) =>
        let text := if line ≠ ['\n'] then line ++ breaks
          else if breaks.isEmpty then [' '] else breaks
        ⟨text, true, c⟩

structure Plain where
  text : List Char
  endLine : Nat
  cursor : Cursor
  broken : Bool

def plainWords (inFlow : Bool) (indent : Nat) : Nat → List Char → Plain → Plain
  | 0, _, p => p
  | n + 1, before, p =>
    let c := p.cursor
    if c.peek = '#' then p
    else
      match plainWord inFlow c.rest with
      | [] => p
      | word =>
        let c := c.skip word.length
        let g := gap c
        let q : Plain := ⟨p.text ++ before ++ word, c.line, g.cursor, g.broken⟩
        if g.text.isEmpty || g.cursor.peek = '#' || (!inFlow && g.cursor.column < indent) then q
        else plainWords inFlow indent n g.text q

def plain (inFlow : Bool) (outer : Int) (c : Cursor) : Plain :=
  plainWords inFlow (outer + 1).toNat (c.rest.length + 1) [] ⟨[], c.line, c, false⟩

end BlockAudit.Yaml.Scan
