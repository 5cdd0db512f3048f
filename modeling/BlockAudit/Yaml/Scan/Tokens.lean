import BlockAudit.Yaml.Scan.Block
import BlockAudit.Yaml.Scan.Plain
import BlockAudit.Yaml.Scan.Quoted
/-!
Scanning of a document into tokens. A scalar turns out to be a key when a colon follows it; the
tokens that announce the key are then put before it.
-/

namespace BlockAudit.Yaml

/-- A place where a key may have started: the number of its first token, and where it stands. It is
required where nothing but a key can stand. -/
structure KeyPlace where
  number : Nat
  required : Bool
  index : Nat
  line : Nat
  column : Nat

/-- `tokens` holds the latest token first. Places of keys are kept for each level of brackets. -/
structure Scanner where
  cursor : Cursor
  tokens : List Token
  flowLevel : Nat
  indent : Int
  indents : List Int
  keyAllowed : Bool
  keys : List (Nat × KeyPlace)

abbrev Scan := StateT Scanner (Except Fault)

namespace Scan

def fail {α : Type} : Scan α := throw .malformedDocument

def cursor : Scan Cursor := return (← get).cursor

def moveTo (c : Cursor) : Scan Unit := modify fun st => { st with cursor := c }

def inFlow : Scan Bool := return (← get).flowLevel != 0

def allowKey (allowed : Bool) : Scan Unit := modify fun st => { st with keyAllowed := allowed }

def emit (t : Token) : Scan Unit := modify fun st => { st with tokens := t :: st.tokens }

def mark (kind : TokenKind) : Scan Unit := do
  let c ← cursor
  emit ⟨kind, c.line, c.line⟩

def emitTo (kind : TokenKind) (c : Cursor) : Scan Unit := do
  let start ← cursor
  emit ⟨kind, start.line, c.line⟩
  moveTo c

def insertAt (number : Nat) (t : Token) : Scan Unit :=
  modify fun st =>
    let later := st.tokens.length - number
    { st with tokens := st.tokens.take later ++ t :: st.tokens.drop later }

def isStale (c : Cursor) (k : KeyPlace) : Bool := k.line != c.line || c.index - k.index > 1024

def dropStaleKeys : Scan Unit := do
  let st ← get
  let (stale, fresh) := st.keys.partition fun k => isStale st.cursor k.2
  if stale.any (·.2.required) then fail
  set { st with keys := fresh }

def dropKey : Scan Unit := do
  let st ← get
  let (here, others) := st.keys.partition fun k => k.1 == st.flowLevel
  if here.any (·.2.required) then fail
  set { st with keys := others }

def saveKey : Scan Unit := do
  let st ← get
  if st.keyAllowed then
    dropKey
    let c := st.cursor
    let required := st.flowLevel == 0 && st.indent == (c.column : Int)
    let place : KeyPlace := ⟨st.tokens.length, required, c.index, c.line, c.column⟩
    modify fun st => { st with keys := (st.flowLevel, place) :: st.keys }

def unwind (column : Int) : List Int → Scan Unit
  | [] => return ()
  | outer :: rest => do
    let st ← get
    if column < st.indent then
      mark .blockEnd
      modify fun st => { st with indent := outer, indents := rest }
      unwind column rest

def unwindTo (column : Int) : Scan Unit := do
  if !(← inFlow) then unwind column (← get).indents

def deepen (column : Int) : Scan Bool := do
  let st ← get
  if st.indent < column then
    set { st with indent := column, indents := st.indent :: st.indents }
    return true
  return false

def streamEnd : Scan Unit := do
  unwindTo (-1)
  dropKey
  allowKey false
  mark .streamEnd

def directiveLine : Scan Unit := do
  unwindTo (-1)
  dropKey
  allowKey false
  let (kind, c) ← directive (← cursor)
  emitTo kind c

def documentMark (kind : TokenKind) : Scan Unit := do
  unwindTo (-1)
  dropKey
  allowKey false
  emitTo kind ((← cursor).skip 3)

def openFlow (kind : TokenKind) : Scan Unit := do
  saveKey
  modify fun st => { st with flowLevel := st.flowLevel + 1 }
  allowKey true
  emitTo kind (← cursor).next

def closeFlow (kind : TokenKind) : Scan Unit := do
  dropKey
  modify fun st => { st with flowLevel := st.flowLevel - 1 }
  allowKey false
  emitTo kind (← cursor).next

def flowEntry : Scan Unit := do
  allowKey true
  dropKey
  emitTo .flowEntry (← cursor).next

def startEntry (collection : TokenKind) : Scan Unit := do
  if !(← inFlow) then
    if !(← get).keyAllowed then fail
    if ← deepen (← cursor).column then mark collection

def blockEntry : Scan Unit := do
  startEntry .blockSequenceStart
  allowKey true
  dropKey
  emitTo .blockEntry (← cursor).next

def explicitKey : Scan Unit := do
  startEntry .blockMappingStart
  allowKey !(← inFlow)
  dropKey
  emitTo .key (← cursor).next

def announceKey (k : KeyPlace) : Scan Unit := do
  insertAt k.number ⟨.key, k.line, k.line⟩
  if !(← inFlow) then
    if ← deepen k.column then insertAt k.number ⟨.blockMappingStart, k.line, k.line⟩

def keyHere : Scan (Option KeyPlace) := do
  let st ← get
  let (here, others) := st.keys.partition fun k => k.1 == st.flowLevel
  set { st with keys := others }
  return here.head?.map (·.2)

def beforeValue : Option KeyPlace → Scan Unit
  | some k => do
    announceKey k
    allowKey false
  | none => do
    startEntry .blockMappingStart
    allowKey !(← inFlow)
    dropKey

def value : Scan Unit := do
  beforeValue (← keyHere)
  emitTo .value (← cursor).next

def maybeKey (scan : Cursor → Except Fault (TokenKind × Cursor)) : Scan Unit := do
  saveKey
  allowKey false
  let (kind, c) ← scan (← cursor)
  emitTo kind c

def blockScalar : Scan Unit := do
  allowKey true
  dropKey
  let (text, c) ← block (← get).indent (← cursor)
  emitTo (.scalar text false) c

def plainScalar : Scan Unit := do
  saveKey
  let start ← cursor
  let p := plain (← inFlow) (← get).indent start
  allowKey p.broken
  emit ⟨.scalar (String.ofList p.text) true, start.line, p.endLine⟩
  moveTo p.cursor

/-- Passes over space, comments and line breaks. A line break outside of brackets allows a key. -/
def skipToToken : Nat → Scan Unit
  | 0 => return ()
  | n + 1 => do
    let c := (← cursor).skipSpaces.skipComment
    match c.lineBreak with
    | ([], c) => moveTo c
    | (_, c) =>
      moveTo c
      if !(← inFlow) then allowKey true
      skipToToken n

def skipByteOrderMark : Scan Unit := do
  let c ← cursor
  if c.index = 0 && c.peek = '\uFEFF' then moveTo c.next

def canStartPlain (inFlow : Bool) (c : Cursor) : Bool :=
  let x := c.peek
  !(isBlankOrEnd x || "-?:,[]\x7b\x7d#&*!|>'\"%@\x60".toList.contains x) ||
    (!isBlankOrEnd (c.peekAt 1) && (x == '-' || (!inFlow && (x == '?' || x == ':'))))

def tokenAt (flow : Bool) (c : Cursor) : Scan Unit :=
  let wordEnds := isBlankOrEnd (c.peekAt 1)
  match c.peek with
  | '[' => openFlow .flowSequenceStart
  | '\x7b' => openFlow .flowMappingStart
  | ']' => closeFlow .flowSequenceEnd
  | '\x7d' => closeFlow .flowMappingEnd
  | ',' => flowEntry
  | '*' => maybeKey fun c => (anchorName c).map fun (s, c) => (.reference s, c)
  | '&' => maybeKey fun c => (anchorName c).map fun (s, c) => (.anchor s, c)
  | '!' => maybeKey fun c => (tag c).map fun (t, c) => (.tag t, c)
  | '\'' => maybeKey fun c => (quoted c).map fun (s, c) => (.scalar s false, c)
  | '"' => maybeKey fun c => (quoted c).map fun (s, c) => (.scalar s false, c)
  | x =>
    if x = '-' && wordEnds then blockEntry
    else if x = '?' && (flow || wordEnds) then explicitKey
    else if x = ':' && (flow || wordEnds) then value
    else if (x = '|' || x = '>') && !flow then blockScalar
    else if canStartPlain flow c then plainScalar
    else fail

def token : Scan Unit := do tokenAt (← inFlow) (← cursor)

def approach : Scan Unit := do
  skipByteOrderMark
  skipToToken ((← cursor).rest.length + 1)
  dropStaleKeys
  unwindTo (← cursor).column

def tokenOrEnd : Scan Bool := do
  let c ← cursor
  if c.rest.isEmpty then
    streamEnd
    return true
  if c.column = 0 && c.peek = '%' then directiveLine
  else if c.column = 0 && c.startsWith ['-', '-', '-'] && c.isSeparator then
    documentMark .documentStart
  else if c.column = 0 && c.isSeparator then documentMark .documentEnd
  else token
  return false

def step : Scan Bool := do
  approach
  tokenOrEnd

end Scan

namespace Scanner

def start (s : List Char) : Scanner := ⟨.start s, [], 0, -1, [], true, []⟩

/-- The tokens that are certain: no key may still be announced before one of them. -/
def certain (st : Scanner) : List Token :=
  let places := st.keys.filter fun k => !Scan.isStale st.cursor k.2
  st.tokens.reverse.take ((places.map (·.2.number)).foldl min st.tokens.length)

/-- Of a scan that fails, a parser sees the tokens that were certain before the step that fails. -/
def run : Nat → Scanner → Tokens
  | 0, st => ⟨st.certain, some .malformedDocument⟩
  | n + 1, st =>
    match Scan.step.run st with
    | .ok (true, st) => ⟨st.tokens.reverse, none⟩
    | .ok (false, st) => run n st
    | .error f => ⟨st.certain, some f⟩

end Scanner

/-- Every token but the last one takes at least one character. -/
def tokensOf (s : List Char) : Tokens := (Scanner.start s).run (s.length + 2)

end BlockAudit.Yaml
