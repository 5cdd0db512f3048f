import BlockAudit.Yaml.Node
import BlockAudit.Yaml.Scan.Tokens
/-!
Parsing of tokens into the node of the only document. Aliases are resolved on the way.
-/

namespace BlockAudit.Yaml

inductive Anchored where
  | complete (n : Node)
  | open (mapping : Bool) (number : Nat)

structure ParserState where
  tokens : Tokens
  anchors : List (String × Anchored)
  handles : List (String × String)
  begun : Nat

abbrev Parser := StateT ParserState (Except Fault)

namespace Parser

def fail {α : Type} : Parser α := throw .malformedDocument

def peek : Parser Token := do
  let ts := (← get).tokens
  match ts.list with
  | t :: _ => return t
  | [] => throw (ts.fault.getD .malformedDocument)

def skip : Parser Unit :=
  modify fun st => { st with tokens := { st.tokens with list := st.tokens.list.tail } }

def next : Parser Token := do
  let t ← peek
  skip
  return t

def at? (kinds : List TokenKind) : Parser Bool := return kinds.contains (← peek).kind

def accept (kind : TokenKind) : Parser Bool := do
  if (← peek).kind = kind then
    skip
    return true
  return false

def defaultHandles : List (String × String) := [("!", "!"), ("!!", Tag.commonStem)]

def start (tokens : Tokens) : ParserState := ⟨tokens, [], defaultHandles, 0⟩

def newNumber : Parser Nat := do
  modify fun st => { st with begun := st.begun + 1 }
  return (← get).begun

structure Properties where
  anchor : Option String
  tag : Option TagName
  line : Option Nat

def anchorHere : Parser (Option String) := do
  match (← peek).kind with
  | .anchor name =>
    skip
    return some name
  | _ => return none

def tagHere : Parser (Option TagName) := do
  match (← peek).kind with
  | .tag name =>
    skip
    return some name
  | _ => return none

def properties : Parser Properties := do
  let t ← peek
  match t.kind with
  | .anchor _ =>
    let anchor ← anchorHere
    return ⟨anchor, ← tagHere, some t.startLine⟩
  | .tag _ =>
    let tag ← tagHere
    return ⟨← anchorHere, tag, some t.startLine⟩
  | _ => return ⟨none, none, none⟩

def fullName (t : TagName) : Parser (Option String) := do
  let name ← match t.handle with
    | none => pure t.suffix
    | some handle =>
      match (← get).handles.lookup handle with
      | some expansion => pure (expansion ++ t.suffix)
      | none => fail
  return if name = "!" then none else some name

def writtenTag (p : Properties) : Parser (Option Tag × Bool) := do
  match p.tag with
  | none => return (none, false)
  | some t => return ((← fullName t).map Tag.ofName, true)

def setAnchor (anchor : Option String) (a : Anchored) : Parser Unit :=
  match anchor with
  | none => return ()
  | some name => modify fun st => { st with anchors := (name, a) :: st.anchors }

def checkAnchor (anchor : Option String) : Parser Unit := do
  match anchor with
  | none => return ()
  | some name => if ((← get).anchors.lookup name).isSome then fail

def aliased (name : String) : Parser Node := do
  match (← get).anchors.lookup name with
  | some (.complete n) => return n
  | some (.open mapping number) => return .cycle mapping number
  | none => fail

def scalarTag (tag : Option Tag) (looks : Bool) (text : String) : Tag :=
  match tag with
  | some t => t
  | none => if looks then Look.tag text else .str

inductive Layout where
  | flowSequence
  | flowMapping
  | blockSequence
  | blockMapping
  | indentless

def Layout.isMapping : Layout → Bool
  | flowMapping => true
  | blockMapping => true
  | _ => false

def layout? (block indentless : Bool) : TokenKind → Option Layout
  | .flowSequenceStart => some .flowSequence
  | .flowMappingStart => some .flowMapping
  | .blockSequenceStart => if block then some .blockSequence else none
  | .blockMappingStart => if block then some .blockMapping else none
  | .blockEntry => if indentless then some .indentless else none
  | _ => none

inductive Contents where
  | items (ns : List Node) (endLine : Nat)
  | entries (es : List (Node × Node)) (endLine : Nat)

def Contents.node (number : Nat) (tag : Option Tag) (startLine : Nat) : Contents → Node
  | items ns _ => .sequence number (tag.getD .seq) ns
  | entries es endLine => .mapping number (tag.getD .map) es startLine endLine

mutual

/-- A node; `block` and `indentless` tell which collections may start here. -/
def node : Nat → Bool → Bool → Parser Node
  | 0, _, _ => fail
  | fuel + 1, block, indentless => do
    match (← peek).kind with
    | .reference name =>
      skip
      aliased name
    | _ =>
      let p ← properties
      let (tag, written) ← writtenTag p
      let t ← peek
      let startLine := p.line.getD t.startLine
      match t.kind, layout? block indentless t.kind with
      | .scalar text plain, _ =>
        checkAnchor p.anchor
        skip
        let n := Node.scalar (← newNumber) (scalarTag tag (plain || written) text) text
        setAnchor p.anchor (.complete n)
        return n
      | _, some layout =>
        checkAnchor p.anchor
        let number ← newNumber
        setAnchor p.anchor (.open layout.isMapping number)
        let n := (← contents fuel layout).node number tag startLine
        setAnchor p.anchor (.complete n)
        return n
      | _, none =>
        if p.line.isNone then fail
        else
          checkAnchor p.anchor
          let n := Node.scalar (← newNumber) (scalarTag tag true "") ""
          setAnchor p.anchor (.complete n)
          return n

def contents : Nat → Layout → Parser Contents
  | 0, _ => fail
  | fuel + 1, layout => do
    match layout with
    | .flowSequence =>
      skip
      flowItems fuel true
    | .flowMapping =>
      skip
      flowEntries fuel true
    | .blockSequence =>
      skip
      blockItems fuel
    | .blockMapping =>
      skip
      blockEntries fuel
    | .indentless => indentlessItems fuel

def nodeUnless (fuel : Nat) (ends : List TokenKind) (block indentless : Bool) : Parser Node :=
  match fuel with
  | 0 => fail
  | fuel + 1 => do
    if ← at? ends then return .empty
    node fuel block indentless

def blockItems : Nat → Parser Contents
  | 0 => fail
  | fuel + 1 => do
    if ← accept .blockEntry then
      let n ← nodeUnless fuel [.blockEntry, .blockEnd] true false
      match ← blockItems fuel with
      | .items ns line => return .items (n :: ns) line
      | .entries _ _ => fail
    else
      let t ← next
      if t.kind = .blockEnd then return .items [] t.endLine
      fail

def indentlessItems : Nat → Parser Contents
  | 0 => fail
  | fuel + 1 => do
    if ← accept .blockEntry then
      let n ← nodeUnless fuel [.blockEntry, .key, .value, .blockEnd] true false
      match ← indentlessItems fuel with
      | .items ns line => return .items (n :: ns) line
      | .entries _ _ => fail
    else return .items [] (← peek).startLine

def blockEntries : Nat → Parser Contents
  | 0 => fail
  | fuel + 1 => do
    let ends : List TokenKind := [.key, .value, .blockEnd]
    if ← accept .key then
      let k ← nodeUnless fuel ends true true
      let v ← if ← accept .value then nodeUnless fuel ends true true else pure .empty
      match ← blockEntries fuel with
      | .entries es line => return .entries ((k, v) :: es) line
      | .items _ _ => fail
    else
      let t ← next
      if t.kind = .blockEnd then return .entries [] t.endLine
      fail

def flowItems : Nat → Bool → Parser Contents
  | 0, _ => fail
  | fuel + 1, isFirst => do
    let t ← peek
    if t.kind = .flowSequenceEnd then
      skip
      return .items [] t.endLine
    if !isFirst then
      if !(← accept .flowEntry) then fail
    let t ← peek
    if t.kind = .flowSequenceEnd then
      skip
      return .items [] t.endLine
    let n ← if t.kind = .key then singleEntry fuel else node fuel false false
    match ← flowItems fuel false with
    | .items ns line => return .items (n :: ns) line
    | .entries _ _ => fail

def singleEntry : Nat → Parser Node
  | 0 => fail
  | fuel + 1 => do
    let t ← next
    let number ← newNumber
    let k ← nodeUnless fuel [.value, .flowEntry, .flowSequenceEnd] false false
    let v ← if ← accept .value then
        nodeUnless fuel [.flowEntry, .flowSequenceEnd] false false
      else pure .empty
    return .mapping number .map [(k, v)] t.startLine (← peek).startLine

/-- Entries up to the brace. A key may stand without a value, and without a sign before it. -/
def flowEntries : Nat → Bool → Parser Contents
  | 0, _ => fail
  | fuel + 1, isFirst => do
    let t ← peek
    if t.kind = .flowMappingEnd then
      skip
      return .entries [] t.endLine
    if !isFirst then
      if !(← accept .flowEntry) then fail
    let t ← peek
    if t.kind = .flowMappingEnd then
      skip
      return .entries [] t.endLine
    let entry ← flowEntryHere fuel
    match ← flowEntries fuel false with
    | .entries es line => return .entries (entry :: es) line
    | .items _ _ => fail

def flowEntryHere : Nat → Parser (Node × Node)
  | 0 => fail
  | fuel + 1 => do
    let ends : List TokenKind := [.flowEntry, .flowMappingEnd]
    if ← accept .key then
      let k ← nodeUnless fuel (.value :: ends) false false
      let v ← if ← accept .value then nodeUnless fuel ends false false else pure .empty
      return (k, v)
    else
      let k ← node fuel false false
      return (k, .empty)

end

def directives : Nat → Bool → Parser Unit
  | 0, _ => fail
  | fuel + 1, versioned => do
    match (← peek).kind with
    | .versionDirective major =>
      if versioned || major ≠ 1 then fail
      skip
      directives fuel true
    | .tagDirective handle expansion =>
      if ((← get).handles.lookup handle).isSome then fail
      skip
      modify fun st => { st with handles := (handle, expansion) :: st.handles }
      directives fuel versioned
    | .otherDirective =>
      skip
      directives fuel versioned
    | _ => return ()

def explicitStart (fuel : Nat) : Parser Unit := do
  modify fun st => { st with handles := [] }
  directives fuel false
  modify fun st => { st with handles := st.handles ++ defaultHandles }
  if !(← accept .documentStart) then fail

def skipDocumentEnds : Nat → Parser Unit
  | 0 => fail
  | fuel + 1 => do
    if ← accept .documentEnd then skipDocumentEnds fuel

/-- What follows the document is read up to where the next one starts, if one does. -/
def endOfStream (fuel : Nat) : Parser Unit := do
  skipDocumentEnds fuel
  if !(← at? [.streamEnd]) then
    explicitStart fuel
    fail

def isDirective : TokenKind → Bool
  | .versionDirective _ => true
  | .tagDirective _ _ => true
  | .otherDirective => true
  | _ => false

def document (fuel : Nat) : Parser (Option Node) := do
  let t ← peek
  if t.kind = .streamEnd then return none
  let explicit := isDirective t.kind || t.kind = .documentStart
  if explicit then explicitStart fuel
  let t ← peek
  let absent := explicit &&
    (isDirective t.kind || [.documentStart, .documentEnd, .streamEnd].contains t.kind)
  let root ← if absent then pure .empty else node fuel true false
  endOfStream fuel
  return some root

end Parser

def rootOf (s : List Char) : Except Fault (Option Node) :=
  let tokens := tokensOf s
  ((Parser.document (4 * tokens.list.length + 8)).run (Parser.start tokens)).map (·.1)

end BlockAudit.Yaml
