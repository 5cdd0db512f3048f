import BlockAudit.Block.Basic
import BlockAudit.Number.Numeral
/-!
The attributes of a block, reached by dotted paths, and the blocks nested in it. Markers are seen by
neither.
-/

namespace BlockAudit

/-- Whether a key is a marker. Only a text has first characters to look at. -/
def markerKey : Value → Except Fault Bool
  | .str s => .ok (isMarker s)
  | .bytes _ => .error .keyOfBytes
  | _ => .error .keyNotText

namespace Value

mutual

def unmarked : Value → Except Fault Value
  | map es => (unmarkedEntries es).map map
  | list vs => (unmarkedItems vs).map list
  | v => .ok v

def unmarkedItems : List Value → Except Fault (List Value)
  | [] => .ok []
  | v :: vs => do
    let w ← unmarked v
    let ws ← unmarkedItems vs
    return w :: ws

def unmarkedEntries : List Entry → Except Fault (List Entry)
  | [] => .ok []
  | (k, v) :: es => do
    if ← markerKey k then unmarkedEntries es
    else
      let w ← unmarked v
      let fs ← unmarkedEntries es
      return (k, w) :: fs

end

def item? (digits : List Char) (vs : List Value) : Except Fault (Option Value) :=
  match Number.natural? 10 digits with
  | some n => .ok vs[n]?
  | none => .error .detachedDigit

def member? (part : List Char) : Value → Option Value
  | map es => if isMarker (String.ofList part) then none else lookup? (String.ofList part) es
  | _ => none

/-- One step of a path. A step by name passes through the first item of a list. -/
def step? (part : List Char) : Value → Except Fault (Option Value)
  | list vs =>
    if Text.isDigits part then item? part vs
    else .ok (vs.head?.bind (member? part))
  | v => .ok (member? part v)

def follow? : List (List Char) → Value → Except Fault (Option Value)
  | [], v => .ok (some v)
  | part :: parts, v => do
    match ← step? part v with
    | some w => follow? parts w
    | none => return none

end Value

namespace Block

def attributeAt (b : Block) (path : String) : Except Fault Value := do
  match ← Value.follow? (Text.fields '.' path.toList) (.map b.body) with
  | some v => v.unmarked
  | none => return .null

def hasAttribute (b : Block) (path : String) : Except Fault Bool :=
  (b.attributeAt path).map (!·.isNull)

def nested (b : Block) (key : String) (body : List Entry) : Block where
  type := key
  labels := []
  body := body
  location :=
    { filename := b.location.filename
      startLine := (Value.lookup? lineKey body).getD b.location.startLine
      endLine := (Value.lookup? endLineKey body).getD b.location.endLine }
  modulePath := b.modulePath

def childrenOf (b : Block) (key : String) (v : Value) : List Block :=
  v.spread.filterMap fun item => item.entries?.map (b.nested key)

def childrenIn (b : Block) (chosen : String → Bool) : List Entry → Except Fault (List Block)
  | [] => .ok []
  | (k, v) :: es => do
    let hidden ← markerKey k
    let rest ← childrenIn b chosen es
    match k.text? with
    | some key => return if !hidden && chosen key then b.childrenOf key v ++ rest else rest
    | none => return rest

def children (b : Block) : Except Fault (List Block) := b.childrenIn (fun _ => true) b.body

def childrenNamed (b : Block) (name : String) : Except Fault (List Block) :=
  b.childrenIn (· == name) b.body

def hasChild (b : Block) (name : String) : Except Fault Bool := do
  if ← b.hasAttribute name then return true
  return !(← b.childrenNamed name).isEmpty

def tagAttributes : List String := ["tags", "tags_all"]

def tagIn (b : Block) (key : String) : List String → Except Fault (Option Value)
  | [] => .ok none
  | name :: names => do
    match (← b.attributeAt name).entries?.bind (Value.lookup? key) with
    | some v => return some v
    | none => tagIn b key names

def tag? (b : Block) (key : String) : Except Fault (Option Value) := b.tagIn key tagAttributes

end Block
end BlockAudit
