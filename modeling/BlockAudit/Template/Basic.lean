import BlockAudit.Block.Attribute
import BlockAudit.Notice
/-!
Templates: documents that declare blocks. The top-level keys are block types; below them come as many
levels of labels as the type has, and the bodies. At each level mappings may be collected in lists.
-/

namespace BlockAudit.Template

def labelCount? : String → Option Nat
  | "resource" => some 2
  | "data" => some 2
  | "module" => some 1
  | "variable" => some 1
  | "output" => some 1
  | "provider" => some 1
  | "locals" => some 0
  | "terraform" => some 0
  | _ => none

structure Labelled where
  labels : List String
  body : List Entry

def bodies (labels : List String) (content : Value) : List Labelled :=
  content.spread.filterMap fun v => v.entries?.map (⟨labels, ·⟩)

mutual

def labelled (count : Nat) (labels : List String) : Value → Except Fault (List Labelled)
  | .list vs =>
    if count = 0 then .ok (bodies labels (.list vs)) else labelledItems count labels vs
  | .map es =>
    if count = 0 then .ok (bodies labels (.map es)) else labelledEntries count labels es
  | _ => .ok []

def labelledItems (count : Nat) (labels : List String) :
    List Value → Except Fault (List Labelled)
  | [] => .ok []
  | v :: vs => do
    let found ← labelled count labels v
    let rest ← labelledItems count labels vs
    return found ++ rest

def labelledEntries (count : Nat) (labels : List String) :
    List Entry → Except Fault (List Labelled)
  | [] => .ok []
  | (k, v) :: es => do
    if ← markerKey k then labelledEntries count labels es
    else
      let found ← labelled (count - 1) (labels ++ [k.text]) v
      let rest ← labelledEntries count labels es
      return found ++ rest

end

def block (filename : String) (modulePath : List String) (type : String) (l : Labelled) :
    Block where
  type := type
  labels := l.labels
  body := l.body
  location :=
    { filename := filename
      startLine := (Value.lookup? lineKey l.body).getD (.int 0)
      endLine := (Value.lookup? endLineKey l.body).getD (.int 0) }
  modulePath := modulePath

def blocksOfType (filename : String) (modulePath : List String) (type : String) (content : Value) :
    Except Fault (List Block) :=
  match labelCount? type with
  | some count => (labelled count [] content).map (·.map (block filename modulePath type))
  | none => .ok []

def blocks (filename : String) (modulePath : List String) :
    List Entry → Except Fault (List Block)
  | [] => .ok []
  | (k, v) :: es => do
    if ← markerKey k then blocks filename modulePath es
    else
      let found ← blocksOfType filename modulePath k.text v
      let rest ← blocks filename modulePath es
      return found ++ rest

def notices (filename : String) (es : List Entry) : List Notice :=
  es.filterMap fun (k, _) =>
    match k.text? with
    | some key =>
      if isMarker key || (labelCount? key).isSome then none
      else some (.unknownKey key filename)
    | none => none

end BlockAudit.Template
