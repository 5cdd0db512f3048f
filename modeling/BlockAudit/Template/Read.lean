import BlockAudit.FileTree.Basic
import BlockAudit.Journal
import BlockAudit.Json.Read
import BlockAudit.Template.Basic
import BlockAudit.Yaml.Read

namespace BlockAudit.Template

/-- A text is read as YAML if it can be, with the lines of its mappings, else as JSON. -/
def readDocument (path : String) (s : List Char) : Except Failure Value :=
  match Yaml.read true s with
  | .ok v => .ok v
  | .error .malformedDocument =>
    match Json.read? s with
    | some v => .ok v
    | none => .error (.config (.malformedTemplate path "neither YAML nor JSON"))
  | .error f => .error (.fault f)

def read (path : String) (s : List Char) : Except Failure (Option (List Entry)) := do
  match ← readDocument path s with
  | .null => return none
  | .map es => return some es
  | _ => throw (.config (.templateNotMapping path))

def ofFile (t : FileTree) (p : Path) : Except Failure (Option (List Entry)) :=
  match t.text? p with
  | .ok (some s) => read p.text s
  | .ok none => .ok none
  | .error f => .error (.fault f)

def blocksOfFile (t : FileTree) (modulePath : List String) (p : Path) : Run (List Block) := do
  match ← ofFile t p with
  | none => return []
  | some es =>
    match blocks p.text modulePath es with
    | .ok bs =>
      (notices p.text es).forM Run.note
      return bs
    | .error f => throw (.fault f)

end BlockAudit.Template
