import BlockAudit.FileTree.Basic

namespace BlockAudit.FileTree

def put (t : FileTree) (place : Place) (c : Content) : FileTree :=
  { t with nodes := t.nodes.filter (fun node => node.1 != place) ++ [(place, c)] }

def makeDirectories (t : FileTree) (root : String) : List String → Except Fault FileTree
  | [] => .ok t
  | name :: above =>
    let path : Path := ⟨root, (name :: above).reverse⟩
    match t.reached path with
    | .directory => .ok t
    | .file _ => .error .fileExists
    | .throughFile => .error .notDirectory
    | .missing => do
      let made ← makeDirectories t root above
      return if made.isDirectory path then made else made.put (made.placeOf path) .directory

def write (t : FileTree) (p : Path) (text : String) : Except Fault FileTree := do
  if !p.parent.isValid then throw .malformedPath
  let made ← t.makeDirectories p.root p.parent.parts.reverse
  if !p.isValid then throw .malformedPath
  match made.reached p with
  | .directory => throw .isDirectory
  | .throughFile => throw .notDirectory
  | _ => return made.put (made.placeOf p) (.file text.toUTF8)

end BlockAudit.FileTree
