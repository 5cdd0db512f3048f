import BlockAudit.Fault
import BlockAudit.FileTree.Path
import BlockAudit.Sorting

namespace BlockAudit

abbrev Place := List String

inductive Content where
  | file (bytes : ByteArray)
  | directory

/-- Relative paths start at the working directory, which is there with those above it. -/
structure FileTree where
  workingDirectory : Place
  nodes : List (Place × Content)

inductive Reached where
  | file (bytes : ByteArray)
  | directory
  | missing
  /-- A part of the path before the last one is a file. -/
  | throughFile

namespace FileTree

def content? (t : FileTree) (place : Place) : Option Content :=
  if place.isPrefixOf t.workingDirectory then some .directory else t.nodes.lookup place

def isDirectoryAt (t : FileTree) (place : Place) : Bool := t.content? place matches some .directory

def step (place : Place) (part : String) : Place :=
  if part = ".." then place.dropLast else place ++ [part]

def start (t : FileTree) (p : Path) : Place := if p.root.isEmpty then t.workingDirectory else []

def walk (t : FileTree) : Place → List String → Reached
  | place, [] =>
    match t.content? place with
    | some (.file bytes) => .file bytes
    | some .directory => .directory
    | none => .missing
  | place, part :: parts =>
    match t.content? place with
    | some (.file _) => .throughFile
    | some .directory => walk t (step place part) parts
    | none => .missing

def reached (t : FileTree) (p : Path) : Reached := t.walk (t.start p) p.parts

def isFile (t : FileTree) (p : Path) : Bool := t.reached p matches .file _

def isDirectory (t : FileTree) (p : Path) : Bool := t.reached p matches .directory

def placeOf (t : FileTree) (p : Path) : Place := p.parts.foldl step (t.start p)

def resolve (t : FileTree) (p : Path) : Except Fault Place :=
  if p.isValid then .ok (t.placeOf p) else .error .malformedPath

def pathTo (place : Place) : Path := ⟨"/", place⟩

def nameIn? (directory place : Place) : Option String :=
  match place.getLast? with
  | some name => if place.dropLast = directory then some name else none
  | none => none

def names (t : FileTree) (directory : Place) : List String :=
  sorted (fun s s' => compare s.toList s'.toList == .lt)
    (t.nodes.filterMap fun (place, _) => nameIn? directory place)

def filesIn (t : FileTree) (directory : Path) (suffixes : List String) : List Path :=
  let names := (t.names (t.placeOf directory)).filter fun name =>
    suffixes.any fun suffix => suffix.toList.isSuffixOf name.toList
  (names.map directory.file).filter t.isFile

def textOf (bytes : ByteArray) : Except Fault (List Char) :=
  match String.fromUTF8? bytes with
  | some s => .ok (Text.unifyLineEnds s.toList)
  | none => .error .notText

/-- The file is decoded as a whole. A reader that decodes it block by block may find fault with its first
blocks before it comes to bytes that are no text. -/
def text? (t : FileTree) (p : Path) : Except Fault (Option (List Char)) :=
  match t.reached p with
  | .file bytes => (textOf bytes).map some
  | .directory => .error .isDirectory
  | _ => .ok none

end FileTree
end BlockAudit
