import BlockAudit.Text.Search
/-!
Paths of files as they are written, without empty parts and without points that stand for the same
directory. Parts that lead back to the directory above are kept.
-/

namespace BlockAudit

structure Path where
  root : String
  parts : List String
deriving DecidableEq

namespace Path

/-- Exactly two strokes at the start are a root of their own. -/
def rootOf : List Char → String
  | ['/', '/'] => "//"
  | '/' :: '/' :: c :: _ => if c = '/' then "/" else "//"
  | '/' :: _ => "/"
  | _ => ""

def ofText (s : String) : Path where
  root := rootOf s.toList
  parts := (Text.fields '/' s.toList).map String.ofList |>.filter fun p => p != "" && p != "."

def text (p : Path) : String :=
  if p.root.isEmpty && p.parts.isEmpty then "." else p.root ++ "/".intercalate p.parts

def join (p q : Path) : Path := if q.root.isEmpty then ⟨p.root, p.parts ++ q.parts⟩ else q

def file (p : Path) (name : String) : Path := ⟨p.root, p.parts ++ [name]⟩

def parent (p : Path) : Path := ⟨p.root, p.parts.dropLast⟩

def isValid (p : Path) : Bool := p.parts.all fun part => !part.toList.contains '\x00'

end Path
end BlockAudit
