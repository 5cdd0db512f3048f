import BlockAudit.Fault
import BlockAudit.Value.Equality
import BlockAudit.Value.Text

namespace BlockAudit

/-- The lines are values as they were found; a false first line is an unknown one. -/
structure Location where
  filename : String
  startLine : Value
  endLine : Value

structure Block where
  type : String
  labels : List String
  body : List Entry
  location : Location
  modulePath : List String

structure Module where
  path : String
  blocks : List Block

namespace Location

def text (l : Location) : String :=
  if !l.startLine.truthy then l.filename
  else if l.endLine.truthy && !l.endLine.equal l.startLine then
    s!"{l.filename}:{l.startLine.text}-{l.endLine.text}"
  else s!"{l.filename}:{l.startLine.text}"

def file (filename : String) : Location := ⟨filename, .int 0, .int 0⟩

end Location

def isMarker (key : String) : Bool := ['_', '_'].isPrefixOf key.toList

def lineKey : String := "__line__"

def endLineKey : String := "__end_line__"

namespace Block

def typeLabel? (b : Block) : Option String := b.labels.head?

def nameLabel? (b : Block) : Option String := b.labels.getLast?

def inModule (b : Block) : Bool := !b.modulePath.isEmpty

/-- The address of a resource leaves out the block type. -/
def address (b : Block) : String :=
  let labels := if b.type = "resource" then b.labels else b.type :: b.labels
  String.join (b.modulePath.map fun name => s!"module.{name}.") ++ ".".intercalate labels

def isTyped (b : Block) : Bool := b.type == "resource" || b.type == "data"

def matchesType (name : String) (b : Block) : Bool :=
  if b.isTyped then b.typeLabel? == some name else b.type == name

end Block

namespace Module

def ofType (name : String) (modules : List Module) : List Block :=
  (modules.flatMap blocks).filter (·.matchesType name)

def nth? (modules : List Module) : Int → Option Module
  | .ofNat n => modules[n]?
  | .negSucc n => if n < modules.length then modules[modules.length - (n + 1)]? else none

end Module
end BlockAudit
