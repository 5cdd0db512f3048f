import BlockAudit.Failure
import BlockAudit.Notice

namespace BlockAudit

/-- The latest notices and lines come first. -/
structure Journal where
  notices : List Notice
  output : List String

abbrev Run := ExceptT Failure (StateM Journal)

namespace Run

def note (n : Notice) : Run Unit := modify fun j => { j with notices := n :: j.notices }

def ofFault {α : Type} : Except Fault α → Run α
  | .ok a => return a
  | .error f => throw (.fault f)

def print (line : String) : Run Unit := modify fun j => { j with output := line :: j.output }

def start {α : Type} (r : Run α) : Except Failure α × List Notice × List String :=
  let (outcome, journal) := StateT.run (m := Id) (ExceptT.run r) ⟨[], []⟩
  (outcome, journal.notices.reverse, journal.output.reverse)

end Run
end BlockAudit
