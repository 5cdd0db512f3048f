import BlockAudit.Block.Attribute
import BlockAudit.Evaluation.Bindings
import BlockAudit.Evaluation.Comparison
import BlockAudit.MatchSpec.Basic
/-!
Evaluation of a match spec against a block: one walk, depth first and from left to right, that binds
variables on its way.
-/

namespace BlockAudit

/-- What an evaluation leaves behind: bindings, and notices with the latest first. It is kept when
the evaluation ends in a fault. -/
structure Trace where
  bindings : Bindings
  notices : List Notice

abbrev Evaluation := ExceptT Fault (StateM Trace)

namespace Evaluation

def note (n : Notice) : Evaluation Unit :=
  modify fun t => { t with notices := n :: t.notices }

def bind (name : String) (v : Value) : Evaluation Unit :=
  modify fun t => { t with bindings := t.bindings.bind name v }

def bindings : Evaluation Bindings := return (← get).bindings

end Evaluation

namespace MatchSpec

open Evaluation

def assign (name variableName : String) (b : Block) : Evaluation Unit := do
  if !variableName.isEmpty then
    let v ← b.attributeAt name
    if !v.isNull then Evaluation.bind variableName v

end MatchSpec

namespace Presence

def isEmptyValue : Value → Bool
  | .null => true
  | .str s => s.isEmpty
  | .list vs => vs.isEmpty
  | .map es => es.isEmpty
  | _ => false

def holds (p : Presence) (name : String) (b : Block) : Except Fault Bool :=
  match p with
  | present => b.hasChild name
  | absent => (b.hasChild name).map (!·)
  | empty => (b.attributeAt name).map isEmptyValue

end Presence

namespace MatchSpec

open Evaluation

def targets (name : String) (b : Block) : Except Fault (List Block) :=
  (b.childrenNamed name).map fun bs => if bs.isEmpty then [b] else bs

def evaluateComparison (c : Comparison) (name variableName : String) (v : Value) (b : Block) :
    Evaluation Bool := do
  let actual ← b.attributeAt name
  if actual.isNull then return false
  let expected := (← bindings).resolveItems v
  (c.notices actual expected).forM note
  if ← c.holds actual expected then
    assign name variableName b
    return true
  return false

def evaluateTag (name : String) (v : Value) (b : Block) : Evaluation Bool := do
  match ← b.tag? name with
  | none => return false
  | some actual =>
    if v.isNull then return true
    return Comparison.equalTo actual ((← bindings).resolve v)

mutual

def evaluate (modules : List Module) : MatchSpec → Block → Evaluation Bool
  | ⟨action, name, v, predicates, subMatch, preConditions, variableName⟩, b => do
    if ← meets modules preConditions b then
      match action with
      | .and => return (← verdicts modules predicates b).all id
      | .or => return (← verdicts modules predicates b).any id
      | .not => return !(← firstVerdict modules predicates b)
      | .presence p =>
        if ← p.holds name b then
          assign name variableName b
          evaluateSubMatch modules subMatch (targets name b)
        else return false
      | .comparison c => evaluateComparison c name variableName v b
      | .requiresPresence =>
        match Module.ofType name modules with
        | [] =>
          note (.noBlockFound name b.address)
          return false
        | companion :: _ => evaluateSubMatch modules subMatch (.ok [companion])
      | .inModule => return b.inModule
      | .hasTag => evaluateTag name v b
    else return true

def meets (modules : List Module) : List MatchSpec → Block → Evaluation Bool
  | [], _ => return true
  | c :: cs, b => do
    if ← evaluate modules c b then meets modules cs b
    else
      note (.preconditionNotMet c.action b.address)
      return false

def verdicts (modules : List Module) : List MatchSpec → Block → Evaluation (List Bool)
  | [], _ => return []
  | p :: ps, b => do
    let verdict ← evaluate modules p b
    let rest ← verdicts modules ps b
    return verdict :: rest

def firstVerdict (modules : List Module) : List MatchSpec → Block → Evaluation Bool
  | [], _ => return true
  | p :: _, b => evaluate modules p b

def evaluateSubMatch (modules : List Module) :
    Option MatchSpec → Except Fault (List Block) → Evaluation Bool
  | none, _ => return true
  | some spec, targets => do
    let verdicts ← (← targets).mapM fun b => evaluate modules spec b
    return verdicts.all id

end

def run (modules : List Module) (spec : MatchSpec) (b : Block) (start : Bindings) :
    Except Fault Bool × Bindings × List Notice :=
  let (outcome, trace) := (evaluate modules spec b).run.run ⟨start, []⟩
  (outcome, trace.bindings, trace.notices.reverse)

end MatchSpec
end BlockAudit
