import BlockAudit.Block.Basic
import BlockAudit.Yaml.Merge
import BlockAudit.Yaml.Scalar
/-!
The values that nodes mean. Where lines are tracked, every mapping also holds the lines where it starts
and ends.

A collection is there before its parts, which are completed level by level; but the parts of a mapping whose
lines are tracked are completed at once. The order matters for nodes with aliases: a key is the default key
of its mapping only as long as no mapping that it is a key of has been completed or merged.
-/

namespace BlockAudit.Yaml

/-- What has been done for the nodes met so far. A mapping is merged when it is completed, or with the
mapping that it is merged into. The latest ones come first. -/
structure Progress where
  scalars : List (Node × Value)
  collections : List Node
  waiting : List Node
  merged : List Node

abbrev Completion := StateT Progress (Except Fault)

namespace Progress

def start : Progress := ⟨[], [], [], []⟩

def isText (st : Progress) (k : Node) : Bool := st.merged.any fun m => m.keys.contains k

def tagOf (st : Progress) (n : Node) : Tag :=
  if n.tag = .value && st.isText n then .str else n.tag

def knows (st : Progress) (n : Node) : Bool :=
  st.collections.contains n || (st.scalars.lookup n).isSome

def isBegun (st : Progress) (number : Nat) : Bool := st.collections.any (·.number == number)

end Progress

namespace Node

/-- The text of a scalar; a mapping has the one under its default key. -/
def defaultText? (isText : Node → Bool) : Node → Option String
  | scalar _ _ text => some text
  | mapping _ _ entries _ _ => ofEntries entries
  | _ => none
where
  ofEntries : List (Node × Node) → Option String
    | [] => none
    | (k, v) :: es => if k.tag = .value && !isText k then v.defaultText? isText else ofEntries es

def scalarMeaning (isText : Node → Bool) (tag : Tag) (n : Node) : Except Fault Value :=
  match n.defaultText? isText, n with
  | none, _ => .error .malformedDocument
  | some text, scalar _ _ _ => (Scalar.value? tag text).getD (.error .malformedDocument)
  | some text, _ =>
    if tag = .timestamp then .error .momentOfCollection
    else (Scalar.value? tag text).getD (.error .malformedDocument)

/-- What is done to complete a collection, in order: parts are met; those that are keys have to be scalars;
a mapping that stands for a pair has to have one entry. -/
inductive Step where
  | part (n : Node)
  | key (n : Node)
  | pair (m : Node)

def pairSteps (m : Node) : List Step :=
  .pair m :: (m.entries?.getD []).flatMap fun e => [.part e.1, .part e.2]

def steps : Node → List Step
  | sequence _ .seq items => items.map .part
  | sequence _ .omap items => items.flatMap pairSteps
  | sequence _ .pairs items => items.flatMap pairSteps
  | mapping i .map es j l =>
    ((mapping i .map es j l).entries?.getD []).flatMap fun e => [.key e.1, .part e.2]
  | mapping i .set es j l =>
    ((mapping i .set es j l).entries?.getD []).flatMap fun e => [.key e.1, .part e.2]
  | _ => []

namespace Step

def node : Step → Node
  | part n => n
  | key n => n
  | pair m => m

def isMeeting : Step → Bool
  | pair _ => false
  | _ => true

end Step

def isBuilt : Node → Bool
  | mapping _ .map _ _ _ => true
  | mapping _ .set _ _ _ => true
  | _ => false

theorem mem_entrySteps {m : Node} {f g : Node → Step} {s : Step}
    (h : s ∈ (m.entries?.getD []).flatMap fun e => [f e.1, g e.2]) :
    ∃ es, m.entries? = some es ∧ ∃ e ∈ es, s = f e.1 ∨ s = g e.2 := by
  cases hes : m.entries? with
  | none =>
    rw [hes] at h
    cases h
  | some es =>
    rw [hes] at h
    obtain ⟨e, he, hs⟩ := List.mem_flatMap.mp h
    exact ⟨es, rfl, e, he, by simpa using hs⟩

theorem mem_pairSteps {m : Node} {s : Step} (h : s ∈ pairSteps m) :
    s = .pair m ∨ ∃ es, m.entries? = some es ∧ ∃ e ∈ es, s = .part e.1 ∨ s = .part e.2 := by
  rcases List.mem_cons.mp h with rfl | h
  · exact Or.inl rfl
  · exact Or.inr (mem_entrySteps h)

theorem steps_cases {n : Node} {s : Step} (h : s ∈ n.steps) :
    (∃ i ns, n = sequence i .seq ns ∧ ∃ c ∈ ns, s = .part c) ∨
    (∃ i t ns, n = sequence i t ns ∧ (t = .omap ∨ t = .pairs) ∧ ∃ m ∈ ns, s ∈ pairSteps m) ∨
    (n.isBuilt = true ∧ ∃ es, n.entries? = some es ∧ ∃ e ∈ es, s = .key e.1 ∨ s = .part e.2) := by
  unfold steps at h
  split at h
  · obtain ⟨c, hc, rfl⟩ := List.mem_map.mp h
    exact Or.inl ⟨_, _, rfl, c, hc, rfl⟩
  · exact Or.inr (Or.inl ⟨_, _, _, rfl, Or.inl rfl, List.mem_flatMap.mp h⟩)
  · exact Or.inr (Or.inl ⟨_, _, _, rfl, Or.inr rfl, List.mem_flatMap.mp h⟩)
  · exact Or.inr (Or.inr ⟨rfl, mem_entrySteps h⟩)
  · exact Or.inr (Or.inr ⟨rfl, mem_entrySteps h⟩)
  · cases h

theorem contains_of_mem_steps {n : Node} {s : Step} (h : s ∈ n.steps) : Contains n s.node := by
  rcases steps_cases h with ⟨i, ns, rfl, c, hc, rfl⟩ | ⟨i, t, ns, rfl, -, m, hm, hs⟩ |
    ⟨-, es, hes, e, he, rfl | rfl⟩
  · exact .child hc
  · have hchild : Contains (sequence i t ns) m := .child hm
    rcases mem_pairSteps hs with rfl | ⟨es, hes, e, he, rfl | rfl⟩
    · exact hchild
    · exact hchild.trans (contains_of_mem_entries hes he).1
    · exact hchild.trans (contains_of_mem_entries hes he).2
  · exact (contains_of_mem_entries hes he).1
  · exact (contains_of_mem_entries hes he).2

end Node

namespace Completion

open Node

def fail {α : Type} : Completion α := throw .malformedDocument

/-- Brings the merged entries into a mapping; its keys and theirs are no default keys any more. -/
def merge (n : Node) : Completion Unit :=
  match n.entries? with
  | some _ => modify fun st => { st with merged := n.sources ++ st.merged }
  | none => fail

def prepare : Node → Completion Unit
  | .sequence _ .seq _ => return ()
  | .sequence _ .omap _ => return ()
  | .sequence _ .pairs _ => return ()
  | .mapping i .map es j l => merge (.mapping i .map es j l)
  | .mapping i .set es j l => merge (.mapping i .set es j l)
  | _ => fail

/-- A pair is a mapping with one entry; a merge key counts unless the mapping has been merged. -/
def checkPair (m : Node) : Completion Unit := do
  let st ← get
  match m.entries? with
  | some [_] => if m.hasMerge && !st.merged.contains m then fail
  | _ => fail

def meetCycle (tracked : Bool) (number : Nat) : Completion Unit := do
  if tracked && !(← get).isBegun number then fail

def meetNew (tracked deep : Bool) (n : Node) (completion : Completion Unit) : Completion Unit := do
  let st ← get
  if (st.tagOf n).isCollection then
    if deep || (tracked && n.tag = .map) then
      completion
      modify fun st => { st with collections := n :: st.collections }
    else
      set { st with collections := n :: st.collections, waiting := n :: st.waiting }
  else
    let v ← scalarMeaning st.isText (st.tagOf n) n
    set { st with scalars := (n, v) :: st.scalars }

def meet (tracked deep : Bool) (n : Node) (completion : Completion Unit) : Completion Unit := do
  if (← get).knows n then return ()
  match n with
  | .cycle _ number => meetCycle tracked number
  | n => meetNew tracked deep n completion

/-- Completes a collection; `deep` tells that everything below it is completed at once. -/
def complete (tracked deep : Bool) (n : Node) : Completion Unit := do
  let atOnce := deep || (tracked && n.tag = .map)
  prepare n
  n.steps.attach.forM fun
    | ⟨.part c, _⟩ => meet tracked atOnce c (complete tracked atOnce c)
    | ⟨.key c, _⟩ => do
      meet tracked atOnce c (complete tracked atOnce c)
      if c.tag.isCollection then fail
    | ⟨.pair m, _⟩ => checkPair m
termination_by n.height
decreasing_by all_goals exact height_lt_of_contains (contains_of_mem_steps ‹_›)

def completeLevels (tracked : Bool) : Nat → Completion Unit
  | 0 => return ()
  | height + 1 => do
    let level := (← get).waiting.reverse
    modify fun st => { st with waiting := [] }
    level.forM (complete tracked false)
    completeLevels tracked height

def completeRoot (tracked : Bool) (root : Node) : Completion Unit := do
  meet tracked false root (complete tracked false root)
  completeLevels tracked root.height

end Completion

namespace Node

def withLines (startLine endLine : Nat) (es : List Entry) : List Entry :=
  Value.insert (.str endLineKey) (.int (endLine + 1))
    (Value.insert (.str lineKey) (.int (startLine + 1)) es)

def pairValue (value : Node → Value) (m : Node) : Value :=
  match m.entries? with
  | some [(k, v)] => .pair (value k) (value v)
  | _ => .null

def entryValues (value : Node → Value) (n : Node) : List Entry :=
  Value.ofEntries ((n.entries?.getD []).map fun e => (value e.1, value e.2))

def valueOf (tracked : Bool) (scalar value : Node → Value) : Node → Value
  | sequence _ .seq items => .list (items.map value)
  | sequence _ .omap items => .list (items.map (pairValue value))
  | sequence _ .pairs items => .list (items.map (pairValue value))
  | mapping i .map es j l =>
    let found := entryValues value (mapping i .map es j l)
    .map (if tracked then withLines j l found else found)
  | mapping i .set es j l =>
    .set ((entryValues value (mapping i .set es j l)).filterMap fun e => e.1.atom?)
  | n => scalar n

def value (tracked : Bool) (scalar : Node → Value) (n : Node) : Value :=
  valueOf tracked scalar (fun c => if c.height < n.height then value tracked scalar c else .null) n
termination_by n.height

end Node

def Progress.built (tracked : Bool) (st : Progress) (n : Node) : Value :=
  n.value tracked fun c => (st.scalars.lookup c).getD .null

/-- The value of the root, once everything below it is completed. A collection that is part of itself has
none. -/
def Node.meaning (tracked : Bool) (root : Node) : Except Fault Value :=
  match (Completion.completeRoot tracked root).run .start with
  | .ok (_, st) => if root.acyclic then .ok (st.built tracked root) else .error .malformedDocument
  | .error f => .error f

end BlockAudit.Yaml
