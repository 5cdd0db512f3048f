import BlockAudit.Yaml.Tag

namespace BlockAudit.Yaml

/-- Nodes are numbered in the order in which they begin, so that an alias and what it stands for are the
same node, and no other two are. `cycle` is an alias for a collection that it is part of. -/
inductive Node where
  | scalar (number : Nat) (tag : Tag) (text : String)
  | sequence (number : Nat) (tag : Tag) (items : List Node)
  | mapping (number : Nat) (tag : Tag) (entries : List (Node × Node)) (startLine endLine : Nat)
  | cycle (mapping : Bool) (number : Nat)

namespace Node

def empty : Node := scalar 0 .null ""

def number : Node → Nat
  | scalar n _ _ => n
  | sequence n _ _ => n
  | mapping n _ _ _ _ => n
  | cycle _ n => n

def tag : Node → Tag
  | scalar _ t _ => t
  | sequence _ t _ => t
  | mapping _ t _ _ _ => t
  | cycle isMapping _ => if isMapping then .map else .seq

mutual

def decEq : (a b : Node) → Decidable (a = b)
  | scalar n t s, scalar m u r =>
    decidable_of_iff (n = m ∧ t = u ∧ s = r) (by rw [scalar.injEq])
  | sequence n t ns, sequence m u ms =>
    if h : n = m ∧ t = u then
      match decEqItems ns ms with
      | isTrue hs => isTrue (by rw [h.1, h.2, hs])
      | isFalse hs => isFalse fun e => hs (sequence.inj e).2.2
    else isFalse fun e => h ⟨(sequence.inj e).1, (sequence.inj e).2.1⟩
  | mapping n t es i j, mapping m u fs k l =>
    if h : n = m ∧ t = u ∧ i = k ∧ j = l then
      match decEqEntries es fs with
      | isTrue hs => isTrue (by rw [h.1, h.2.1, h.2.2.1, h.2.2.2, hs])
      | isFalse hs => isFalse fun e => hs (mapping.inj e).2.2.1
    else isFalse fun e => h ⟨(mapping.inj e).1, (mapping.inj e).2.1, (mapping.inj e).2.2.2⟩
  | cycle m n, cycle k l => decidable_of_iff (m = k ∧ n = l) (by rw [cycle.injEq])
  | scalar _ _ _, sequence _ _ _ | scalar _ _ _, mapping _ _ _ _ _ | scalar _ _ _, cycle _ _
  | sequence _ _ _, scalar _ _ _ | sequence _ _ _, mapping _ _ _ _ _ | sequence _ _ _, cycle _ _
  | mapping _ _ _ _ _, scalar _ _ _ | mapping _ _ _ _ _, sequence _ _ _
  | mapping _ _ _ _ _, cycle _ _ | cycle _ _, scalar _ _ _ | cycle _ _, sequence _ _ _
  | cycle _ _, mapping _ _ _ _ _ => isFalse nofun

def decEqItems : (as bs : List Node) → Decidable (as = bs)
  | [], [] => isTrue rfl
  | [], _ :: _ => isFalse nofun
  | _ :: _, [] => isFalse nofun
  | a :: as, b :: bs =>
    match decEq a b, decEqItems as bs with
    | isTrue h, isTrue hs => isTrue (by rw [h, hs])
    | isFalse h, _ => isFalse fun e => h (List.cons.inj e).1
    | _, isFalse hs => isFalse fun e => hs (List.cons.inj e).2

def decEqEntries : (as bs : List (Node × Node)) → Decidable (as = bs)
  | [], [] => isTrue rfl
  | [], _ :: _ => isFalse nofun
  | _ :: _, [] => isFalse nofun
  | (a, c) :: as, (b, d) :: bs =>
    match decEq a b, decEq c d, decEqEntries as bs with
    | isTrue h, isTrue h', isTrue hs => isTrue (by rw [h, h', hs])
    | isFalse h, _, _ => isFalse fun e => h (Prod.mk.inj (List.cons.inj e).1).1
    | _, isFalse h', _ => isFalse fun e => h' (Prod.mk.inj (List.cons.inj e).1).2
    | _, _, isFalse hs => isFalse fun e => hs (List.cons.inj e).2

end

instance : DecidableEq Node := decEq

mutual

def everyNode (p : Node → Bool) : Node → Bool
  | sequence i t ns => p (sequence i t ns) && everyNodeOfItems p ns
  | mapping i t es j l => p (mapping i t es j l) && everyNodeOfEntries p es
  | n => p n

def everyNodeOfItems (p : Node → Bool) : List Node → Bool
  | [] => true
  | n :: ns => everyNode p n && everyNodeOfItems p ns

def everyNodeOfEntries (p : Node → Bool) : List (Node × Node) → Bool
  | [] => true
  | (k, v) :: es => everyNode p k && everyNode p v && everyNodeOfEntries p es

end

def acyclic (n : Node) : Bool :=
  n.everyNode fun
    | cycle _ _ => false
    | _ => true

end Node
end BlockAudit.Yaml
