import BlockAudit.Block.Basic
import BlockAudit.Proofs.Value.Equality
import Mathlib.Data.List.Forall2

namespace BlockAudit.Value

def isLineKey : Value → Bool
  | str s => s = lineKey || s = endLineKey
  | _ => false

mutual

def dropLines : Value → Value
  | list vs => list (dropLinesOfItems vs)
  | pair v w => pair (dropLines v) (dropLines w)
  | map es => map (dropLinesOfEntries es)
  | v => v

def dropLinesOfItems : List Value → List Value
  | [] => []
  | v :: vs => dropLines v :: dropLinesOfItems vs

def dropLinesOfEntries : List Entry → List Entry
  | [] => []
  | (k, v) :: es =>
    if isLineKey k then dropLinesOfEntries es else (k, dropLines v) :: dropLinesOfEntries es

end

def hasLines : Value → Bool
  | map es =>
    match lookup? lineKey es, lookup? endLineKey es with
    | some (int _), some (int _) => true
    | _, _ => false
  | _ => false

inductive Part : Value → Value → Prop
  | self (v : Value) : Part v v
  | item {w v : Value} {vs : List Value} : v ∈ vs → Part w v → Part w (list vs)
  | first {w u v : Value} : Part w u → Part w (pair u v)
  | second {w u v : Value} : Part w v → Part w (pair u v)
  | entry {w : Value} {e : Entry} {es : List Entry} : e ∈ es → Part w e.2 → Part w (map es)

theorem dropLinesOfItems_eq (vs : List Value) : dropLinesOfItems vs = vs.map dropLines := by
  induction vs with
  | nil => rfl
  | cons v vs ih => rw [dropLinesOfItems, ih, List.map_cons]

theorem dropLines_list (vs : List Value) : (list vs).dropLines = list (vs.map dropLines) := by
  rw [dropLines, dropLinesOfItems_eq]

theorem dropLines_leaf {v : Value} (h : v.isLeaf = true) : v.dropLines = v := by
  cases v <;> simp_all [isLeaf, dropLines]

def Alike (es fs : List Entry) : Prop :=
  List.Forall₂ (fun e f => e.1 = f.1 ∧ e.2.dropLines = f.2.dropLines) es fs

theorem Alike.dropLinesOfEntries_eq {es fs : List Entry} (h : Alike es fs) :
    dropLinesOfEntries es = dropLinesOfEntries fs := by
  induction h with
  | nil => rfl
  | @cons e f es fs hef hrest ih =>
    obtain ⟨k, v⟩ := e
    obtain ⟨l, w⟩ := f
    obtain ⟨hkey, hvalue⟩ := hef
    simp only at hkey hvalue
    rw [dropLinesOfEntries, dropLinesOfEntries, hkey, hvalue, ih]

theorem Alike.insert {es fs : List Entry} (h : Alike es fs) (key : Value) {v w : Value}
    (hvw : v.dropLines = w.dropLines) : Alike (insert key v es) (insert key w fs) := by
  induction h with
  | nil => exact .cons ⟨rfl, hvw⟩ .nil
  | @cons e f es fs hef hrest ih =>
    obtain ⟨k, v⟩ := e
    obtain ⟨l, w⟩ := f
    obtain ⟨hkey, hvalue⟩ := hef
    simp only at hkey hvalue
    subst hkey
    rw [Value.insert, Value.insert]
    split
    · exact .cons ⟨rfl, hvw⟩ hrest
    · exact .cons ⟨rfl, hvalue⟩ ih

theorem Alike.ofEntries {es fs : List Entry} (h : Alike es fs) :
    Alike (ofEntries es) (ofEntries fs) := by
  suffices hfold : ∀ acc acc', Alike acc acc' →
      Alike (es.foldl (fun acc e => Value.insert e.1 e.2 acc) acc)
        (fs.foldl (fun acc e => Value.insert e.1 e.2 acc) acc') from hfold [] [] .nil
  induction h with
  | nil => exact fun acc acc' hacc => hacc
  | @cons e f es fs hef hrest ih =>
    intro acc acc' hacc
    rw [List.foldl_cons, List.foldl_cons, hef.1]
    exact ih _ _ (hacc.insert f.1 hef.2)

theorem Alike.filterMap_key {es fs : List Entry} (h : Alike es fs) {α : Type} (p : Value → Option α) :
    es.filterMap (fun e => p e.1) = fs.filterMap fun e => p e.1 := by
  induction h with
  | nil => rfl
  | cons hef _ ih => rw [List.filterMap_cons, List.filterMap_cons, hef.1, ih]

theorem isLineKey_eq_true {k : Value} (h : isLineKey k = true) : ∃ s, k = str s := by
  cases k <;> first | exact ⟨_, rfl⟩ | cases h

theorem dropLinesOfEntries_insert {key : Value} (hkey : isLineKey key = true) (v : Value)
    (es : List Entry) : dropLinesOfEntries (insert key v es) = dropLinesOfEntries es := by
  induction es with
  | nil => simp [Value.insert, dropLinesOfEntries, hkey]
  | cons e es ih =>
    obtain ⟨k, w⟩ := e
    obtain ⟨s, rfl⟩ := isLineKey_eq_true hkey
    rw [Value.insert]
    split
    · next hsame =>
      rw [sameScalar_str.mp hsame]
      rw [dropLinesOfEntries, dropLinesOfEntries, if_pos hkey, if_pos hkey]
    · rw [dropLinesOfEntries, dropLinesOfEntries, ih]

theorem lookup?_insert (s name : String) (v : Value) (es : List Entry) :
    lookup? name (insert (str s) v es) = if s = name then some v else lookup? name es := by
  induction es with
  | nil => simp [Value.insert, lookup?]
  | cons e es ih =>
    obtain ⟨k, w⟩ := e
    rw [Value.insert]
    by_cases hk : k = str s
    · rw [if_pos (sameScalar_str.mpr hk), hk, lookup?, lookup?]
      split <;> rfl
    · rw [if_neg fun h => hk (sameScalar_str.mp h)]
      cases k <;> try exact ih
      next t =>
        rw [lookup?, lookup?, ih]
        by_cases ht : t = name
        · have hs : s ≠ name := fun hs => hk (by rw [ht, hs])
          rw [if_pos ht, if_neg hs, if_pos ht]
        · rw [if_neg ht, if_neg ht]

theorem mem_insert {key v : Value} {es : List Entry} {e : Entry} (h : e ∈ insert key v es) :
    e.2 = v ∨ e ∈ es := by
  induction es with
  | nil =>
    rw [List.mem_singleton.mp h]
    exact Or.inl rfl
  | cons f es ih =>
    obtain ⟨k, w⟩ := f
    rw [Value.insert] at h
    split at h
    · rcases List.mem_cons.mp h with rfl | h
      · exact Or.inl rfl
      · exact Or.inr (List.mem_cons_of_mem _ h)
    · rcases List.mem_cons.mp h with rfl | h
      · exact Or.inr List.mem_cons_self
      · exact (ih h).imp_right (List.mem_cons_of_mem _)

theorem exists_of_mem_ofEntries {es : List Entry} {e : Entry} (h : e ∈ ofEntries es) :
    ∃ f ∈ es, e.2 = f.2 := by
  suffices hfold : ∀ acc : List Entry, e ∈ es.foldl (fun acc e => insert e.1 e.2 acc) acc →
      (∃ f ∈ es, e.2 = f.2) ∨ e ∈ acc by
    rcases hfold [] h with h | h
    · exact h
    · cases h
  clear h
  induction es with
  | nil => exact fun acc h => Or.inr h
  | cons f es ih =>
    intro acc h
    rcases ih _ h with ⟨g, hg, he⟩ | h
    · exact Or.inl ⟨g, List.mem_cons_of_mem _ hg, he⟩
    · rcases mem_insert h with he | h
      · exact Or.inl ⟨f, List.mem_cons_self, he⟩
      · exact Or.inr h

end BlockAudit.Value
