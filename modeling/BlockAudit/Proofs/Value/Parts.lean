import BlockAudit.Value.Basic

namespace BlockAudit.Value

def isLeaf : Value → Bool
  | list _ => false
  | pair _ _ => false
  | map _ => false
  | _ => true

@[elab_as_elim, induction_eliminator]
theorem induct {motive : Value → Prop} (leaf : ∀ v, v.isLeaf = true → motive v)
    (list : ∀ vs, (∀ v ∈ vs, motive v) → motive (.list vs))
    (pair : ∀ v w, motive v → motive w → motive (.pair v w))
    (map : ∀ es : List Entry, (∀ e ∈ es, motive e.2) → motive (.map es)) (v : Value) : motive v :=
  @Value.rec motive (fun vs => ∀ v ∈ vs, motive v) (fun es => ∀ e ∈ es, motive e.2)
    (fun e => motive e.2) (leaf _ rfl) (fun _ => leaf _ rfl) (fun _ => leaf _ rfl)
    (fun _ => leaf _ rfl) (fun _ => leaf _ rfl) (fun _ => leaf _ rfl) (fun _ => leaf _ rfl)
    (fun _ => leaf _ rfl) list pair map (fun _ => leaf _ rfl) (by simp)
    (fun _ _ hhead htail => List.forall_mem_cons.mpr ⟨hhead, htail⟩) (by simp)
    (fun _ _ hhead htail => List.forall_mem_cons.mpr ⟨hhead, htail⟩) (fun _ _ _ h => h) v

mutual

def everyPart (p : Value → Bool) : Value → Bool
  | list vs => p (list vs) && everyPartOfItems p vs
  | pair v w => p (pair v w) && (everyPart p v && everyPart p w)
  | map es => p (map es) && everyPartOfEntries p es
  | v => p v

def everyPartOfItems (p : Value → Bool) : List Value → Bool
  | [] => true
  | v :: vs => everyPart p v && everyPartOfItems p vs

def everyPartOfEntries (p : Value → Bool) : List Entry → Bool
  | [] => true
  | (_, v) :: es => everyPart p v && everyPartOfEntries p es

end

variable {p : Value → Bool}

theorem everyPartOfItems_iff {vs : List Value} :
    everyPartOfItems p vs = true ↔ ∀ v ∈ vs, v.everyPart p = true := by
  induction vs with
  | nil => simp [everyPartOfItems]
  | cons v vs ih => rw [everyPartOfItems, Bool.and_eq_true, ih, List.forall_mem_cons]

theorem everyPartOfEntries_iff {es : List Entry} :
    everyPartOfEntries p es = true ↔ ∀ e ∈ es, e.2.everyPart p = true := by
  induction es with
  | nil => simp [everyPartOfEntries]
  | cons e es ih => rw [everyPartOfEntries, Bool.and_eq_true, ih, List.forall_mem_cons]

theorem everyPart_leaf {v : Value} (h : v.isLeaf = true) : v.everyPart p = p v := by
  cases v <;> simp_all [isLeaf, everyPart]

theorem everyPart_list {vs : List Value} :
    (list vs).everyPart p = true ↔ p (list vs) = true ∧ ∀ v ∈ vs, v.everyPart p = true := by
  rw [everyPart, Bool.and_eq_true, everyPartOfItems_iff]

theorem everyPart_pair {v w : Value} : (pair v w).everyPart p = true ↔
    p (pair v w) = true ∧ v.everyPart p = true ∧ w.everyPart p = true := by
  rw [everyPart, Bool.and_eq_true, Bool.and_eq_true]

theorem everyPart_map {es : List Entry} :
    (map es).everyPart p = true ↔ p (map es) = true ∧ ∀ e ∈ es, e.2.everyPart p = true := by
  rw [everyPart, Bool.and_eq_true, everyPartOfEntries_iff]

end BlockAudit.Value
