import BlockAudit.Value.Basic
import Mathlib.Data.List.Perm.Basic
/-!
Looking up the entries of a mapping by name. Where no name is there twice, the order of the entries does
not matter.
-/

namespace BlockAudit.Value

variable {name : String} {v : Value} {es fs : List Entry}

theorem isNull_iff : v.isNull = true ↔ v = null := by
  cases v <;> simp [isNull]

theorem isNull_eq_false : v.isNull = false ↔ v ≠ null := by
  rw [ne_eq, ← isNull_iff, Bool.not_eq_true]

def part (name : String) : Value → Value
  | map es => get name es
  | _ => null

def items (v : Value) : List Value := v.items?.getD []

theorem get_cons (name key : String) (v : Value) (es : List Entry) :
    get name ((str key, v) :: es) = if key = name then v else get name es := by
  rw [get, lookup?]
  split <;> rfl

theorem lookup?_append (name : String) (es fs : List Entry) :
    lookup? name (es ++ fs) = (lookup? name es).or (lookup? name fs) := by
  induction es with
  | nil => rfl
  | cons e es ih =>
    obtain ⟨k, v⟩ := e
    cases k with
    | str s =>
      rw [List.cons_append, lookup?, lookup?, ih]
      split <;> rfl
    | _ => exact ih

def without (name : String) (es : List Entry) : List Entry :=
  es.filter fun e => e.1.text? != some name

theorem lookup?_without (key name : String) (es : List Entry) :
    lookup? name (without key es) = if key = name then none else lookup? name es := by
  induction es with
  | nil => simp [without, lookup?]
  | cons e es ih =>
    obtain ⟨k, v⟩ := e
    rw [without, List.filter_cons]
    cases k with
    | str s =>
      by_cases hs : s = key
      · rw [if_neg (by simp [text?, hs]), lookup?, hs]
        refine ih.trans ?_
        split <;> rfl
      · rw [if_pos (by simp [text?, hs]), lookup?, lookup?]
        by_cases hname : s = name
        · rw [if_pos hname, if_pos hname, if_neg fun h => hs (hname.trans h.symm)]
        · rw [if_neg hname, if_neg hname]
          exact ih
    | _ => exact ih

theorem mem_of_lookup? (h : lookup? name es = some v) : (str name, v) ∈ es := by
  induction es with
  | nil => cases h
  | cons e es ih =>
    obtain ⟨k, w⟩ := e
    cases k <;> try exact List.mem_cons_of_mem _ (ih h)
    next s =>
      rw [lookup?] at h
      split at h
      · next he =>
        rw [he, Option.some.inj h]
        exact List.mem_cons_self
      · exact List.mem_cons_of_mem _ (ih h)

theorem mem_of_get (h : get name es ≠ null) : (str name, get name es) ∈ es := by
  cases hv : lookup? name es with
  | none =>
    rw [get, hv] at h
    exact absurd rfl h
  | some v =>
    have hget : get name es = v := by
      rw [get, hv]
      rfl
    rw [hget]
    exact mem_of_lookup? hv

def NamedOnce (es : List Entry) : Prop := (es.filterMap fun e => e.1.text?).Nodup

theorem lookup?_of_mem_of_namedOnce (h : NamedOnce es) (hv : (str name, v) ∈ es) :
    lookup? name es = some v := by
  induction es with
  | nil => cases hv
  | cons e es ih =>
    obtain ⟨k, w⟩ := e
    cases k with
    | str s =>
      obtain ⟨hfresh, hrest⟩ := List.nodup_cons.mp h
      rw [lookup?]
      rcases List.mem_cons.mp hv with heq | hmem
      · cases heq
        exact if_pos rfl
      · have hne : s ≠ name := fun hs =>
          hfresh (List.mem_filterMap.mpr ⟨_, hmem, by rw [hs]; rfl⟩)
        rw [if_neg hne, ih hrest hmem]
    | _ =>
      rcases List.mem_cons.mp hv with heq | hmem
      · cases heq
      · exact ih h hmem

theorem lookup?_eq_some_iff (h : NamedOnce es) : lookup? name es = some v ↔ (str name, v) ∈ es :=
  ⟨mem_of_lookup?, lookup?_of_mem_of_namedOnce h⟩

theorem lookup?_perm (h : NamedOnce es) (hperm : es.Perm fs) (name : String) :
    lookup? name es = lookup? name fs := by
  have hfs : NamedOnce fs := (hperm.filterMap _).nodup h
  ext v
  rw [lookup?_eq_some_iff h, lookup?_eq_some_iff hfs, hperm.mem_iff]

theorem lookup?_insert_of_ne {name : String} {k : Value} (h : k ≠ str name) (v : Value)
    (es fs : List Entry) : lookup? name (es ++ (k, v) :: fs) = lookup? name (es ++ fs) := by
  rw [lookup?_append, lookup?_append]
  cases k with
  | str s => rw [lookup?, if_neg fun hs => h (by rw [hs])]
  | _ => rfl

theorem lookup?_insert_self {name : String} (v : Value) (fs : List Entry) (h : lookup? name es = none) :
    lookup? name (es ++ (str name, v) :: fs) = some v := by
  rw [lookup?_append, h, lookup?, if_pos rfl]
  rfl

theorem lookup?_replace {name : String} (h : key ≠ name) (v w : Value) (es fs : List Entry) :
    lookup? name (es ++ (str key, v) :: fs) = lookup? name (es ++ (str key, w) :: fs) := by
  have hne : str key ≠ str name := fun hk => h (str.inj hk)
  rw [lookup?_insert_of_ne hne, lookup?_insert_of_ne hne]

theorem apply_get_replace {β : Type} (f : Value → β) {name : String} (h : key = name → f v = f w)
    (es fs : List Entry) :
    f (get name (es ++ (str key, v) :: fs)) = f (get name (es ++ (str key, w) :: fs)) := by
  by_cases hname : key = name
  · rw [get, get, lookup?_append, lookup?_append, lookup?, if_pos hname, lookup?, if_pos hname]
    cases lookup? name es with
    | none => exact h hname
    | some u => rfl
  · rw [get, get, lookup?_replace hname v w]

end BlockAudit.Value
