import BlockAudit.Proofs.Except
import BlockAudit.Proofs.Value.Unmarked
/-!
What is shown of a value with markers. A path through what is shown leads to what is shown of the place
that it leads to in the value.
-/

namespace BlockAudit.Value

variable {v w u : Value} {parts : List (List Char)}

theorem follow?_append {ps : List (List Char)} (h : follow? ps v = .ok (some w))
    (qs : List (List Char)) : follow? (ps ++ qs) v = follow? qs w := by
  induction ps generalizing v with
  | nil =>
    cases h
    rfl
  | cons part ps ih =>
    rw [List.cons_append, follow?]
    rw [follow?] at h
    generalize step? part v = x at h
    rcases x with f | (_ | x)
    · cases h
    · cases h
    · exact ih h

theorem follow?_append_of_none {ps : List (List Char)} (h : follow? ps v = .ok none)
    (qs : List (List Char)) : follow? (ps ++ qs) v = .ok none := by
  induction ps generalizing v with
  | nil => cases h
  | cons part ps ih =>
    rw [List.cons_append, follow?]
    rw [follow?] at h
    generalize step? part v = x at h
    rcases x with f | (_ | x)
    · cases h
    · rfl
    · exact ih h

theorem exists_of_unmarkedItems {vs us : List Value} (h : unmarkedItems vs = .ok us) :
    List.Forall₂ (fun v u => v.unmarked = .ok u) vs us := by
  induction vs generalizing us with
  | nil =>
    cases h
    exact .nil
  | cons v vs ih =>
    obtain ⟨u, hu, h⟩ := bind_eq_ok.mp h
    obtain ⟨rest, hrest, h⟩ := bind_eq_ok.mp h
    cases h
    exact .cons hu (ih hrest)

theorem unmarkedItems_of_forall₂ {vs us : List Value}
    (h : List.Forall₂ (fun v u => v.unmarked = .ok u) vs us) : unmarkedItems vs = .ok us := by
  induction h with
  | nil => rfl
  | cons hu _ ih =>
    rw [unmarkedItems, hu, ok_bind, ih]
    rfl

inductive ShownEntries : List Entry → List Entry → Prop where
  | nil : ShownEntries [] []
  | marker {s : String} {v : Value} {es fs : List Entry} (h : isMarker s = true)
      (rest : ShownEntries es fs) : ShownEntries ((str s, v) :: es) fs
  | shown {s : String} {v u : Value} {es fs : List Entry} (h : isMarker s = false)
      (value : v.unmarked = .ok u) (rest : ShownEntries es fs) :
      ShownEntries ((str s, v) :: es) ((str s, u) :: fs)

theorem shownEntries_of_unmarkedEntries {es fs : List Entry} (h : unmarkedEntries es = .ok fs) :
    ShownEntries es fs := by
  induction es generalizing fs with
  | nil =>
    cases h
    exact .nil
  | cons e es ih =>
    obtain ⟨k, v⟩ := e
    rw [unmarkedEntries] at h
    obtain ⟨hidden, hkey, h⟩ := bind_eq_ok.mp h
    cases k with
    | str s =>
      cases hkey
      split at h
      · next hmarker => exact .marker hmarker (ih h)
      · next hmarker =>
        obtain ⟨u, hu, h⟩ := bind_eq_ok.mp h
        obtain ⟨rest, hrest, h⟩ := bind_eq_ok.mp h
        cases h
        exact .shown (Bool.eq_false_iff.mpr hmarker) hu (ih hrest)
    | _ => cases hkey

theorem unmarkedEntries_of_shownEntries {es fs : List Entry} (h : ShownEntries es fs) :
    unmarkedEntries es = .ok fs := by
  induction h with
  | nil => rfl
  | marker h _ ih =>
    rw [unmarkedEntries, markerKey_str, ok_bind, h]
    exact ih
  | shown h value _ ih =>
    rw [unmarkedEntries, markerKey_str, ok_bind, h, if_neg Bool.false_ne_true, value, ok_bind, ih]
    rfl

theorem ShownEntries.keys {es fs : List Entry} (h : ShownEntries es fs) :
    (fs.map Prod.fst).Sublist (es.map Prod.fst) := by
  induction h with
  | nil => exact .slnil
  | marker _ _ ih => exact ih.cons _
  | shown _ _ _ ih => exact ih.cons_cons _

theorem ShownEntries.exists_of_mem {es fs : List Entry} {f : Entry} (h : ShownEntries es fs)
    (hf : f ∈ fs) : ∃ e ∈ es, e.2.unmarked = .ok f.2 := by
  induction h with
  | nil => cases hf
  | marker _ _ ih =>
    obtain ⟨e, he, hshown⟩ := ih hf
    exact ⟨e, List.mem_cons_of_mem _ he, hshown⟩
  | shown _ value _ ih =>
    rcases List.mem_cons.mp hf with rfl | hf
    · exact ⟨_, List.mem_cons_self, value⟩
    · obtain ⟨e, he, hshown⟩ := ih hf
      exact ⟨e, List.mem_cons_of_mem _ he, hshown⟩

theorem unmarked_list_eq_ok {vs : List Value} (h : (list vs).unmarked = .ok u) :
    ∃ us, u = list us ∧ List.Forall₂ (fun v u => v.unmarked = .ok u) vs us := by
  obtain ⟨us, hus, rfl⟩ := map_eq_ok.mp h
  exact ⟨us, rfl, exists_of_unmarkedItems hus⟩

theorem unmarked_map_eq_ok {es : List Entry} (h : (map es).unmarked = .ok u) :
    ∃ fs, u = map fs ∧ ShownEntries es fs := by
  obtain ⟨fs, hfs, rfl⟩ := map_eq_ok.mp h
  exact ⟨fs, rfl, shownEntries_of_unmarkedEntries hfs⟩

theorem unmarked_unmarked (h : v.unmarked = .ok u) : u.unmarked = .ok u := by
  induction v generalizing u with
  | leaf v hleaf =>
    have hself := unmarked_leaf hleaf
    rwa [← Except.ok.inj (hself.symm.trans h)]
  | list vs ih =>
    obtain ⟨us, rfl, hus⟩ := unmarked_list_eq_ok h
    have hself : List.Forall₂ (fun v u => v.unmarked = .ok u) us us := by
      clear h
      induction hus with
      | nil => exact .nil
      | cons hu _ hrest =>
        obtain ⟨hhead, htail⟩ := List.forall_mem_cons.mp ih
        exact .cons (hhead hu) (hrest htail)
    rw [unmarked, unmarkedItems_of_forall₂ hself]
    rfl
  | pair v w _ _ =>
    cases h
    rfl
  | map es ih =>
    obtain ⟨fs, rfl, hfs⟩ := unmarked_map_eq_ok h
    have hself : ShownEntries fs fs := by
      clear h
      induction hfs with
      | nil => exact .nil
      | marker h rest hrest => exact hrest fun e he => ih e (List.mem_cons_of_mem _ he)
      | shown h value rest hrest =>
        obtain ⟨hhead, htail⟩ := List.forall_mem_cons.mp ih
        exact .shown h (hhead value) (hrest htail)
    rw [unmarked, unmarkedEntries_of_shownEntries hself]
    rfl

/-- What a path leads to in a value and in what is shown of the value. -/
inductive Showing : Except Fault (Option Value) → Except Fault (Option Value) → Prop where
  | fault (f : Fault) : Showing (.error f) (.error f)
  | absent : Showing (.ok none) (.ok none)
  | found {v u : Value} (h : v.unmarked = .ok u) : Showing (.ok (some v)) (.ok (some u))

theorem showing_lookup? {name : String} (hname : isMarker name = false) {es fs : List Entry}
    (h : ShownEntries es fs) : Showing (.ok (lookup? name es)) (.ok (lookup? name fs)) := by
  induction h with
  | nil => exact .absent
  | @marker s v es fs h rest ih =>
    have hne : s ≠ name := by
      rintro rfl
      rw [h] at hname
      cases hname
    rwa [lookup?, if_neg hne]
  | @shown s v u es fs h value rest ih =>
    rw [lookup?, lookup?]
    by_cases hs : s = name
    · rw [if_pos hs, if_pos hs]
      exact .found value
    · rwa [if_neg hs, if_neg hs]

theorem showing_member? (part : List Char) (h : v.unmarked = .ok u) :
    Showing (.ok (member? part v)) (.ok (member? part u)) := by
  cases v with
  | map es =>
    obtain ⟨fs, rfl, hfs⟩ := unmarked_map_eq_ok h
    rw [member?, member?]
    by_cases hmarker : isMarker (String.ofList part) = true
    · rw [if_pos hmarker, if_pos hmarker]
      exact .absent
    · rw [if_neg hmarker, if_neg hmarker]
      exact showing_lookup? (Bool.eq_false_iff.mpr hmarker) hfs
  | list vs =>
    obtain ⟨us, rfl, -⟩ := unmarked_list_eq_ok h
    exact .absent
  | _ =>
    cases h
    exact .absent

theorem showing_getElem? {vs us : List Value} (h : List.Forall₂ (fun v u => v.unmarked = .ok u) vs us)
    (n : Nat) : Showing (.ok vs[n]?) (.ok us[n]?) := by
  induction h generalizing n with
  | nil => exact .absent
  | cons hu _ ih =>
    cases n with
    | zero => exact .found hu
    | succ n => exact ih n

theorem showing_step? (part : List Char) (h : v.unmarked = .ok u) :
    Showing (step? part v) (step? part u) := by
  cases v with
  | map es =>
    obtain ⟨fs, rfl, hfs⟩ := unmarked_map_eq_ok h
    exact showing_member? part h
  | list vs =>
    obtain ⟨us, rfl, hus⟩ := unmarked_list_eq_ok h
    rw [step?, step?]
    by_cases hdigits : Text.isDigits part = true
    · rw [if_pos hdigits, if_pos hdigits, item?, item?]
      cases Number.natural? 10 part with
      | none => exact .fault _
      | some n => exact showing_getElem? hus n
    · rw [if_neg hdigits, if_neg hdigits]
      cases hus with
      | nil => exact .absent
      | cons hu _ => exact showing_member? part hu
  | _ =>
    cases h
    exact showing_member? part rfl

theorem showing_follow? (parts : List (List Char)) (h : v.unmarked = .ok u) :
    Showing (follow? parts v) (follow? parts u) := by
  induction parts generalizing v u with
  | nil => exact .found h
  | cons part parts ih =>
    have hstep := showing_step? part h
    rw [follow?, follow?]
    generalize step? part v = x, step? part u = y at hstep
    cases hstep with
    | fault f => exact .fault f
    | absent => exact .absent
    | found hw => exact ih hw

end BlockAudit.Value
