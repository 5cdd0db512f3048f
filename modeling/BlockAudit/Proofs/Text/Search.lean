import BlockAudit.Text.Search

namespace BlockAudit.Text

variable {sep : Char} {s t : List Char}

theorem fields_of_not_mem (h : sep ∉ s) : fields sep s = [s] := by
  induction s with
  | nil => rfl
  | cons c s ih =>
    rw [List.mem_cons, not_or] at h
    rw [fields, if_neg fun he => h.1 he.symm, ih h.2]

theorem fields_ne_nil (sep : Char) (s : List Char) : fields sep s ≠ [] := by
  cases s with
  | nil => exact List.cons_ne_nil _ _
  | cons c s =>
    rw [fields]
    split
    · exact List.cons_ne_nil _ _
    · split <;> exact List.cons_ne_nil _ _

theorem fields_append_cons (sep : Char) (s t : List Char) :
    fields sep (s ++ sep :: t) = fields sep s ++ fields sep t := by
  induction s with
  | nil => simp [fields]
  | cons c s ih =>
    rw [List.cons_append, fields, fields, ih]
    split
    · rfl
    · obtain ⟨f, fs, hfields⟩ := List.exists_cons_of_ne_nil (fields_ne_nil sep s)
      rw [hfields]
      rfl

theorem fields_append (hs : sep ∉ s) (ht : sep ∉ t) : fields sep (s ++ sep :: t) = [s, t] := by
  rw [fields_append_cons, fields_of_not_mem hs, fields_of_not_mem ht, List.singleton_append]

theorem fields_append_of_not_mem {f : List Char} {fs : List (List Char)} (hs : sep ∉ s)
    (ht : fields sep t = f :: fs) : fields sep (s ++ t) = (s ++ f) :: fs := by
  induction s with
  | nil => rw [List.nil_append, List.nil_append, ht]
  | cons c s ih =>
    rw [List.mem_cons, not_or] at hs
    rw [List.cons_append, fields, if_neg fun he => hs.1 he.symm, ih hs.2, List.cons_append]

theorem fields_flatMap {ps : List (List Char)} (h : ∀ p ∈ ps, sep ∉ p) :
    fields sep (ps.flatMap (sep :: ·)) = [] :: ps := by
  induction ps with
  | nil => rfl
  | cons p ps ih =>
    obtain ⟨hp, hps⟩ := List.forall_mem_cons.mp h
    rw [List.flatMap_cons, List.cons_append, fields, if_pos rfl,
      fields_append_of_not_mem hp (ih hps), List.append_nil]

theorem fields_cases (sep : Char) (s : List Char) : sep ∉ s ∧ fields sep s = [s] ∨
    ∃ f t, sep ∉ f ∧ s = f ++ sep :: t ∧ fields sep s = f :: fields sep t := by
  by_cases hs : sep ∈ s
  · obtain ⟨f, t, rfl, hf⟩ := List.eq_append_cons_of_mem hs
    refine Or.inr ⟨f, t, hf, rfl, ?_⟩
    rw [fields_append_cons, fields_of_not_mem hf, List.singleton_append]
  · exact Or.inl ⟨hs, fields_of_not_mem hs⟩

theorem isInfix_iff {part : List Char} : isInfix part s = true ↔ part <:+: s := by
  induction s with
  | nil => simp [isInfix]
  | cons c s ih =>
    rw [isInfix, Bool.or_eq_true, List.isPrefixOf_iff_prefix, ih, List.infix_cons_iff]

end BlockAudit.Text
