import BlockAudit.Text.Blank
import Mathlib.Data.List.TakeWhile

namespace BlockAudit.Text

def IsTrimmed (s : List Char) : Prop :=
  (∀ x ∈ s.head?, isBlank x = false) ∧ ∀ x ∈ s.getLast?, isBlank x = false

theorem head?_dropWhile {p : Char → Bool} {s : List Char} {x : Char}
    (h : x ∈ (s.dropWhile p).head?) : p x = false := by
  have hnot := List.head?_dropWhile_not p s
  rw [Option.mem_def.mp h] at hnot
  simpa using hnot

theorem getLast?_stripEnd {s : List Char} {x : Char} (h : x ∈ (stripEnd s).getLast?) :
    isBlank x = false := by
  rw [stripEnd, List.getLast?_reverse] at h
  exact head?_dropWhile h

theorem stripEnd_prefix (s : List Char) : stripEnd s <+: s := by
  have hsuffix := List.dropWhile_suffix isBlank (l := s.reverse)
  rwa [← List.reverse_prefix, List.reverse_reverse] at hsuffix

theorem head?_stripEnd {s : List Char} {x : Char} (h : x ∈ (stripEnd s).head?) : x ∈ s.head? := by
  obtain ⟨rest, hs⟩ := stripEnd_prefix s
  rw [← hs, List.head?_append, Option.mem_def.mp h]
  rfl

theorem isTrimmed_strip (s : List Char) : IsTrimmed (strip s) :=
  ⟨fun _ h => head?_dropWhile (head?_stripEnd h), fun _ h => getLast?_stripEnd h⟩

theorem dropWhile_of_head? {p : Char → Bool} {s : List Char} (h : ∀ x ∈ s.head?, p x = false) :
    s.dropWhile p = s := by
  cases s with
  | nil => rfl
  | cons x s => exact List.dropWhile_cons_of_neg (by simp [h x rfl])

theorem strip_of_isTrimmed {s : List Char} (h : IsTrimmed s) : strip s = s := by
  have hstart : stripStart s = s := dropWhile_of_head? h.1
  have hend : s.reverse.dropWhile isBlank = s.reverse := by
    refine dropWhile_of_head? fun x hx => h.2 x ?_
    rwa [List.head?_reverse] at hx
  rw [strip, hstart, stripEnd, hend, List.reverse_reverse]

theorem stripEnd_append_blank {s after : List Char} (h : ∀ c ∈ after, isBlank c = true) :
    stripEnd (s ++ after) = stripEnd s := by
  rw [stripEnd, stripEnd, List.reverse_append, List.dropWhile_append_of_pos]
  simpa using h

theorem strip_padded {before s after : List Char} (hbefore : ∀ c ∈ before, isBlank c = true)
    (hafter : ∀ c ∈ after, isBlank c = true) : strip (before ++ s ++ after) = strip s := by
  have hstart : stripStart (before ++ s ++ after) = stripStart (s ++ after) := by
    rw [stripStart, List.append_assoc, List.dropWhile_append_of_pos hbefore, stripStart]
  rw [strip, hstart, stripStart, List.dropWhile_append]
  by_cases hblank : s.dropWhile isBlank = []
  · have hrest : after.dropWhile isBlank = [] := List.dropWhile_eq_nil_iff.mpr hafter
    simp [hblank, hrest, strip, stripStart]
  · rw [if_neg (by simpa using hblank), stripEnd_append_blank hafter, strip, stripStart]

theorem stripped_stripped (s : String) : stripped (stripped s) = stripped s := by
  rw [stripped, stripped, String.toList_ofList, strip_of_isTrimmed (isTrimmed_strip _)]

end BlockAudit.Text
