import BlockAudit.Pool
import Mathlib.Data.List.Basic
import Mathlib.Data.List.Induction
/-!
Whatever the order in which a pool completes its tasks, the outcomes end up as if the tasks had been
done one after the other.
-/

namespace BlockAudit.Pool

variable {α β : Type}

theorem lookup_completed {f : α → β} {tasks : List α} {order : List Nat} {i : Nat} {a : α}
    (hi : i ∈ order) (ha : tasks[i]? = some a) : (completed f tasks order).lookup i = some (f a) := by
  induction order with
  | nil => simp at hi
  | cons j order ih =>
    by_cases hj : i = j
    · subst hj
      simp [completed, ha]
    · have hrest := ih (List.mem_of_ne_of_mem hj hi)
      cases hb : tasks[j]? with
      | none => simpa [completed, hb] using hrest
      | some b => simpa [completed, hb, List.lookup_cons, beq_false_of_ne hj] using hrest

theorem filterMap_getElem?_range (as : List α) :
    (List.range as.length).filterMap (fun i => as[i]?) = as := by
  induction as using List.reverseRecOn with
  | nil => rfl
  | append_singleton as a ih =>
    have hinit : (List.range as.length).filterMap (fun i => (as ++ [a])[i]?) = as := by
      refine (List.filterMap_congr fun i hi => ?_).trans ih
      exact List.getElem?_append_left (List.mem_range.mp hi)
    rw [List.length_append, List.length_singleton, List.range_succ, List.filterMap_append, hinit]
    simp

theorem arranged_completed (f : α → β) (tasks : List α) (s : Schedule) :
    arranged tasks.length (completed f tasks (s.order tasks.length)) = tasks.map f := by
  have hplace : ∀ i ∈ List.range tasks.length,
      (completed f tasks (s.order tasks.length)).lookup i = (tasks.map f)[i]? := by
    intro i hi
    have hlt := List.getElem?_eq_getElem (List.mem_range.mp hi)
    have horder : i ∈ s.order tasks.length := (s.order_perm tasks.length).mem_iff.mpr hi
    rw [lookup_completed horder hlt, List.getElem?_map, hlt, Option.map_some]
  have hall := filterMap_getElem?_range (tasks.map f)
  rw [List.length_map] at hall
  exact (List.filterMap_congr hplace).trans hall

end BlockAudit.Pool
