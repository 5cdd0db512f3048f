import BlockAudit.Yaml.Cursor
import BlockAudit.Yaml.Token

namespace BlockAudit.Yaml

variable {α β : Type} {P Q : α → Prop} {R : β → Prop}

def UnlessMalformed (P : α → Prop) : Except Fault α → Prop
  | .ok a => P a
  | .error f => f = .malformedDocument

theorem UnlessMalformed.bind {x : Except Fault α} {g : α → Except Fault β}
    (h : UnlessMalformed P x) (hg : ∀ a, P a → UnlessMalformed R (g a)) :
    UnlessMalformed R (x >>= g) := by
  cases x with
  | error f => exact h
  | ok a => exact hg a h

theorem UnlessMalformed.mono {x : Except Fault α} (h : UnlessMalformed P x)
    (hPQ : ∀ a, P a → Q a) : UnlessMalformed Q x := by
  cases x with
  | error f => exact h
  | ok a => exact hPQ a h

def Tokens.IsBroken (ts : Tokens) : Prop :=
  ts.fault = some .malformedDocument ∧ ∀ t ∈ ts.list, t.kind ≠ .streamEnd

namespace Cursor

variable {c : Cursor} {x : Char} {s : List Char}

theorem peek_of_rest (h : c.rest = x :: s) : c.peek = x := by
  rw [peek, h]
  rfl

theorem rest_next (c : Cursor) : c.next.rest = c.rest.tail := by
  unfold next
  split
  · next h => rw [h]; rfl
  · next h =>
    rw [h]
    split <;> rfl

theorem rest_skip (n : Nat) (c : Cursor) : (c.skip n).rest = c.rest.drop n := by
  induction n generalizing c with
  | zero => rfl
  | succ n ih => rw [skip, ih, rest_next, List.drop_tail]

theorem rest_takeWhile (c : Cursor) (p : Char → Bool) :
    (c.takeWhile p).2.rest = c.rest.dropWhile p := by
  have hsplit : (c.rest.takeWhile p ++ c.rest.dropWhile p).drop (c.rest.takeWhile p).length =
      c.rest.dropWhile p := List.drop_left
  rw [List.takeWhile_append_dropWhile] at hsplit
  exact (rest_skip _ c).trans hsplit

theorem takeWhile_eq_self {p : Char → Bool} (h : ∀ x ∈ c.rest.head?, p x = false) :
    c.takeWhile p = ([], c) := by
  have hnone : c.rest.takeWhile p = [] := by
    cases hc : c.rest with
    | nil => rfl
    | cons x s =>
      rw [hc] at h
      rw [List.takeWhile_cons, h x rfl, if_neg Bool.false_ne_true]
  rw [takeWhile, hnone]
  rfl

end Cursor
end BlockAudit.Yaml
