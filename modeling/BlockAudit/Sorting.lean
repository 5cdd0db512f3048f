/-!
Sorting by insertion. Items that are equal in the order keep their places relative to each other.
-/

namespace BlockAudit

variable {α : Type}

def insertSorted (precedes : α → α → Bool) (x : α) : List α → List α
  | [] => [x]
  | y :: ys => if precedes x y then x :: y :: ys else y :: insertSorted precedes x ys

/-- `precedes` is a strict order. -/
def sorted (precedes : α → α → Bool) (xs : List α) : List α :=
  xs.foldl (fun ys x => insertSorted precedes x ys) []

end BlockAudit
