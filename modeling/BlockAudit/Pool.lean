/-!
Pools of workers. The workers complete the tasks in an order of their own, and every outcome is put
where its task stood.
-/

namespace BlockAudit

/-- The order in which the tasks are completed, for any number of tasks. How many workers there are,
and how long a task takes, shows in this order only. -/
structure Schedule where
  order : Nat → List Nat
  order_perm : ∀ n, (order n).Perm (List.range n)

namespace Schedule

def inTurn : Schedule := ⟨List.range, fun _ => .refl _⟩

end Schedule

namespace Pool

variable {α β : Type}

def completed (f : α → β) (tasks : List α) (order : List Nat) : List (Nat × β) :=
  order.filterMap fun i => tasks[i]?.map fun a => (i, f a)

def arranged (count : Nat) (done : List (Nat × β)) : List β :=
  (List.range count).filterMap fun i => done.lookup i

end Pool
end BlockAudit
