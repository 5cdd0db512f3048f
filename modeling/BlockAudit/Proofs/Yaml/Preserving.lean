import BlockAudit.Fault

namespace BlockAudit.Yaml

variable {σ α β : Type} {I : σ → Prop} {F : Fault → Prop}

/-- From a state with the invariant the computation comes to another one, or fails in such a way. -/
def Preserves (I : σ → Prop) (F : Fault → Prop) (x : StateT σ (Except Fault) α) : Prop :=
  ∀ st, I st →
    match x.run st with
    | .ok r => I r.2
    | .error f => F f

theorem preserves_pure (a : α) : Preserves I F (pure a : StateT σ (Except Fault) α) :=
  fun _ h => h

theorem preserves_throw {f : Fault} (h : F f) :
    Preserves I F (throw f : StateT σ (Except Fault) α) :=
  fun _ _ => h

theorem Preserves.bind {x : StateT σ (Except Fault) α} {g : α → StateT σ (Except Fault) β}
    (h : Preserves I F x) (hg : ∀ a, Preserves I F (g a)) : Preserves I F (x >>= g) := by
  intro st hst
  have hx := h st hst
  rw [StateT.run_bind]
  cases hr : x.run st with
  | ok r =>
    rw [hr] at hx
    exact hg r.1 r.2 hx
  | error f =>
    rw [hr] at hx
    exact hx

theorem preserves_get : Preserves I F (get : StateT σ (Except Fault) σ) := fun _ h => h

theorem preserves_get_bind {g : σ → StateT σ (Except Fault) β}
    (h : ∀ st, I st → Preserves I F (g st)) : Preserves I F (get >>= g) :=
  fun st hst => h st hst st hst

theorem preserves_set {st : σ} (h : I st) :
    Preserves I F (set st : StateT σ (Except Fault) PUnit) :=
  fun _ _ => h

theorem preserves_modify {f : σ → σ} (h : ∀ st, I st → I (f st)) :
    Preserves I F (modify f : StateT σ (Except Fault) PUnit) :=
  fun st hst => h st hst

theorem preserves_ite {c : Prop} [Decidable c] {x y : StateT σ (Except Fault) α}
    (hx : Preserves I F x) (hy : Preserves I F y) : Preserves I F (if c then x else y) := by
  split
  · exact hx
  · exact hy

theorem preserves_forM {f : β → StateT σ (Except Fault) PUnit} {bs : List β}
    (h : ∀ b ∈ bs, Preserves I F (f b)) : Preserves I F (bs.forM f) := by
  induction bs with
  | nil => exact preserves_pure _
  | cons b bs ih =>
    rw [List.forall_mem_cons] at h
    exact h.1.bind fun _ => ih h.2

end BlockAudit.Yaml
