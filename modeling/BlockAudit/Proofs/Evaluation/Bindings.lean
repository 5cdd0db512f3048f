import BlockAudit.Evaluation.Bindings

namespace BlockAudit.Bindings

variable {σ τ : Bindings}

theorem find?_bind (σ : Bindings) (name n : String) (v : Value) :
    (σ.bind name v).find? n = if name = n then some v else σ.find? n := by
  induction σ with
  | nil => rfl
  | cons entry σ ih =>
    obtain ⟨m, w⟩ := entry
    by_cases hm : m = name
    · subst hm
      by_cases hn : m = n <;> simp [bind, find?, hn]
    · by_cases hn : m = n
      · subst hn
        simp [bind, find?, hm, Ne.symm hm]
      · simp [bind, find?, hm, hn, ih]

theorem resolve_congr {v : Value} (h : ∀ s, v = .str s → σ.find? s = τ.find? s) :
    σ.resolve v = τ.resolve v := by
  cases v with
  | str s => simp only [resolve, h s rfl]
  | _ => rfl

theorem resolveItems_congr {v : Value} (h : ∀ s, v = .str s → σ.find? s = τ.find? s)
    (hitems : ∀ vs, v = .list vs → ∀ s, .str s ∈ vs → σ.find? s = τ.find? s) :
    σ.resolveItems v = τ.resolveItems v := by
  cases v with
  | list vs =>
    simp only [resolveItems, Value.list.injEq, List.map_inj_left]
    intro w hw
    exact resolve_congr fun s hs => hitems vs rfl s (hs ▸ hw)
  | str s => exact resolve_congr h
  | _ => rfl

theorem resolve_nil (v : Value) : resolve [] v = v := by
  cases v <;> rfl

theorem resolveItems_nil (v : Value) : resolveItems [] v = v := by
  cases v with
  | list vs => rw [resolveItems, List.map_congr_left fun v _ => resolve_nil v, List.map_id']
  | _ => rfl

end BlockAudit.Bindings
