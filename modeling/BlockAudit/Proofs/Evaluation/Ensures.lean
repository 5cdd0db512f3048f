import BlockAudit.Proofs.Evaluation.Related

namespace BlockAudit.Evaluation

variable {α β γ : Type} {I : Bindings → Prop} {F : Fault → Prop} {P : α → Prop} {Q : β → Prop}

def EndsIn (I : Bindings → Prop) (F : Fault → Prop) (P : α → Prop) : Except Fault α × Trace → Prop
  | (.ok a, t) => P a ∧ I t.bindings
  | (.error f, t) => F f ∧ I t.bindings

def Ensures (I : Bindings → Prop) (F : Fault → Prop) (P : α → Prop) (e : Evaluation α) : Prop :=
  ∀ s, I s.bindings → EndsIn I F P (e.after s)

theorem EndsIn.keeps {x : Except Fault α × Trace} (h : EndsIn I F P x) : I x.2.bindings := by
  rcases x with ⟨_ | _, t⟩
  · exact h.2
  · exact h.2

theorem EndsIn.exists_ok {x : Except Fault α × Trace} (h : EndsIn I (fun _ => False) P x) :
    ∃ a, x.1 = .ok a ∧ P a := by
  rcases x with ⟨f | a, t⟩
  · exact h.1.elim
  · exact ⟨a, rfl, h.1⟩

theorem after_bind (e : Evaluation α) (g : α → Evaluation β) (s : Trace) :
    (e >>= g).after s = match e.after s with
      | (.ok a, t) => (g a).after t
      | (.error f, t) => (.error f, t) := by
  change (ExceptT.bindCont g (e.after s).1).run (e.after s).2 = _
  rcases e.after s with ⟨_ | _, t⟩ <;> rfl

theorem after_bind_eq_ok {e : Evaluation α} {g : α → Evaluation β} {s t : Trace} {b : β} :
    (e >>= g).after s = (.ok b, t) ↔
      ∃ a u, e.after s = (.ok a, u) ∧ (g a).after u = (.ok b, t) := by
  rw [after_bind]
  rcases e.after s with ⟨f | a, u⟩ <;> simp

theorem ensures_pure {a : α} (h : P a) : Ensures I F P (pure a : Evaluation α) :=
  fun _ hs => ⟨h, hs⟩

theorem ensures_lift {x : Except Fault α} (hvalue : ∀ a, x = .ok a → P a)
    (hfault : ∀ f, x = .error f → F f) : Ensures I F P (liftM x : Evaluation α) := by
  intro s hs
  cases x with
  | ok a => exact ⟨hvalue a rfl, hs⟩
  | error f => exact ⟨hfault f rfl, hs⟩

theorem Ensures.bind {e : Evaluation α} {g : α → Evaluation β} (h : Ensures I F P e)
    (hg : ∀ a, P a → Ensures I F Q (g a)) : Ensures I F Q (e >>= g) := by
  intro s hs
  have he := h s hs
  rw [after_bind]
  generalize e.after s = x at he ⊢
  rcases x with ⟨f | a, t⟩
  · exact he
  · exact hg a he.1 t he.2

theorem ensures_note (n : Notice) : Ensures I F (fun _ => True) (note n) :=
  fun _ hs => ⟨trivial, hs⟩

theorem ensures_bindName {name : String} {v : Value} (h : ∀ σ, I σ → I (σ.bind name v)) :
    Ensures I F (fun _ => True) (Evaluation.bind name v) :=
  fun s hs => ⟨trivial, h s.bindings hs⟩

theorem ensures_bindings : Ensures I F I bindings := fun _ hs => ⟨hs, hs⟩

theorem ensures_ite {e e' : Evaluation α} {p : Bool} (h : Ensures I F P e)
    (h' : Ensures I F P e') : Ensures I F P (if p then e else e') := by
  cases p
  · exact h'
  · exact h

theorem ensures_forM {g : γ → Evaluation Unit} (h : ∀ c, Ensures I F (fun _ => True) (g c))
    (cs : List γ) : Ensures I F (fun _ => True) (cs.forM g) := by
  induction cs with
  | nil => exact ensures_pure trivial
  | cons c cs ih => exact (h c).bind fun _ _ => ih

theorem ensures_mapM {g : γ → Evaluation α} {cs : List γ} (h : ∀ c ∈ cs, Ensures I F P (g c)) :
    Ensures I F (fun as => ∀ a ∈ as, P a) (cs.mapM g) := by
  induction cs with
  | nil => exact ensures_pure (by simp)
  | cons c cs ih =>
    obtain ⟨hc, hcs⟩ := List.forall_mem_cons.mp h
    rw [List.mapM_cons]
    apply hc.bind
    intro a ha
    apply (ih hcs).bind
    intro as has
    exact ensures_pure (List.forall_mem_cons.mpr ⟨ha, has⟩)

end BlockAudit.Evaluation
