import BlockAudit.Evaluation.Evaluate
import Mathlib.Data.List.Forall2

namespace BlockAudit

inductive SameOutcome {α β : Type} (V : α → β → Prop) : Except Fault α → Except Fault β → Prop
  | ok {a : α} {b : β} (h : V a b) : SameOutcome V (.ok a) (.ok b)
  | error (f : Fault) : SameOutcome V (.error f) (.error f)

theorem SameOutcome.eq {α : Type} {x y : Except Fault α} (h : SameOutcome Eq x y) : x = y := by
  cases h with
  | ok h => rw [h]
  | error f => rfl

theorem SameOutcome.refl {α : Type} {V : α → α → Prop} (hV : ∀ a, V a a) (x : Except Fault α) :
    SameOutcome V x x := by
  cases x with
  | ok a => exact .ok (hV a)
  | error f => exact .error f

theorem SameOutcome.mono {α β : Type} {V W : α → β → Prop} {x : Except Fault α}
    {y : Except Fault β} (h : SameOutcome V x y) (hVW : ∀ a b, V a b → W a b) :
    SameOutcome W x y := by
  cases h with
  | ok h => exact .ok (hVW _ _ h)
  | error f => exact .error f

theorem SameOutcome.map {α β γ δ : Type} {V : α → β → Prop} {W : γ → δ → Prop}
    {x : Except Fault α} {y : Except Fault β} {f : α → γ} {g : β → δ} (h : SameOutcome V x y)
    (hf : ∀ a b, V a b → W (f a) (g b)) : SameOutcome W (x.map f) (y.map g) := by
  cases h with
  | ok h => exact .ok (hf _ _ h)
  | error f => exact .error f

theorem SameOutcome.bind {α β γ δ : Type} {V : α → β → Prop} {W : γ → δ → Prop}
    {x : Except Fault α} {y : Except Fault β} {f : α → Except Fault γ} {g : β → Except Fault δ}
    (h : SameOutcome V x y) (hf : ∀ a b, V a b → SameOutcome W (f a) (g b)) :
    SameOutcome W (x >>= f) (y >>= g) := by
  cases h with
  | ok h => exact hf _ _ h
  | error f => exact .error f

theorem optionRel_refl {α : Type} (o : Option α) : Option.Rel Eq o o := by
  cases o with
  | none => exact .none
  | some a => exact .some rfl

namespace Evaluation

variable {α β γ δ : Type} {R : Trace → Trace → Prop} {V : α → β → Prop} {W : γ → δ → Prop}

def after (e : Evaluation α) (s : Trace) : Except Fault α × Trace :=
  StateT.run (m := Id) (ExceptT.run e) s

theorem after_lift_bind {x : Except Fault α} {a : α} (h : x = .ok a) (g : α → Evaluation β)
    (s : Trace) : ((liftM x : Evaluation α) >>= g).after s = (g a).after s := by
  rw [h]
  rfl

theorem after_bindings_bind (g : Bindings → Evaluation α) (s : Trace) :
    (bindings >>= g).after s = (g s.bindings).after s := rfl

def Related (R : Trace → Trace → Prop) (V : α → β → Prop) (e : Evaluation α) (f : Evaluation β) :
    Prop :=
  ∀ s t, R s t → SameOutcome V (e.after s).1 (f.after t).1 ∧ R (e.after s).2 (f.after t).2

theorem related_pure {a : α} {b : β} (h : V a b) :
    Related R V (pure a : Evaluation α) (pure b) := fun _ _ hR => ⟨.ok h, hR⟩

theorem related_lift {x : Except Fault α} {y : Except Fault β} (h : SameOutcome V x y) :
    Related R V (liftM x : Evaluation α) (liftM y) := fun _ _ hR => ⟨h, hR⟩

theorem Related.mono {U : α → β → Prop} {e : Evaluation α} {f : Evaluation β}
    (h : Related R V e f) (hVU : ∀ a b, V a b → U a b) : Related R U e f := by
  intro s t hR
  obtain ⟨hout, htrace⟩ := h s t hR
  exact ⟨hout.mono hVU, htrace⟩

theorem Related.bind {e : Evaluation α} {f : Evaluation β} {g : α → Evaluation γ}
    {k : β → Evaluation δ} (h : Related R V e f) (hg : ∀ a b, V a b → Related R W (g a) (k b)) :
    Related R W (e >>= g) (f >>= k) := by
  intro s t hR
  obtain ⟨hout, htrace⟩ := h s t hR
  have hleft : (e >>= g).after s = (ExceptT.bindCont g (e.after s).1).run (e.after s).2 := rfl
  have hright : (f >>= k).after t = (ExceptT.bindCont k (f.after t).1).run (f.after t).2 := rfl
  rw [hleft, hright]
  generalize e.after s = x at *
  generalize f.after t = y at *
  obtain ⟨x, s'⟩ := x
  obtain ⟨y, t'⟩ := y
  cases hout with
  | ok hV => exact hg _ _ hV s' t' htrace
  | error f => exact ⟨.error f, htrace⟩

theorem related_eq (e : Evaluation α) : Related Eq Eq e e := by
  rintro s _ rfl
  exact ⟨.refl (fun _ => rfl) _, rfl⟩

theorem related_modify {g k : Trace → Trace} (h : ∀ s t, R s t → R (g s) (k t)) :
    Related R Eq (modify g : Evaluation Unit) (modify k) := fun s t hR => ⟨.ok rfl, h s t hR⟩

theorem related_bindings {U : Bindings → Bindings → Prop}
    (h : ∀ s t, R s t → U s.bindings t.bindings) : Related R U bindings bindings :=
  fun s t hR => ⟨.ok (h s t hR), hR⟩

theorem related_ite {e e' : Evaluation α} {f f' : Evaluation β} {p q : Bool} (hpq : p = q)
    (h : Related R V e f) (h' : Related R V e' f') :
    Related R V (if p then e else e') (if q then f else f') := by
  subst hpq
  cases p
  · exact h'
  · exact h

theorem related_mapM {g : γ → Evaluation α} {k : δ → Evaluation β} {cs : List γ} {ds : List δ}
    (h : List.Forall₂ (fun c d => Related R V (g c) (k d)) cs ds) :
    Related R (List.Forall₂ V) (cs.mapM g) (ds.mapM k) := by
  induction h with
  | nil => exact related_pure .nil
  | cons hcd _ ih =>
    rw [List.mapM_cons, List.mapM_cons]
    exact hcd.bind fun a b hab => ih.bind fun as bs habs => related_pure (.cons hab habs)

theorem related_forM {g : γ → Evaluation Unit} {k : γ → Evaluation Unit}
    (h : ∀ c, Related R Eq (g c) (k c)) (cs : List γ) :
    Related R Eq (cs.forM g) (cs.forM k) := by
  induction cs with
  | nil => exact related_pure rfl
  | cons c cs ih => exact (h c).bind fun _ _ _ => ih

end Evaluation
end BlockAudit
