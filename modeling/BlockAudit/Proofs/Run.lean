import BlockAudit.Journal
import BlockAudit.Proofs.Except
/-!
Runs whose outcome does not depend on what was noted down before them.
-/

namespace BlockAudit.Run

variable {α β : Type}

def Gives (r : Run α) (e : Except Failure α) : Prop :=
  ∀ j : Journal, (StateT.run (m := Id) (ExceptT.run r) j).1 = e

theorem Gives.start_fst {r : Run α} {e : Except Failure α} (h : r.Gives e) : r.start.1 = e := h _

theorem Gives.unique {r : Run α} {e e' : Except Failure α} (h : r.Gives e) (h' : r.Gives e') :
    e = e' := (h ⟨[], []⟩).symm.trans (h' ⟨[], []⟩)

theorem gives_pure (a : α) : (pure a : Run α).Gives (.ok a) := fun _ => rfl

theorem gives_throw (f : Failure) : (throw f : Run α).Gives (.error f) := fun _ => rfl

theorem gives_note (n : Notice) : (note n).Gives (.ok ()) := fun _ => rfl

theorem gives_print (line : String) : (print line).Gives (.ok ()) := fun _ => rfl

theorem gives_ofFault (e : Except Fault α) : (ofFault e).Gives (e.mapError .fault) := by
  cases e with
  | ok a => exact gives_pure a
  | error f => exact gives_throw _

theorem gives_lift {x e : Except Failure α} (h : x = e) : (liftM x : Run α).Gives e := by
  subst h
  cases x with
  | ok a => exact gives_pure a
  | error f => exact gives_throw f

theorem run_bind (r : Run α) (f : α → Run β) (j : Journal) :
    StateT.run (m := Id) (ExceptT.run (r >>= f)) j =
      match StateT.run (m := Id) (ExceptT.run r) j with
      | (.ok a, j') => StateT.run (m := Id) (ExceptT.run (f a)) j'
      | (.error x, j') => (.error x, j') := by
  have hrun : StateT.run (m := Id) (ExceptT.run (r >>= f)) j =
      StateT.run (m := Id) (ExceptT.bindCont f (StateT.run (m := Id) (ExceptT.run r) j).1)
        (StateT.run (m := Id) (ExceptT.run r) j).2 := rfl
  rw [hrun]
  rcases StateT.run (m := Id) (ExceptT.run r) j with ⟨_ | _, j'⟩ <;> rfl

theorem Gives.exists_journal {r : Run α} {e : Except Failure α} (h : r.Gives e) (j : Journal) :
    ∃ j', StateT.run (m := Id) (ExceptT.run r) j = (e, j') :=
  ⟨(StateT.run (m := Id) (ExceptT.run r) j).2, Prod.ext (h j) rfl⟩

theorem Gives.bind_ok {r : Run α} {a : α} {f : α → Run β} {e : Except Failure β}
    (h : r.Gives (.ok a)) (hf : (f a).Gives e) : (r >>= f).Gives e := by
  intro j
  obtain ⟨j', hj⟩ := h.exists_journal j
  rw [run_bind, hj]
  exact hf j'

theorem Gives.bind_error {r : Run α} {x : Failure} (h : r.Gives (.error x)) (f : α → Run β) :
    (r >>= f).Gives (.error x) := by
  intro j
  obtain ⟨j', hj⟩ := h.exists_journal j
  rw [run_bind, hj]

theorem Gives.bind {r : Run α} {e : Except Failure α} {f : α → Run β} {g : α → Except Failure β}
    (h : r.Gives e) (hf : ∀ a, (f a).Gives (g a)) : (r >>= f).Gives (e >>= g) := by
  cases e with
  | ok a => exact h.bind_ok (hf a)
  | error x => exact h.bind_error f

theorem gives_forM {f : α → Run Unit} (h : ∀ a, (f a).Gives (.ok ())) (as : List α) :
    (as.forM f).Gives (.ok ()) := by
  induction as with
  | nil => exact gives_pure ()
  | cons a as ih => exact (h a).bind fun _ => ih

theorem gives_mapM {f : α → Run β} {g : α → Except Failure β} (h : ∀ a, (f a).Gives (g a))
    (as : List α) : (as.mapM f).Gives (as.mapM g) := by
  induction as with
  | nil => exact gives_pure []
  | cons a as ih =>
    rw [List.mapM_cons, List.mapM_cons]
    exact (h a).bind fun b => ih.bind fun bs => gives_pure (b :: bs)

def FailsOnly (P : Failure → Prop) (r : Run α) : Prop := ∃ e, r.Gives e ∧ ErrorsIn P e

section

variable {P Q : Failure → Prop} {r : Run α}

theorem Gives.failsOnly {e : Except Failure α} (h : r.Gives e) (he : ErrorsIn P e) :
    r.FailsOnly P :=
  ⟨e, h, he⟩

theorem failsOnly_pure (a : α) : (pure a : Run α).FailsOnly P :=
  (gives_pure a).failsOnly (errorsIn_ok a)

theorem failsOnly_throw {f : Failure} (h : P f) : (throw f : Run α).FailsOnly P :=
  (gives_throw f).failsOnly (errorsIn_error h)

theorem failsOnly_note (n : Notice) : (note n).FailsOnly P :=
  (gives_note n).failsOnly (errorsIn_ok ())

theorem failsOnly_print (line : String) : (print line).FailsOnly P :=
  (gives_print line).failsOnly (errorsIn_ok ())

theorem failsOnly_lift {x : Except Failure α} (h : ErrorsIn P x) :
    (liftM x : Run α).FailsOnly P :=
  (gives_lift rfl).failsOnly h

theorem FailsOnly.bind {f : α → Run β} (h : r.FailsOnly P) (hf : ∀ a, (f a).FailsOnly P) :
    (r >>= f).FailsOnly P := by
  obtain ⟨e, hgives, he⟩ := h
  cases e with
  | ok a =>
    obtain ⟨e', hgives', he'⟩ := hf a
    exact (hgives.bind_ok hgives').failsOnly he'
  | error x => exact (hgives.bind_error f).failsOnly (errorsIn_error (he x rfl))

theorem FailsOnly.mono (h : r.FailsOnly P) (hPQ : ∀ f, P f → Q f) : r.FailsOnly Q := by
  obtain ⟨e, hgives, he⟩ := h
  exact hgives.failsOnly (he.mono hPQ)

theorem FailsOnly.cases (h : r.FailsOnly P) :
    (∃ a, r.Gives (.ok a)) ∨ ∃ f, r.Gives (.error f) ∧ P f := by
  obtain ⟨e, hgives, he⟩ := h
  cases e with
  | ok a => exact Or.inl ⟨a, hgives⟩
  | error f => exact Or.inr ⟨f, hgives, he f rfl⟩

theorem FailsOnly.start {f : Failure} (h : r.FailsOnly P) (hf : r.start.1 = .error f) : P f := by
  obtain ⟨e, hgives, he⟩ := h
  exact he f (hgives.start_fst.symm.trans hf)

theorem failsOnly_forM {f : β → Run Unit} (h : ∀ b, (f b).FailsOnly P) (bs : List β) :
    (bs.forM f).FailsOnly P := by
  induction bs with
  | nil => exact failsOnly_pure ()
  | cons b bs ih => exact (h b).bind fun _ => ih

def Ends (P : Failure → Prop) (Q : α → Prop) (r : Run α) : Prop :=
  (∃ a, r.Gives (.ok a) ∧ Q a) ∨ ∃ f, r.Gives (.error f) ∧ P f

variable {R : α → Prop} {S : β → Prop}

theorem ends_pure {a : α} (h : R a) : (pure a : Run α).Ends P R := Or.inl ⟨a, gives_pure a, h⟩

theorem ends_throw {f : Failure} (h : P f) : (throw f : Run α).Ends P R :=
  Or.inr ⟨f, gives_throw f, h⟩

theorem ends_lift {x : Except Failure α} (h : ErrorsIn P x) :
    (liftM x : Run α).Ends P fun a => x = .ok a := by
  cases x with
  | ok a => exact Or.inl ⟨a, gives_lift rfl, rfl⟩
  | error f => exact Or.inr ⟨f, gives_lift rfl, h f rfl⟩

theorem Ends.bind {f : α → Run β} (h : r.Ends P R) (hf : ∀ a, R a → (f a).Ends P S) :
    (r >>= f).Ends P S := by
  rcases h with ⟨a, hgives, ha⟩ | ⟨x, hgives, hx⟩
  · rcases hf a ha with ⟨b, hgives', hb⟩ | ⟨y, hgives', hy⟩
    · exact Or.inl ⟨b, hgives.bind_ok hgives', hb⟩
    · exact Or.inr ⟨y, hgives.bind_ok hgives', hy⟩
  · exact Or.inr ⟨x, hgives.bind_error f, hx⟩

theorem FailsOnly.ends (h : r.FailsOnly P) : r.Ends P fun _ => True :=
  h.cases.imp_left fun ⟨a, hgives⟩ => ⟨a, hgives, trivial⟩

theorem Ends.failsOnly (h : r.Ends P R) : r.FailsOnly P := by
  rcases h with ⟨a, hgives, -⟩ | ⟨f, hgives, hf⟩
  · exact hgives.failsOnly (errorsIn_ok a)
  · exact hgives.failsOnly (errorsIn_error hf)

end

end BlockAudit.Run
