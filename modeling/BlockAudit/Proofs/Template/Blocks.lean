import BlockAudit.Proofs.Template.Strip
import BlockAudit.Proofs.Value.Unmarked

namespace BlockAudit.Template

open Value

def Yields {α : Type} (P : α → Prop) (x : Except Fault (List α)) : Prop :=
  ∀ as, x = .ok as → ∀ a ∈ as, P a

theorem yields_ok {α : Type} {P : α → Prop} {as : List α} (h : ∀ a ∈ as, P a) :
    Yields P (.ok as) := by
  intro bs hbs
  cases hbs
  exact h

theorem Yields.append {α : Type} {P : α → Prop} {x y : Except Fault (List α)} (hx : Yields P x)
    (hy : Yields P y) : Yields P (do return (← x) ++ (← y)) := by
  intro cs hcs
  cases x with
  | error f => cases hcs
  | ok as =>
    cases y with
    | error f => cases hcs
    | ok bs =>
      cases hcs
      intro a ha
      exact (List.mem_append.mp ha).elim (hx as rfl a) (hy bs rfl a)

theorem Yields.map {α β : Type} {P : α → Prop} {Q : β → Prop} {x : Except Fault (List α)}
    {g : α → β} (hx : Yields P x) (hg : ∀ a, P a → Q (g a)) : Yields Q (x.map (·.map g)) := by
  intro bs hbs
  cases x with
  | error f => cases hbs
  | ok as =>
    cases hbs
    intro b hb
    obtain ⟨a, ha, rfl⟩ := List.mem_map.mp hb
    exact hg a (hx as rfl a ha)

theorem isMarkerKey_of_markerKey {k : Value} {hidden : Bool} (h : markerKey k = .ok hidden) :
    isMarkerKey k = hidden := by
  cases k <;> cases h
  rfl

theorem yields_entry {α : Type} {P : α → Prop} {k : Value} {x y : Except Fault (List α)}
    (hx : Yields P x) (hy : isMarkerKey k = false → Yields P y) :
    Yields P (do if ← markerKey k then x else y) := by
  cases hk : markerKey k with
  | error f =>
    intro as has
    cases has
  | ok hidden =>
    cases hidden with
    | true => exact hx
    | false => exact hy (isMarkerKey_of_markerKey hk)

variable {P : Value → Prop}

theorem body_of_mem_bodies (hP : Inherited P) {labels : List String} {v : Value} (hv : P v) :
    ∀ l ∈ bodies labels v, P (.map l.body) := by
  intro l hl
  obtain ⟨item, hitem, hmap⟩ := List.mem_filterMap.mp hl
  obtain ⟨es, hes, rfl⟩ := Option.map_eq_some_iff.mp hmap
  exact hP.spread hv hitem hes

theorem yields_labelledItems {vs : List Value} (h : ∀ v ∈ vs, ∀ count labels,
    Yields (fun l => P (.map l.body)) (labelled count labels v)) (count : Nat)
    (labels : List String) :
    Yields (fun l => P (.map l.body)) (labelledItems count labels vs) := by
  induction vs with
  | nil => exact yields_ok (by simp)
  | cons v vs ih =>
    obtain ⟨hv, hvs⟩ := List.forall_mem_cons.mp h
    exact (hv count labels).append (ih hvs)

theorem yields_labelledEntries {es : List Entry}
    (h : ∀ e ∈ es, isMarkerKey e.1 = false → ∀ count labels,
      Yields (fun l => P (.map l.body)) (labelled count labels e.2)) (count : Nat)
    (labels : List String) :
    Yields (fun l => P (.map l.body)) (labelledEntries count labels es) := by
  induction es with
  | nil => exact yields_ok (by simp)
  | cons e es ih =>
    obtain ⟨k, v⟩ := e
    obtain ⟨hv, hvs⟩ := List.forall_mem_cons.mp h
    apply yields_entry (ih hvs)
    intro hk
    exact (hv hk (count - 1) (labels ++ [k.text])).append (ih hvs)

theorem yields_labelled (hP : Inherited P) {v : Value} (hv : P v) (count : Nat)
    (labels : List String) :
    Yields (fun l => P (.map l.body)) (labelled count labels v) := by
  induction v generalizing count labels with
  | leaf v hleaf =>
    cases v <;> first | exact yields_ok (by simp) | cases hleaf
  | pair v w => exact yields_ok (by simp)
  | list vs ih =>
    have hitems := hP.item hv
    rw [labelled]
    split
    · exact yields_ok (body_of_mem_bodies hP hv)
    · exact yields_labelledItems (fun v hm => ih v hm (hitems v hm)) count labels
  | map es ih =>
    have hentries := hP.entry hv
    rw [labelled]
    split
    · exact yields_ok (body_of_mem_bodies hP hv)
    · exact yields_labelledEntries (fun e he hk => ih e he (hentries e he hk)) count labels

theorem yields_blocks (hP : Inherited P) (filename : String) (modulePath : List String)
    {es : List Entry} (hes : ∀ e ∈ es, isMarkerKey e.1 = false → P e.2) :
    Yields (fun b => P (.map b.body)) (blocks filename modulePath es) := by
  induction es with
  | nil => exact yields_ok (by simp)
  | cons e es ih =>
    obtain ⟨k, v⟩ := e
    obtain ⟨hv, hvs⟩ := List.forall_mem_cons.mp hes
    apply yields_entry (ih hvs)
    intro hk
    have htype : Yields (fun b => P (.map b.body))
        (blocksOfType filename modulePath k.text v) := by
      unfold blocksOfType
      cases labelCount? k.text with
      | none => exact yields_ok (by simp)
      | some count => exact (yields_labelled hP (hv hk) count []).map fun _ h => h
    exact htype.append (ih hvs)

theorem blocks_modulePath (filename : String) (modulePath : List String) (es : List Entry) :
    blocks filename modulePath es =
      (blocks filename [] es).map (·.map fun b => { b with modulePath := modulePath }) := by
  induction es with
  | nil => rfl
  | cons e es ih =>
    obtain ⟨k, v⟩ := e
    have htype : blocksOfType filename modulePath k.text v =
        (blocksOfType filename [] k.text v).map
          (·.map fun b => { b with modulePath := modulePath }) := by
      unfold blocksOfType
      cases labelCount? k.text with
      | none => rfl
      | some count =>
        dsimp only
        cases labelled count [] v with
        | error f => rfl
        | ok ls => simp [Except.map, block]
    rw [blocks, blocks, ih, htype]
    cases markerKey k with
    | error f => rfl
    | ok hidden =>
      cases hidden with
      | true => rfl
      | false =>
        cases blocksOfType filename [] k.text v with
        | error f => rfl
        | ok found =>
          cases blocks filename [] es with
          | error f => rfl
          | ok rest => simp [Except.map, bind, Except.bind, pure, Except.pure]

end BlockAudit.Template
