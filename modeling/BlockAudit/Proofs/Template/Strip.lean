import BlockAudit.Proofs.Value.Strip
import BlockAudit.Template.Basic
/-!
Templates with and without markers declare the same blocks, apart from the markers in their bodies and
the lines. Main statement: `blocks_strip`.
-/

namespace BlockAudit.Template

open Value

def Labelled.strip (l : Labelled) : Labelled := { l with body := stripEntries l.body }

theorem bodies_strip (labels : List String) (v : Value) :
    bodies labels v.strip = (bodies labels v).map Labelled.strip := by
  rw [bodies, bodies, spread_strip, List.filterMap_map, List.map_filterMap]
  refine congrArg (v.spread.filterMap ·) (funext fun item => ?_)
  rw [Function.comp_apply, entries?_strip]
  cases item.entries? <;> rfl

def Agrees {α β : Type} (f : α → β) (x : Except Fault (List α)) (y : Except Fault (List β)) :
    Prop :=
  ∃ as, x = .ok as ∧ y = .ok (as.map f)

theorem agrees_nil {α β : Type} (f : α → β) : Agrees f (.ok []) (.ok []) := ⟨[], rfl, rfl⟩

theorem Agrees.append {α β : Type} {f : α → β} {x z : Except Fault (List α)}
    {y w : Except Fault (List β)} (h : Agrees f x y) (h' : Agrees f z w) :
    Agrees f (do return (← x) ++ (← z)) (do return (← y) ++ (← w)) := by
  obtain ⟨as, rfl, rfl⟩ := h
  obtain ⟨bs, rfl, rfl⟩ := h'
  exact ⟨as ++ bs, rfl, by rw [List.map_append]; rfl⟩

theorem Agrees.map {α β γ δ : Type} {f : α → β} {f' : γ → δ} {x : Except Fault (List α)}
    {y : Except Fault (List β)} {g : α → γ} {g' : β → δ} (h : Agrees f x y)
    (hg : ∀ a, g' (f a) = f' (g a)) : Agrees f' (x.map (·.map g)) (y.map (·.map g')) := by
  obtain ⟨as, rfl, rfl⟩ := h
  refine ⟨as.map g, rfl, ?_⟩
  simp only [Except.map, List.map_map, Except.ok.injEq]
  exact List.map_congr_left fun a _ => hg a

theorem agrees_labelledItems {vs : List Value} (h : ∀ v ∈ vs, ∀ count labels,
    Agrees Labelled.strip (labelled count labels v) (labelled count labels v.strip))
    (count : Nat) (labels : List String) : Agrees Labelled.strip
      (labelledItems count labels vs) (labelledItems count labels (stripItems vs)) := by
  induction vs with
  | nil => exact agrees_nil _
  | cons v vs ih =>
    obtain ⟨hv, hvs⟩ := List.forall_mem_cons.mp h
    exact (hv count labels).append (ih hvs)

theorem agrees_labelledEntries {es : List Entry} (hkeys : ∀ e ∈ es, ∃ s, e.1 = .str s)
    (h : ∀ e ∈ es, ∀ count labels,
      Agrees Labelled.strip (labelled count labels e.2) (labelled count labels e.2.strip))
    (count : Nat) (labels : List String) : Agrees Labelled.strip
      (labelledEntries count labels es) (labelledEntries count labels (stripEntries es)) := by
  induction es with
  | nil => exact agrees_nil _
  | cons e es ih =>
    obtain ⟨k, v⟩ := e
    obtain ⟨⟨s, rfl⟩, hks⟩ := List.forall_mem_cons.mp hkeys
    obtain ⟨hv, hvs⟩ := List.forall_mem_cons.mp h
    rw [labelledEntries, markerKey_str, stripEntries, isMarkerKey]
    cases hmarker : isMarker s with
    | true => exact ih hks hvs
    | false =>
      rw [if_neg Bool.false_ne_true, labelledEntries, markerKey_str, hmarker]
      exact (hv (count - 1) (labels ++ [s])).append (ih hks hvs)

theorem agrees_labelled {v : Value} (h : v.keyedByText = true) (count : Nat)
    (labels : List String) :
    Agrees Labelled.strip (labelled count labels v) (labelled count labels v.strip) := by
  induction v generalizing count labels with
  | leaf v hleaf =>
    rw [strip_leaf hleaf]
    cases v <;> first | exact agrees_nil _ | cases hleaf
  | list vs ih =>
    have hitems := (everyPart_list.mp h).2
    rw [strip, labelled, labelled, ← strip]
    split
    · exact ⟨_, rfl, congrArg Except.ok (bodies_strip labels (.list vs))⟩
    · exact agrees_labelledItems (fun v hv => ih v hv (hitems v hv)) count labels
  | pair v w => exact agrees_nil _
  | map es ih =>
    obtain ⟨hkeys, hentries⟩ := keyedByText_map.mp h
    rw [strip, labelled, labelled, ← strip]
    split
    · exact ⟨_, rfl, congrArg Except.ok (bodies_strip labels (.map es))⟩
    · exact agrees_labelledEntries (fun e he => key_of_textKeys hkeys he)
        (fun e he => ih e he (hentries e he)) count labels

def stripped (filename : String) (b : Block) : Block :=
  { b with body := stripEntries b.body, location := .file filename }

theorem block_strip (filename : String) (modulePath : List String) (type : String) (l : Labelled) :
    block filename modulePath type l.strip =
      stripped filename (block filename modulePath type l) := by
  rw [block, Labelled.strip, lookup?_stripEntries_of_marker rfl,
    lookup?_stripEntries_of_marker rfl]
  rfl

theorem agrees_blocksOfType (filename : String) (modulePath : List String) (type : String)
    {v : Value} (h : v.keyedByText = true) : Agrees (stripped filename)
      (blocksOfType filename modulePath type v) (blocksOfType filename modulePath type v.strip) := by
  rw [blocksOfType, blocksOfType]
  cases labelCount? type with
  | none => exact agrees_nil _
  | some count =>
    exact (agrees_labelled h count []).map (block_strip filename modulePath type)

theorem blocks_strip (filename : String) (modulePath : List String) {es : List Entry}
    (h : (Value.map es).keyedByText = true) : Agrees (stripped filename)
      (blocks filename modulePath es) (blocks filename modulePath (stripEntries es)) := by
  obtain ⟨hkeys, hentries⟩ := keyedByText_map.mp h
  have htexts : ∀ e ∈ es, ∃ s, e.1 = .str s := fun e he => key_of_textKeys hkeys he
  clear h hkeys
  induction es with
  | nil => exact agrees_nil _
  | cons e es ih =>
    obtain ⟨k, v⟩ := e
    obtain ⟨⟨s, rfl⟩, hks⟩ := List.forall_mem_cons.mp htexts
    obtain ⟨hv, hvs⟩ := List.forall_mem_cons.mp hentries
    rw [blocks, markerKey_str, stripEntries, isMarkerKey]
    cases hmarker : isMarker s with
    | true => exact ih hvs hks
    | false =>
      rw [if_neg Bool.false_ne_true, blocks, markerKey_str, hmarker]
      exact (agrees_blocksOfType filename modulePath s hv).append (ih hvs hks)

end BlockAudit.Template
