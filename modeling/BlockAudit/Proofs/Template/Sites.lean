import BlockAudit.Proofs.Template.Strip
/-!
Where a template declares its blocks: at the ends of label paths, which follow keys that are no markers
through lists of any depth. The blocks are those of all label paths, in the order of the document. Main
statement: `finds_blocks`.
-/

namespace BlockAudit.Template

open Value

/-- The body of a block in a template. The place numbers the entries and items that lead to it. -/
structure Site where
  place : List Nat
  type : String
  labels : List String
  body : List Entry

namespace Site

def below (i : Nat) (s : Site) : Site := { s with place := i :: s.place }

def labelledBy (l : String) (s : Site) : Site := { s with labels := l :: s.labels }

def under (labels : List String) (s : Site) : Labelled := ⟨labels ++ s.labels, s.body⟩

def block (filename : String) (modulePath : List String) (s : Site) : Block :=
  Template.block filename modulePath s.type (s.under [])

end Site

inductive LabelPath (type : String) : Nat → Value → Site → Prop where
  | body (es : List Entry) : LabelPath type 0 (.map es) ⟨[], type, [], es⟩
  | bodyItem {vs : List Value} {i : Nat} {es : List Entry} (h : vs[i]? = some (.map es)) :
      LabelPath type 0 (.list vs) ⟨[i], type, [], es⟩
  | item {n : Nat} {vs : List Value} {i : Nat} {v : Value} {s : Site} (h : vs[i]? = some v)
      (path : LabelPath type (n + 1) v s) : LabelPath type (n + 1) (.list vs) (s.below i)
  | entry {n : Nat} {es : List Entry} {i : Nat} {l : String} {v : Value} {s : Site}
      (h : es[i]? = some (.str l, v)) (hl : isMarker l = false) (path : LabelPath type n v s) :
      LabelPath type (n + 1) (.map es) ((s.labelledBy l).below i)

inductive Declares (es : List Entry) : Site → Prop where
  | intro {i : Nat} {type : String} {v : Value} {n : Nat} {s : Site}
      (h : es[i]? = some (.str type, v)) (hn : labelCount? type = some n)
      (path : LabelPath type n v s) : Declares es (s.below i)

structure Lists (P : Site → Prop) (sites : List Site) : Prop where
  sorted : sites.Pairwise fun s t => s.place < t.place
  mem_iff : ∀ s, s ∈ sites ↔ P s

def Among {α : Type} (Q : α → Site → Prop) (k : Nat) (xs : List α) (s : Site) : Prop :=
  ∃ i x t, xs[i]? = some x ∧ Q x t ∧ s = t.below (k + i)

def ItemBody (type : String) (v : Value) (s : Site) : Prop := ∃ es, v = .map es ∧ s = ⟨[], type, [], es⟩

def EntryPath (type : String) (n : Nat) (e : Entry) (s : Site) : Prop :=
  ∃ l t, e.1 = .str l ∧ isMarker l = false ∧ LabelPath type n e.2 t ∧ s = t.labelledBy l

def TypePath (e : Entry) (s : Site) : Prop :=
  ∃ type n, e.1 = .str type ∧ labelCount? type = some n ∧ LabelPath type n e.2 s

section

variable {α β : Type} {Q : α → Site → Prop} {P : Site → Prop} {k n : Nat} {x : α} {xs : List α}
  {s : Site} {sites ts : List Site} {type : String} {vs : List Value} {es : List Entry}

theorem among_cons :
    Among Q k (x :: xs) s ↔ (∃ t, Q x t ∧ s = t.below k) ∨ Among Q (k + 1) xs s := by
  constructor
  · rintro ⟨i, y, t, hi, ht, rfl⟩
    cases i with
    | zero =>
      cases hi
      exact Or.inl ⟨t, ht, rfl⟩
    | succ i => exact Or.inr ⟨i, y, t, hi, ht, by rw [Nat.add_right_comm, Nat.add_assoc]⟩
  · rintro (⟨t, ht, rfl⟩ | ⟨i, y, t, hi, ht, rfl⟩)
    · exact ⟨0, x, t, rfl, ht, rfl⟩
    · exact ⟨i + 1, y, t, hi, ht, by rw [Nat.add_right_comm, Nat.add_assoc]⟩

theorem lists_congr {P' : Site → Prop} (h : ∀ s, P s ↔ P' s) : Lists P sites ↔ Lists P' sites := by
  have hP : P = P' := funext fun s => propext (h s)
  rw [hP]

theorem lists_nil (Q : α → Site → Prop) (k : Nat) : Lists (Among Q k []) [] := by
  refine ⟨.nil, fun s => ⟨by simp, ?_⟩⟩
  rintro ⟨i, x, t, hi, -⟩
  simp at hi

theorem Lists.cons (h : Lists (Q x) sites) (h' : Lists (Among Q (k + 1) xs) ts) :
    Lists (Among Q k (x :: xs)) (sites.map (Site.below k) ++ ts) := by
  constructor
  · refine List.pairwise_append.mpr ⟨?_, h'.sorted, ?_⟩
    · refine List.pairwise_map.mpr (h.sorted.imp fun {s t} hst => ?_)
      exact List.cons_lt_cons_iff.mpr (Or.inr ⟨rfl, hst⟩)
    · intro s hs t ht
      obtain ⟨r, -, rfl⟩ := List.mem_map.mp hs
      obtain ⟨i, y, u, -, -, rfl⟩ := (h'.mem_iff t).mp ht
      exact List.cons_lt_cons_iff.mpr (Or.inl (by omega))
  · intro s
    rw [List.mem_append, List.mem_map, h'.mem_iff, among_cons]
    simp only [h.mem_iff, eq_comm]

theorem Lists.labelledBy (h : Lists P sites) (l : String) :
    Lists (fun s => ∃ t, P t ∧ s = t.labelledBy l) (sites.map (Site.labelledBy l)) := by
  refine ⟨List.pairwise_map.mpr h.sorted, fun s => ?_⟩
  simp only [List.mem_map, h.mem_iff, eq_comm]

def Finds (g : Site → β) (P : Site → Prop) (x : Except Fault (List β)) : Prop :=
  ∃ sites, Lists P sites ∧ x = .ok (sites.map g)

variable {g : Site → β} {y z : Except Fault (List β)}

theorem finds_congr {P' : Site → Prop} (h : ∀ s, P s ↔ P' s) : Finds g P y ↔ Finds g P' y :=
  exists_congr fun _ => and_congr_left' (lists_congr h)

theorem Finds.cons (h : Finds g (Q x) y) (h' : Finds g (Among Q (k + 1) xs) z)
    (hg : ∀ s i, g (s.below i) = g s) :
    Finds g (Among Q k (x :: xs)) (do return (← y) ++ (← z)) := by
  obtain ⟨sites, hsites, rfl⟩ := h
  obtain ⟨ts, hts, rfl⟩ := h'
  refine ⟨_, hsites.cons hts, ?_⟩
  have hmap : (sites.map (Site.below k)).map g = sites.map g := by simp [hg]
  rw [List.map_append, hmap]
  rfl

theorem finds_nothing (h : ∀ s, ¬P s) : Finds g P (.ok []) := ⟨[], ⟨.nil, by simp [h]⟩, rfl⟩

theorem Finds.skip (h : Finds g (Among Q (k + 1) xs) z) (hx : ∀ s, ¬Q x s) :
    Finds g (Among Q k (x :: xs)) z := by
  refine (finds_congr fun s => ?_).mpr h
  simp [among_cons, hx]

theorem labelPath_item_iff : LabelPath type (n + 1) (.list vs) s ↔
    Among (LabelPath type (n + 1)) 0 vs s := by
  constructor
  · intro h
    cases h with
    | item h path => exact ⟨_, _, _, h, path, by rw [Nat.zero_add]⟩
  · rintro ⟨i, v, t, hi, ht, rfl⟩
    rw [Nat.zero_add]
    exact .item hi ht

theorem labelPath_entry_iff : LabelPath type (n + 1) (.map es) s ↔
    Among (EntryPath type n) 0 es s := by
  constructor
  · intro h
    cases h with
    | entry h hl path => exact ⟨_, _, _, h, ⟨_, _, rfl, hl, path, rfl⟩, by rw [Nat.zero_add]⟩
  · rintro ⟨i, ⟨_, v⟩, _, hi, ⟨l, t, rfl, hl, ht, rfl⟩, rfl⟩
    rw [Nat.zero_add]
    exact .entry hi hl ht

theorem labelPath_bodyItem_iff : LabelPath type 0 (.list vs) s ↔ Among (ItemBody type) 0 vs s := by
  constructor
  · intro h
    cases h with
    | bodyItem h => exact ⟨_, _, _, h, ⟨_, rfl, rfl⟩, by rw [Nat.zero_add]; rfl⟩
  · rintro ⟨i, _, _, hi, ⟨es, rfl, rfl⟩, rfl⟩
    rw [Nat.zero_add]
    exact .bodyItem hi

theorem declares_iff : Declares es s ↔ Among TypePath 0 es s := by
  constructor
  · rintro ⟨h, hn, path⟩
    exact ⟨_, _, _, h, ⟨_, _, rfl, hn, path⟩, by rw [Nat.zero_add]⟩
  · rintro ⟨i, ⟨_, v⟩, t, hi, ⟨type, n, rfl, hn, ht⟩, rfl⟩
    rw [Nat.zero_add]
    exact .intro hi hn ht

end

theorem labelPath_type {type : String} {n : Nat} {v : Value} {s : Site} (h : LabelPath type n v s) :
    s.type = type := by
  induction h with
  | body es => rfl
  | bodyItem h => rfl
  | item h path ih => exact ih
  | entry h hl path ih => exact ih

theorem labelPath_labels {type : String} {n : Nat} {v : Value} {s : Site} (h : LabelPath type n v s) :
    s.labels.length = n ∧ ∀ l ∈ s.labels, isMarker l = false := by
  induction h with
  | body es => simp
  | bodyItem h => simp
  | item h path ih => exact ih
  | entry h hl path ih => exact ⟨congrArg Nat.succ ih.1, List.forall_mem_cons.mpr ⟨hl, ih.2⟩⟩

theorem finds_body (type : String) (labels : List String) (es : List Entry) :
    Finds (Site.under labels) (ItemBody type (.map es)) (.ok [⟨labels, es⟩]) := by
  refine ⟨[⟨[], type, [], es⟩], ⟨List.pairwise_singleton _ _, fun s => ?_⟩, ?_⟩
  · simp [ItemBody]
  · simp [Site.under]

theorem finds_bodies (type : String) (labels : List String) (vs : List Value) (k : Nat) :
    Finds (Site.under labels) (Among (ItemBody type) k vs) (.ok (bodies labels (.list vs))) := by
  induction vs generalizing k with
  | nil => exact ⟨[], lists_nil _ _, rfl⟩
  | cons v vs ih =>
    cases v with
    | map es => exact (finds_body type labels es).cons (ih (k + 1)) fun _ _ => rfl
    | _ => exact (ih (k + 1)).skip (by simp [ItemBody])

theorem finds_labelledItems {type : String} {n : Nat} {labels : List String} {vs : List Value}
    (h : ∀ v ∈ vs, Finds (Site.under labels) (LabelPath type (n + 1) v) (labelled (n + 1) labels v))
    (k : Nat) : Finds (Site.under labels) (Among (LabelPath type (n + 1)) k vs)
      (labelledItems (n + 1) labels vs) := by
  induction vs generalizing k with
  | nil => exact ⟨[], lists_nil _ _, rfl⟩
  | cons v vs ih =>
    obtain ⟨hv, hvs⟩ := List.forall_mem_cons.mp h
    exact hv.cons (ih hvs (k + 1)) fun _ _ => rfl

theorem Finds.labelledBy {P : Site → Prop} {labels : List String} {l : String}
    {x : Except Fault (List Labelled)} (h : Finds (Site.under (labels ++ [l])) P x) :
    Finds (Site.under labels) (fun s => ∃ t, P t ∧ s = t.labelledBy l) x := by
  obtain ⟨sites, hsites, rfl⟩ := h
  refine ⟨_, hsites.labelledBy l, ?_⟩
  simp [Site.under, Site.labelledBy]

theorem finds_labelledEntries {type : String} {n : Nat} {labels : List String} {es : List Entry}
    (hkeys : ∀ e ∈ es, ∃ s, e.1 = .str s)
    (h : ∀ e ∈ es, ∀ labels, Finds (Site.under labels) (LabelPath type n e.2) (labelled n labels e.2))
    (k : Nat) : Finds (Site.under labels) (Among (EntryPath type n) k es)
      (labelledEntries (n + 1) labels es) := by
  induction es generalizing k with
  | nil => exact ⟨[], lists_nil _ _, rfl⟩
  | cons e es ih =>
    obtain ⟨key, v⟩ := e
    obtain ⟨⟨l, rfl⟩, hks⟩ := List.forall_mem_cons.mp hkeys
    obtain ⟨hv, hvs⟩ := List.forall_mem_cons.mp h
    have hrest := ih hks hvs (k + 1)
    rw [labelledEntries, markerKey_str]
    cases hl : isMarker l with
    | true => exact hrest.skip (by simp [EntryPath, hl])
    | false =>
      have hfirst : Finds (Site.under labels) (EntryPath type n (.str l, v))
          (labelled n (labels ++ [l]) v) := by
        refine (finds_congr fun s => ?_).mp (hv (labels ++ [l])).labelledBy
        simp [EntryPath, hl]
      exact hfirst.cons hrest fun _ _ => rfl

theorem finds_labelled {v : Value} (h : v.keyedByText = true) (type : String) (n : Nat)
    (labels : List String) :
    Finds (Site.under labels) (LabelPath type n v) (labelled n labels v) := by
  induction v generalizing n labels with
  | leaf v hleaf =>
    cases v <;> first | exact finds_nothing nofun | cases hleaf
  | pair v w => exact finds_nothing nofun
  | list vs ih =>
    have hitems := (everyPart_list.mp h).2
    cases n with
    | zero => exact (finds_congr fun s => labelPath_bodyItem_iff).mpr (finds_bodies type labels vs 0)
    | succ n =>
      refine (finds_congr fun s => labelPath_item_iff).mpr (finds_labelledItems (fun v hv => ?_) 0)
      exact ih v hv (hitems v hv) (n + 1) labels
  | map es ih =>
    obtain ⟨hkeys, hentries⟩ := keyedByText_map.mp h
    cases n with
    | zero =>
      refine (finds_congr fun s => ?_).mpr (finds_body type labels es)
      constructor
      · rintro ⟨⟩
        exact ⟨es, rfl, rfl⟩
      · rintro ⟨_, ⟨⟩, rfl⟩
        exact .body es
    | succ n =>
      refine (finds_congr fun s => labelPath_entry_iff).mpr
        (finds_labelledEntries (fun e he => key_of_textKeys hkeys he) (fun e he labels => ?_) 0)
      exact ih e he (hentries e he) n labels

theorem labelCount?_of_isMarker {key : String} (h : isMarker key = true) : labelCount? key = none := by
  unfold labelCount?
  split <;> first | rfl | exact absurd h (by decide)

theorem finds_blocksOfType (filename : String) (modulePath : List String) (type : String) {v : Value}
    (h : v.keyedByText = true) : Finds (Site.block filename modulePath) (TypePath (.str type, v))
      (blocksOfType filename modulePath type v) := by
  unfold blocksOfType
  cases hn : labelCount? type with
  | none => exact finds_nothing (by simp [TypePath, hn])
  | some n =>
    obtain ⟨sites, hsites, hlabelled⟩ := finds_labelled h type n []
    refine ⟨sites, (lists_congr fun s => ?_).mp hsites, ?_⟩
    · simp [TypePath, hn]
    · have htype : ∀ s ∈ sites, Template.block filename modulePath type (s.under []) =
          s.block filename modulePath := fun s hs => by
        rw [Site.block, labelPath_type ((hsites.mem_iff s).mp hs)]
      simpa [hlabelled, Except.map] using htype

theorem finds_blocks (filename : String) (modulePath : List String) {es : List Entry}
    (h : (Value.map es).keyedByText = true) :
    Finds (Site.block filename modulePath) (Declares es) (blocks filename modulePath es) := by
  obtain ⟨hkeys, hentries⟩ := keyedByText_map.mp h
  have htexts : ∀ e ∈ es, ∃ s, e.1 = .str s := fun e he => key_of_textKeys hkeys he
  have hamong : ∀ k, Finds (Site.block filename modulePath) (Among TypePath k es)
      (blocks filename modulePath es) := by
    clear h hkeys
    induction es with
    | nil => exact fun k => ⟨[], lists_nil _ _, rfl⟩
    | cons e es ih =>
      intro k
      obtain ⟨key, v⟩ := e
      obtain ⟨⟨type, rfl⟩, hks⟩ := List.forall_mem_cons.mp htexts
      obtain ⟨hv, hvs⟩ := List.forall_mem_cons.mp hentries
      have hrest := ih hvs hks (k + 1)
      rw [blocks, markerKey_str]
      cases hl : isMarker type with
      | true => exact hrest.skip (by simp [TypePath, labelCount?_of_isMarker hl])
      | false => exact (finds_blocksOfType filename modulePath type hv).cons hrest fun _ _ => rfl
  exact (finds_congr fun s => declares_iff).mpr (hamong 0)

theorem labels_of_declares {es : List Entry} {s : Site} (h : Declares es s) :
    labelCount? s.type = some s.labels.length ∧ ∀ l ∈ s.labels, isMarker l = false := by
  obtain ⟨-, hn, path⟩ := h
  obtain ⟨hlength, hlabels⟩ := labelPath_labels path
  exact ⟨by simpa [Site.below, labelPath_type path, hlength] using hn, hlabels⟩

end BlockAudit.Template
