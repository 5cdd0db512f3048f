import BlockAudit.Proofs.Value.Strip
/-!
Reading values with markers. A path leads to the same place with and without them; what is seen there
is the same if no marker is in a pair.
-/

namespace BlockAudit.Value

structure Seen (v u : Value) : Prop where
  unmarked_eq : v.unmarked = .ok u
  strip_eq : u.strip = v.strip
  markerFree_eq : u.markerFree = v.pairsMarkerFree

theorem unmarked_leaf {v : Value} (h : v.isLeaf = true) : v.unmarked = .ok v := by
  cases v <;> simp_all [isLeaf, unmarked]

theorem seen_leaf {v : Value} (h : v.isLeaf = true) : Seen v v where
  unmarked_eq := unmarked_leaf h
  strip_eq := rfl
  markerFree_eq := by
    rw [markerFree_leaf h, pairsMarkerFree_of_markerFree (markerFree_leaf h)]

theorem exists_seen_list {vs : List Value} (h : ∀ v ∈ vs, ∃ u, Seen v u) :
    ∃ us, Seen (list vs) (list us) := by
  have hitems : ∃ us, unmarkedItems vs = .ok us ∧ stripItems us = stripItems vs ∧
      (list us).markerFree = pairsMarkerFreeInItems vs := by
    induction vs with
    | nil => exact ⟨[], rfl, rfl, rfl⟩
    | cons v vs ih =>
      obtain ⟨⟨u, hu⟩, hrest⟩ := List.forall_mem_cons.mp h
      obtain ⟨us, hunmarked, hstrip, hfree⟩ := ih hrest
      refine ⟨u :: us, ?_, ?_, ?_⟩
      · rw [unmarkedItems, hu.unmarked_eq, hunmarked]
        rfl
      · rw [stripItems, stripItems, hu.strip_eq, hstrip]
      · rw [pairsMarkerFreeInItems, ← hfree, ← hu.markerFree_eq]
        rfl
  obtain ⟨us, hunmarked, hstrip, hfree⟩ := hitems
  exact ⟨us, by rw [unmarked, hunmarked]; rfl, by rw [strip, strip, hstrip], hfree⟩

theorem exists_seen_map {es : List Entry} (hkeys : ∀ e ∈ es, ∃ s, e.1 = str s)
    (h : ∀ e ∈ es, ∃ u, Seen e.2 u) : ∃ us, Seen (map es) (map us) := by
  have hentries : ∃ us, unmarkedEntries es = .ok us ∧ stripEntries us = stripEntries es ∧
      (map us).markerFree = pairsMarkerFreeInEntries es := by
    induction es with
    | nil => exact ⟨[], rfl, rfl, rfl⟩
    | cons e es ih =>
      obtain ⟨k, v⟩ := e
      obtain ⟨⟨s, rfl⟩, hks⟩ := List.forall_mem_cons.mp hkeys
      obtain ⟨⟨u, hu⟩, hrest⟩ := List.forall_mem_cons.mp h
      obtain ⟨us, hunmarked, hstrip, hfree⟩ := ih hks hrest
      rw [unmarkedEntries, markerKey_str, stripEntries, pairsMarkerFreeInEntries, isMarkerKey]
      cases hmarker : isMarker s with
      | true => exact ⟨us, hunmarked, hstrip, hfree⟩
      | false =>
        refine ⟨(str s, u) :: us, ?_, ?_, ?_⟩
        · rw [hu.unmarked_eq, hunmarked]
          rfl
        · rw [stripEntries, isMarkerKey, hmarker, hu.strip_eq, hstrip]
        · rw [Bool.false_or, ← hu.markerFree_eq, ← hfree, Bool.eq_iff_iff, Bool.and_eq_true,
            markerFree_map, markerFree_map, List.forall_mem_cons, List.forall_mem_cons]
          constructor
          · rintro ⟨⟨-, hks⟩, hu, hus⟩
            exact ⟨hu, hks, hus⟩
          · rintro ⟨hu, hks, hus⟩
            exact ⟨⟨hmarker, hks⟩, hu, hus⟩
  obtain ⟨us, hunmarked, hstrip, hfree⟩ := hentries
  exact ⟨us, by rw [unmarked, hunmarked]; rfl, by rw [strip, strip, hstrip], hfree⟩

theorem exists_seen {v : Value} (h : v.keyedByText = true) : ∃ u, Seen v u := by
  induction v with
  | leaf v hleaf => exact ⟨v, seen_leaf hleaf⟩
  | list vs ih =>
    have hitems := (everyPart_list.mp h).2
    obtain ⟨us, hus⟩ := exists_seen_list fun v hv => ih v hv (hitems v hv)
    exact ⟨list us, hus⟩
  | pair v w ihv ihw => exact ⟨pair v w, rfl, rfl, rfl⟩
  | map es ih =>
    obtain ⟨hkeys, hentries⟩ := keyedByText_map.mp h
    obtain ⟨us, hus⟩ := exists_seen_map (fun e he => key_of_textKeys hkeys he)
      fun e he => ih e he (hentries e he)
    exact ⟨map us, hus⟩

theorem Seen.eq_strip_iff {v u : Value} (h : Seen v u) :
    u = v.strip ↔ v.pairsMarkerFree = true := by
  rw [← h.markerFree_eq]
  constructor
  · rintro rfl
    exact markerFree_strip v
  · intro hfree
    rw [← h.strip_eq, strip_of_markerFree hfree]

theorem unmarked_strip {v : Value} (h : v.keyedByText = true) : v.strip.unmarked = .ok v.strip := by
  obtain ⟨u, hu⟩ := exists_seen (keyedByText_strip h)
  have hfree := pairsMarkerFree_of_markerFree (markerFree_strip v)
  rw [hu.unmarked_eq, hu.eq_strip_iff.mpr hfree, strip_strip]

theorem member?_strip (part : List Char) (v : Value) :
    member? part v.strip = (member? part v).map strip := by
  cases v <;> try rfl
  next es =>
    rw [strip, member?, member?, lookup?_stripEntries]
    cases isMarker (String.ofList part) <;> rfl

theorem step?_strip (part : List Char) (v : Value) :
    step? part v.strip = (step? part v).map (·.map strip) := by
  cases v with
  | list vs =>
    rw [strip_list, step?, step?]
    cases Text.isDigits part with
    | true =>
      simp only [↓reduceIte, item?]
      cases Number.natural? 10 part with
      | none => rfl
      | some n => simp [Except.map]
    | false =>
      cases vs with
      | nil => rfl
      | cons v vs => exact congrArg Except.ok (member?_strip part v)
  | map es => exact congrArg Except.ok (member?_strip part (map es))
  | _ => rfl

theorem follow?_strip (parts : List (List Char)) (v : Value) :
    follow? parts v.strip = (follow? parts v).map (·.map strip) := by
  induction parts generalizing v with
  | nil => rfl
  | cons part parts ih =>
    rw [follow?, follow?, step?_strip]
    rcases step? part v with f | (_ | w)
    · rfl
    · rfl
    · exact ih w

structure Inherited (P : Value → Prop) : Prop where
  item {vs : List Value} : P (list vs) → ∀ v ∈ vs, P v
  entry {es : List Entry} : P (map es) → ∀ e ∈ es, isMarkerKey e.1 = false → P e.2

theorem everyPart_inherited (p : Value → Bool) : Inherited fun v => v.everyPart p = true where
  item := fun h => (everyPart_list.mp h).2
  entry := fun h e he _ => (everyPart_map.mp h).2 e he

theorem keyedByText_inherited : Inherited fun v => v.keyedByText = true := everyPart_inherited _

theorem Inherited.and {P Q : Value → Prop} (hP : Inherited P) (hQ : Inherited Q) :
    Inherited fun v => P v ∧ Q v where
  item := fun h v hv => ⟨hP.item h.1 v hv, hQ.item h.2 v hv⟩
  entry := fun h e he hk => ⟨hP.entry h.1 e he hk, hQ.entry h.2 e he hk⟩

theorem Inherited.spread {P : Value → Prop} (hP : Inherited P) {v item : Value} {es : List Entry}
    (h : P v) (hitem : item ∈ v.spread) (hes : item.entries? = some es) : P (map es) := by
  have hPitem : P item := by
    cases v with
    | list vs => exact hP.item h item hitem
    | _ => exact List.mem_singleton.mp hitem ▸ h
  cases item <;> cases hes
  exact hPitem

theorem Inherited.member? {P : Value → Prop} (hP : Inherited P) {part : List Char} {v w : Value}
    (h : P v) (hw : v.member? part = some w) : P w := by
  cases v <;> try cases hw
  next es =>
    rw [Value.member?] at hw
    split at hw
    · cases hw
    · next hmarker => exact hP.entry h _ (mem_of_lookup? hw) (Bool.eq_false_iff.mpr hmarker)

theorem Inherited.step? {P : Value → Prop} (hP : Inherited P) {part : List Char} {v w : Value}
    (h : P v) (hw : v.step? part = .ok (some w)) : P w := by
  cases v with
  | list vs =>
    rw [Value.step?] at hw
    split at hw
    · rw [item?] at hw
      split at hw
      · next n _ => exact hP.item h w (List.mem_of_getElem? (Except.ok.inj hw))
      · cases hw
    · cases vs with
      | nil => cases hw
      | cons v vs => exact hP.member? (hP.item h v List.mem_cons_self) (Except.ok.inj hw)
  | _ => exact hP.member? h (Except.ok.inj hw)

theorem Inherited.follow? {P : Value → Prop} (hP : Inherited P) {parts : List (List Char)}
    {v w : Value} (h : P v) (hw : v.follow? parts = .ok (some w)) : P w := by
  induction parts generalizing v with
  | nil =>
    cases hw
    exact h
  | cons part parts ih =>
    rw [Value.follow?] at hw
    cases hstep : v.step? part with
    | error f =>
      rw [hstep] at hw
      cases hw
    | ok o =>
      rw [hstep] at hw
      cases o with
      | none => cases hw
      | some x => exact ih (hP.step? h hstep) hw

structure Clear (v : Value) : Prop where
  keyed : v.keyedByText = true
  pairs : v.pairsMarkerFree = true

theorem Clear.unmarked_eq {v : Value} (h : v.Clear) : v.unmarked = .ok v.strip := by
  obtain ⟨u, hu⟩ := exists_seen h.keyed
  rw [hu.unmarked_eq, hu.eq_strip_iff.mpr h.pairs]

theorem Clear.item {vs : List Value} (h : (list vs).Clear) {v : Value} (hv : v ∈ vs) : v.Clear :=
  ⟨(everyPart_list.mp h.keyed).2 v hv, pairsMarkerFreeInItems_iff.mp h.pairs v hv⟩

theorem Clear.entry {es : List Entry} (h : (map es).Clear) {e : Entry} (he : e ∈ es)
    (hk : isMarkerKey e.1 = false) : e.2.Clear := by
  refine ⟨(keyedByText_map.mp h.keyed).2 e he, ?_⟩
  rcases pairsMarkerFreeInEntries_iff.mp h.pairs e he with hmarker | hpairs
  · rw [hk] at hmarker
    cases hmarker
  · exact hpairs

theorem clear_inherited : Inherited Clear := ⟨fun h _ hv => h.item hv, fun h _ he hk => h.entry he hk⟩

end BlockAudit.Value
