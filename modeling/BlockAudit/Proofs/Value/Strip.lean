import BlockAudit.Block.Attribute
import BlockAudit.Proofs.Value.Lookup
import BlockAudit.Proofs.Value.Parts

namespace BlockAudit.Value

def isMarkerKey : Value → Bool
  | str s => isMarker s
  | _ => false

mutual

def strip : Value → Value
  | list vs => list (stripItems vs)
  | pair v w => pair (strip v) (strip w)
  | map es => map (stripEntries es)
  | v => v

def stripItems : List Value → List Value
  | [] => []
  | v :: vs => strip v :: stripItems vs

def stripEntries : List Entry → List Entry
  | [] => []
  | (k, v) :: es =>
    if isMarkerKey k then stripEntries es else (k, strip v) :: stripEntries es

end

def textKeys (es : List Entry) : Bool :=
  es.all (fun e => e.1.text?.isSome) && decide (es.filterMap fun e => e.1.text?).Nodup

def keyedByText (v : Value) : Bool :=
  v.everyPart fun
    | map es => textKeys es
    | _ => true

def markerFree (v : Value) : Bool :=
  v.everyPart fun
    | map es => es.all fun e => !isMarkerKey e.1
    | _ => true

mutual

/-- No marker is in a pair. What is behind a marker does not count. -/
def pairsMarkerFree : Value → Bool
  | list vs => pairsMarkerFreeInItems vs
  | pair v w => markerFree v && markerFree w
  | map es => pairsMarkerFreeInEntries es
  | _ => true

def pairsMarkerFreeInItems : List Value → Bool
  | [] => true
  | v :: vs => pairsMarkerFree v && pairsMarkerFreeInItems vs

def pairsMarkerFreeInEntries : List Entry → Bool
  | [] => true
  | (k, v) :: es => (isMarkerKey k || pairsMarkerFree v) && pairsMarkerFreeInEntries es

end

theorem markerKey_str (s : String) : markerKey (str s) = .ok (isMarker s) := rfl

theorem strip_leaf {v : Value} (h : v.isLeaf = true) : v.strip = v := by
  cases v <;> simp_all [isLeaf, strip]

theorem stripItems_eq (vs : List Value) : stripItems vs = vs.map strip := by
  induction vs with
  | nil => rfl
  | cons v vs ih => rw [stripItems, ih, List.map_cons]

theorem strip_list (vs : List Value) : (list vs).strip = list (vs.map strip) := by
  rw [strip, stripItems_eq]

theorem entries?_strip (v : Value) : v.strip.entries? = v.entries?.map stripEntries := by
  cases v <;> rfl

theorem spread_strip (v : Value) : v.strip.spread = v.spread.map strip := by
  cases v with
  | list vs => rw [strip_list, spread, spread]
  | _ => rfl

theorem stripEntries_eq (es : List Entry) : stripEntries es =
    (es.filter fun e => !isMarkerKey e.1).map fun e => (e.1, e.2.strip) := by
  induction es with
  | nil => rfl
  | cons e es ih => cases hk : isMarkerKey e.1 <;> simp [stripEntries, hk, ih]

theorem mem_stripEntries {es : List Entry} {e : Entry} : e ∈ stripEntries es ↔
    ∃ v, (e.1, v) ∈ es ∧ isMarkerKey e.1 = false ∧ e.2 = v.strip := by
  obtain ⟨k, w⟩ := e
  simp only [stripEntries_eq, List.mem_map, List.mem_filter, Bool.not_eq_true', Prod.exists,
    Prod.mk.injEq]
  constructor
  · rintro ⟨k, v, ⟨hm, hk⟩, rfl, rfl⟩
    exact ⟨v, hm, hk, rfl⟩
  · rintro ⟨v, hm, hk, rfl⟩
    exact ⟨k, v, ⟨hm, hk⟩, rfl, rfl⟩

theorem lookup?_stripEntries (name : String) (es : List Entry) :
    lookup? name (stripEntries es) =
      if isMarker name then none else (lookup? name es).map strip := by
  induction es with
  | nil => rw [stripEntries, lookup?, Option.map_none, ite_self]
  | cons e es ih =>
    obtain ⟨k, v⟩ := e
    cases k <;> try exact ih
    next s =>
      rw [stripEntries, isMarkerKey, lookup?]
      by_cases hs : s = name
      · subst hs
        cases hmarker : isMarker s with
        | true => simpa [hmarker] using ih
        | false => simp [lookup?]
      · cases isMarker s <;> simp [lookup?, hs, ih]

theorem lookup?_stripEntries_of_marker {name : String} (h : isMarker name = true)
    (es : List Entry) : lookup? name (stripEntries es) = none := by
  rw [lookup?_stripEntries, if_pos h]

theorem markerFree_leaf {v : Value} (h : v.isLeaf = true) : v.markerFree = true := by
  rw [markerFree, everyPart_leaf h]
  cases v <;> simp_all [isLeaf]

theorem markerFree_map {es : List Entry} : (map es).markerFree = true ↔
    (∀ e ∈ es, isMarkerKey e.1 = false) ∧ ∀ e ∈ es, e.2.markerFree = true := by
  rw [markerFree, everyPart_map, List.all_eq_true]
  simp only [Bool.not_eq_true']
  rfl

theorem markerFree_strip (v : Value) : v.strip.markerFree = true := by
  induction v with
  | leaf v hleaf =>
    rw [strip_leaf hleaf]
    exact markerFree_leaf hleaf
  | list vs ih =>
    rw [strip_list]
    refine everyPart_list.mpr ⟨rfl, fun w hw => ?_⟩
    obtain ⟨v, hv, rfl⟩ := List.mem_map.mp hw
    exact ih v hv
  | pair v w ihv ihw => exact everyPart_pair.mpr ⟨rfl, ihv, ihw⟩
  | map es ih =>
    refine markerFree_map.mpr ⟨fun e he => ?_, fun e he => ?_⟩
    · obtain ⟨v, -, hk, -⟩ := mem_stripEntries.mp he
      exact hk
    · obtain ⟨v, hv, -, hw⟩ := mem_stripEntries.mp he
      rw [hw]
      exact ih _ hv

theorem strip_of_markerFree {v : Value} (h : v.markerFree = true) : v.strip = v := by
  induction v with
  | leaf v hleaf => exact strip_leaf hleaf
  | list vs ih =>
    have hitems := (everyPart_list.mp h).2
    rw [strip_list, List.map_congr_left fun v hv => ih v hv (hitems v hv), List.map_id']
  | pair v w ihv ihw =>
    obtain ⟨-, hfirst, hsecond⟩ := everyPart_pair.mp h
    rw [strip, ihv hfirst, ihw hsecond]
  | map es ih =>
    obtain ⟨hkeys, hentries⟩ := markerFree_map.mp h
    have hkept : es.filter (fun e => !isMarkerKey e.1) = es :=
      List.filter_eq_self.mpr fun e he => by rw [hkeys e he, Bool.not_false]
    have hsame : es.map (fun e => (e.1, e.2.strip)) = es.map id :=
      List.map_congr_left fun e he => Prod.ext rfl (ih e he (hentries e he))
    rw [strip, stripEntries_eq, hkept, hsame, List.map_id]

theorem strip_strip (v : Value) : v.strip.strip = v.strip :=
  strip_of_markerFree (markerFree_strip v)

theorem keyedByText_map {es : List Entry} : (map es).keyedByText = true ↔
    textKeys es = true ∧ ∀ e ∈ es, e.2.keyedByText = true := by
  rw [keyedByText, everyPart_map]
  rfl

theorem key_of_textKeys {es : List Entry} (h : textKeys es = true) {e : Entry} (he : e ∈ es) :
    ∃ s, e.1 = str s := by
  have hkeys := List.all_eq_true.mp (Bool.and_eq_true_iff.mp h).1 e he
  cases hk : e.1 <;> simp_all [text?]

theorem namedOnce_of_textKeys {es : List Entry} (h : textKeys es = true) : NamedOnce es := by
  rw [textKeys, Bool.and_eq_true, decide_eq_true_iff] at h
  exact h.2

theorem lookup?_of_mem {es : List Entry} (h : textKeys es = true) {name : String} {v : Value}
    (hv : (str name, v) ∈ es) : lookup? name es = some v :=
  lookup?_of_mem_of_namedOnce (namedOnce_of_textKeys h) hv

theorem textKeys_stripEntries {es : List Entry} (h : textKeys es = true) :
    textKeys (stripEntries es) = true := by
  obtain ⟨hall, hnodup⟩ := Bool.and_eq_true_iff.mp h
  refine Bool.and_eq_true_iff.mpr ⟨List.all_eq_true.mpr fun e he => ?_, decide_eq_true ?_⟩
  · obtain ⟨v, hv, -, -⟩ := mem_stripEntries.mp he
    exact List.all_eq_true.mp hall (e.1, v) hv
  · rw [stripEntries_eq, List.filterMap_map]
    exact (List.filter_sublist.filterMap _).nodup (of_decide_eq_true hnodup)

theorem keyedByText_strip {v : Value} (h : v.keyedByText = true) : v.strip.keyedByText = true := by
  induction v with
  | leaf v hleaf => rwa [strip_leaf hleaf]
  | list vs ih =>
    rw [strip_list]
    refine everyPart_list.mpr ⟨rfl, fun w hw => ?_⟩
    obtain ⟨v, hv, rfl⟩ := List.mem_map.mp hw
    exact ih v hv ((everyPart_list.mp h).2 v hv)
  | pair v w ihv ihw =>
    obtain ⟨-, hfirst, hsecond⟩ := everyPart_pair.mp h
    exact everyPart_pair.mpr ⟨rfl, ihv hfirst, ihw hsecond⟩
  | map es ih =>
    obtain ⟨hkeys, hentries⟩ := keyedByText_map.mp h
    refine keyedByText_map.mpr ⟨textKeys_stripEntries hkeys, fun e he => ?_⟩
    obtain ⟨v, hv, -, hw⟩ := mem_stripEntries.mp he
    rw [hw]
    exact ih _ hv (hentries _ hv)

theorem pairsMarkerFreeInItems_iff {vs : List Value} :
    pairsMarkerFreeInItems vs = true ↔ ∀ v ∈ vs, v.pairsMarkerFree = true := by
  induction vs with
  | nil => simp [pairsMarkerFreeInItems]
  | cons v vs ih => rw [pairsMarkerFreeInItems, Bool.and_eq_true, ih, List.forall_mem_cons]

theorem pairsMarkerFreeInEntries_iff {es : List Entry} : pairsMarkerFreeInEntries es = true ↔
    ∀ e ∈ es, isMarkerKey e.1 = true ∨ e.2.pairsMarkerFree = true := by
  induction es with
  | nil => simp [pairsMarkerFreeInEntries]
  | cons e es ih =>
    rw [pairsMarkerFreeInEntries, Bool.and_eq_true, Bool.or_eq_true, ih, List.forall_mem_cons]

theorem pairsMarkerFree_of_markerFree {v : Value} (h : v.markerFree = true) :
    v.pairsMarkerFree = true := by
  induction v with
  | leaf v hleaf => cases v <;> simp_all [isLeaf, pairsMarkerFree]
  | list vs ih =>
    have hitems := (everyPart_list.mp h).2
    exact pairsMarkerFreeInItems_iff.mpr fun v hv => ih v hv (hitems v hv)
  | pair v w ihv ihw =>
    obtain ⟨-, hfirst, hsecond⟩ := everyPart_pair.mp h
    exact Bool.and_eq_true_iff.mpr ⟨hfirst, hsecond⟩
  | map es ih =>
    have hentries := (markerFree_map.mp h).2
    exact pairsMarkerFreeInEntries_iff.mpr fun e he => Or.inr (ih e he (hentries e he))

end BlockAudit.Value
