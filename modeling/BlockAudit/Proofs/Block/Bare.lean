import BlockAudit.Proofs.Text.Search
import BlockAudit.Proofs.Value.Unmarked

namespace BlockAudit.Block

open Value

def bare (b : Block) : Block :=
  { b with body := stripEntries b.body, location := .file "" }

def Clear (b : Block) : Prop := (Value.map b.body).Clear

variable {b : Block}

theorem bare_bare (b : Block) : b.bare.bare = b.bare := by
  have hbody : stripEntries (stripEntries b.body) = stripEntries b.body :=
    Value.map.inj (strip_strip (.map b.body))
  rw [bare, bare, hbody]

theorem clear_bare (h : (Value.map b.body).keyedByText = true) : b.bare.Clear :=
  ⟨keyedByText_strip h, pairsMarkerFree_of_markerFree (markerFree_strip (.map b.body))⟩

theorem attributeAt_bare (h : b.Clear) (path : String) :
    b.bare.attributeAt path = b.attributeAt path := by
  have hfollow : follow? (Text.fields '.' path.toList) (.map b.bare.body) = _ :=
    follow?_strip _ (.map b.body)
  rw [attributeAt, attributeAt, hfollow]
  cases hv : follow? (Text.fields '.' path.toList) (.map b.body) with
  | error f => rfl
  | ok o =>
    cases o with
    | none => rfl
    | some v =>
      have hclear : v.Clear := clear_inherited.follow? h hv
      exact (unmarked_strip hclear.keyed).trans hclear.unmarked_eq.symm

theorem nested_bare (b : Block) (key : String) (body : List Entry) :
    (b.nested key body).bare = b.bare.nested key (stripEntries body) := by
  rw [nested, nested, lookup?_stripEntries_of_marker rfl, lookup?_stripEntries_of_marker rfl]
  rfl

theorem childrenOf_bare (b : Block) (key : String) (v : Value) :
    b.bare.childrenOf key v.strip = (b.childrenOf key v).map bare := by
  rw [childrenOf, childrenOf, spread_strip, List.filterMap_map, List.map_filterMap]
  refine congrArg (v.spread.filterMap ·) (funext fun item => ?_)
  rw [Function.comp_apply, entries?_strip]
  cases item.entries? with
  | none => rfl
  | some es => exact congrArg some (nested_bare b key es).symm

theorem body_of_mem_childrenOf {P : Value → Prop} (hP : Inherited P) {key : String} {v : Value}
    {c : Block} (h : P v) (hc : c ∈ b.childrenOf key v) : P (.map c.body) := by
  obtain ⟨item, hitem, hmap⟩ := List.mem_filterMap.mp hc
  obtain ⟨es, hes, rfl⟩ := Option.map_eq_some_iff.mp hmap
  exact hP.spread h hitem hes

theorem childrenIn_cons (b : Block) (chosen : String → Bool) (s : String) (v : Value)
    (es : List Entry) : b.childrenIn chosen ((.str s, v) :: es) =
      (b.childrenIn chosen es).map fun rest =>
        if !isMarker s && chosen s then b.childrenOf s v ++ rest else rest := by
  rw [childrenIn]
  cases b.childrenIn chosen es <;> rfl

theorem exists_childrenIn (b : Block) (chosen : String → Bool) {es : List Entry}
    (h : (Value.map es).Clear) : ∃ bs, b.childrenIn chosen es = .ok bs ∧
      b.bare.childrenIn chosen (stripEntries es) = .ok (bs.map bare) ∧ ∀ c ∈ bs, c.Clear := by
  have hkeys : ∀ e ∈ es, ∃ s, e.1 = str s := fun e he =>
    key_of_textKeys (keyedByText_map.mp h.keyed).1 he
  have hclear : ∀ e ∈ es, isMarkerKey e.1 = false → e.2.Clear := fun e he => h.entry he
  clear h
  induction es with
  | nil => exact ⟨[], rfl, rfl, by simp⟩
  | cons e es ih =>
    obtain ⟨k, v⟩ := e
    obtain ⟨⟨s, rfl⟩, hks⟩ := List.forall_mem_cons.mp hkeys
    obtain ⟨hv, hvs⟩ := List.forall_mem_cons.mp hclear
    obtain ⟨bs, hbs, hbare, hall⟩ := ih hks hvs
    rw [childrenIn_cons, hbs, stripEntries, isMarkerKey]
    cases hmarker : isMarker s with
    | true =>
      -- Neither side has a block under a marker.
      exact ⟨bs, rfl, hbare, hall⟩
    | false =>
      have hfirst : ∀ c ∈ b.childrenOf s v, c.Clear := fun c hc =>
        body_of_mem_childrenOf clear_inherited (hv hmarker) hc
      rw [if_neg Bool.false_ne_true, childrenIn_cons, hbare, hmarker, childrenOf_bare]
      cases chosen s with
      | true =>
        refine ⟨b.childrenOf s v ++ bs, rfl, by simp [Except.map], fun c hc => ?_⟩
        exact (List.mem_append.mp hc).elim (hfirst c) (hall c)
      | false => exact ⟨bs, rfl, rfl, hall⟩

theorem childrenNamed_bare (h : b.Clear) (name : String) : ∃ bs, b.childrenNamed name = .ok bs ∧
    b.bare.childrenNamed name = .ok (bs.map bare) ∧ ∀ c ∈ bs, c.Clear :=
  exists_childrenIn b (· == name) h

theorem tag?_bare (h : b.Clear) (key : String) : b.bare.tag? key = b.tag? key := by
  have hnames : ∀ names, b.bare.tagIn key names = b.tagIn key names := by
    intro names
    induction names with
    | nil => rfl
    | cons name names ih => rw [tagIn, tagIn, attributeAt_bare h, ih]
  exact hnames tagAttributes

def PlainKeys (b : Block) : Prop := ∀ e ∈ b.body, ∀ s, e.1 = .str s → '.' ∉ s.toList

theorem attributeAt_of_plain (b : Block) {name : String} (h : '.' ∉ name.toList) :
    b.attributeAt name = match member? name.toList (.map b.body) with
      | some v => v.unmarked
      | none => .ok .null := by
  rw [attributeAt, Text.fields_of_not_mem h, follow?, step?]
  · cases member? name.toList (.map b.body) <;> rfl
  · intro vs hvs
    cases hvs

theorem exists_attribute (hb : (Value.map b.body).keyedByText = true) {name : String}
    (h : '.' ∉ name.toList) : ∃ u, b.attributeAt name = .ok u ∧
      b.bare.attributeAt name = .ok u.strip ∧
      ∀ v, member? name.toList (.map b.body) = some v → Seen v u := by
  have hstrip : member? name.toList (.map b.bare.body) = _ :=
    member?_strip name.toList (.map b.body)
  rw [attributeAt_of_plain b h, attributeAt_of_plain b.bare h, hstrip]
  cases hv : member? name.toList (.map b.body) with
  | none => exact ⟨.null, rfl, rfl, by simp⟩
  | some v =>
    have hkeyed : v.keyedByText = true := by
      rw [member?] at hv
      split at hv
      · cases hv
      · exact (keyedByText_map.mp hb).2 _ (mem_of_lookup? hv)
    obtain ⟨u, hu⟩ := exists_seen hkeyed
    refine ⟨u, hu.unmarked_eq, ?_, fun w hw => Option.some.inj hw ▸ hu⟩
    rw [hu.strip_eq]
    exact unmarked_strip hkeyed

theorem exists_attribute_of_not_clear (hb : (Value.map b.body).keyedByText = true)
    (hplain : b.PlainKeys) (h : ¬b.Clear) : ∃ name u, '.' ∉ name.toList ∧
      b.attributeAt name = .ok u ∧ b.bare.attributeAt name = .ok u.strip ∧
      u.markerFree = false ∧ u.strip.keyedByText = true := by
  have hpairs : ¬∀ e ∈ b.body, isMarkerKey e.1 = true ∨ e.2.pairsMarkerFree = true :=
    fun hall => h ⟨hb, pairsMarkerFreeInEntries_iff.mpr hall⟩
  obtain ⟨e, hne⟩ := Classical.not_forall.mp hpairs
  obtain ⟨he, hnot⟩ := Classical.not_imp.mp hne
  obtain ⟨hk, hv⟩ := not_or.mp hnot
  obtain ⟨hkeys, hentries⟩ := keyedByText_map.mp hb
  obtain ⟨s, hs⟩ := key_of_textKeys hkeys he
  obtain ⟨u, hu, hbare, hseen⟩ := exists_attribute hb (hplain e he s hs)
  have hmember : member? s.toList (.map b.body) = some e.2 := by
    rw [hs, isMarkerKey] at hk
    rw [member?, String.ofList_toList, if_neg hk]
    exact lookup?_of_mem hkeys (hs ▸ he)
  refine ⟨s, u, hplain e he s hs, hu, hbare, ?_, ?_⟩
  · rw [(hseen e.2 hmember).markerFree_eq]
    exact Bool.eq_false_iff.mpr hv
  · rw [(hseen e.2 hmember).strip_eq]
    exact keyedByText_strip (hentries e he)

end BlockAudit.Block
