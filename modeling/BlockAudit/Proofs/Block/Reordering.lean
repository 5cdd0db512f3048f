import BlockAudit.Proofs.Block.Paths
import BlockAudit.Proofs.Value.Reordering

namespace BlockAudit.Block

open Value

structure Reordered (b c : Block) : Prop where
  type : b.type = c.type
  labels : b.labels = c.labels
  modulePath : b.modulePath = c.modulePath
  body : Value.Reordered (.map b.body) (.map c.body)

variable {b c : Block} {es fs gs : List Entry}

theorem Reordered.address (h : Reordered b c) : b.address = c.address := by
  rw [Block.address, Block.address, h.type, h.labels, h.modulePath]

theorem Reordered.inModule (h : Reordered b c) : b.inModule = c.inModule := by
  rw [Block.inModule, Block.inModule, h.modulePath]

theorem Reordered.matchesType (h : Reordered b c) (name : String) :
    b.matchesType name = c.matchesType name := by
  rw [Block.matchesType, Block.matchesType, isTyped, isTyped, typeLabel?, typeLabel?, h.type, h.labels]

theorem Reordered.attributeAt (h : Reordered b c) (path : String) :
    SameOutcome Value.Reordered (b.attributeAt path) (c.attributeAt path) := by
  refine (follow?_reordered _ h.body).bind fun o p hop => ?_
  cases hop with
  | none => exact .ok (.refl .null)
  | some hvw => exact unmarked_reordered hvw

theorem Reordered.tag? (h : Reordered b c) (key : String) :
    SameOutcome (Option.Rel Value.Reordered) (b.tag? key) (c.tag? key) := by
  have hnames : ∀ names,
      SameOutcome (Option.Rel Value.Reordered) (b.tagIn key names) (c.tagIn key names) := by
    intro names
    induction names with
    | nil => exact .ok .none
    | cons name names ih =>
      rw [tagIn, tagIn]
      refine (h.attributeAt name).bind fun v w hvw => ?_
      have htags := hvw.entries?
      generalize v.entries? = p, w.entries? = q at htags
      cases htags with
      | none => exact ih
      | @some es fs hmap =>
        have htag := lookup?_reordered hmap key
        rw [Option.bind_some, Option.bind_some]
        generalize lookup? key es = p, lookup? key fs = q at htag
        cases htag with
        | none => exact ih
        | some htag => exact .ok (.some htag)
  exact hnames tagAttributes

theorem Reordered.nested (h : Reordered b c) (key : String)
    (hbody : Value.Reordered (.map es) (.map fs)) : Reordered (b.nested key es) (c.nested key fs) :=
  ⟨rfl, rfl, h.modulePath, hbody⟩

theorem Reordered.childrenOf (h : Reordered b c) (key : String) {v w : Value}
    (hvw : Value.Reordered v w) :
    List.Forall₂ Reordered (b.childrenOf key v) (c.childrenOf key w) := by
  refine List.rel_filterMap (R := Value.Reordered) (fun item item' hitem => ?_) hvw.spread
  have hentries := hitem.entries?
  generalize item.entries? = p, item'.entries? = q at hentries
  cases hentries with
  | none => exact .none
  | some hmap => exact .some (h.nested key hmap)

theorem Reordered.childrenIn (h : Reordered b c) (chosen : String → Bool)
    (hes : List.Forall₂ ReorderedEntry es gs) :
    SameOutcome (List.Forall₂ Reordered) (b.childrenIn chosen es) (c.childrenIn chosen gs) := by
  induction hes with
  | nil => exact .ok .nil
  | cons hentry _ ih =>
    cases hentry with
    | @mk k v w hvw =>
      rw [Block.childrenIn, Block.childrenIn]
      cases markerKey k with
      | error f => exact .error f
      | ok hidden =>
        refine ih.bind fun bs cs hbs => ?_
        cases k.text? with
        | none => exact .ok hbs
        | some key =>
          dsimp only
          split
          · exact .ok (List.rel_append (h.childrenOf key hvw) hbs)
          · exact .ok hbs

theorem childrenIn_of_isMarker {k : String} (hkeys : ∀ e ∈ es, ∃ s, e.1 = .str s)
    (h : isMarker k = true) : b.childrenIn (· == k) es = .ok [] := by
  induction es with
  | nil => rfl
  | cons e es ih =>
    obtain ⟨name, v⟩ := e
    obtain ⟨⟨s, rfl⟩, hrest⟩ := List.forall_mem_cons.mp hkeys
    rw [childrenIn_cons, ih hrest]
    by_cases hs : s = k
    · simp [Except.map, hs, h]
    · simp [Except.map, hs]

theorem childrenIn_of_textKeys (h : textKeys es = true) (k : String) :
    b.childrenIn (· == k) es =
      .ok (if isMarker k then [] else (lookup? k es).elim [] (b.childrenOf k)) := by
  have hkeys : ∀ e ∈ es, ∃ s, e.1 = .str s := fun e he => key_of_textKeys h he
  cases hmarker : isMarker k with
  | true => exact childrenIn_of_isMarker hkeys hmarker
  | false =>
    cases hv : lookup? k es with
    | none =>
      refine childrenIn_of_not_mem hkeys fun w hw => ?_
      rw [lookup?_of_mem h hw] at hv
      cases hv
    | some v => exact childrenIn_of_mem h (mem_of_lookup? hv) hmarker

theorem childrenIn_rearranged (h : Rearranged es fs) (k : String) :
    b.childrenIn (· == k) es = b.childrenIn (· == k) fs := by
  rcases h with rfl | ⟨hkeyed, hperm⟩
  · rfl
  · have hes := (keyedByText_map.mp hkeyed).1
    rw [childrenIn_of_textKeys hes, childrenIn_of_textKeys (textKeys_of_perm hes hperm),
      lookup?_perm (namedOnce_of_textKeys hes) hperm]

theorem Reordered.childrenNamed (h : Reordered b c) (name : String) :
    SameOutcome (List.Forall₂ Reordered) (b.childrenNamed name) (c.childrenNamed name) := by
  have hbody := h.body
  rw [Block.childrenNamed, Block.childrenNamed]
  generalize b.body = es, c.body = fs at hbody
  cases hbody with
  | leaf hleaf => cases hleaf
  | map hes order =>
    rw [← childrenIn_rearranged order]
    exact h.childrenIn _ hes

end BlockAudit.Block
