import BlockAudit.Proofs.Block.Paths
/-!
The tags of a block. The first attribute that holds a key decides what the tag is, and the tag is what is
found under the key by the path through that attribute.
-/

namespace BlockAudit.Block

open Value

variable {b : Block} {p place key : String} {places : List String} {u : Value}

def Tagged (b : Block) (place key : String) (u : Value) : Prop :=
  ∃ es, b.attributeAt place = .ok (.map es) ∧ lookup? key es = some u

theorem tagIn_of_tagged (h : b.Tagged place key u) (places : List String) :
    b.tagIn key (place :: places) = .ok (some u) := by
  obtain ⟨es, hplace, hkey⟩ := h
  rw [tagIn, hplace, ok_bind, entries?, Option.bind_some, hkey]
  rfl

theorem tagIn_of_not_tagged (hplace : b.attributeAt place = .ok u) (h : ∀ v, ¬b.Tagged place key v)
    (places : List String) : b.tagIn key (place :: places) = b.tagIn key places := by
  have hnone : u.entries?.bind (lookup? key) = none := by
    cases u with
    | map es =>
      cases hkey : lookup? key es with
      | none => exact hkey
      | some v => exact absurd ⟨es, hplace, hkey⟩ (h v)
    | _ => rfl
  rw [tagIn, hplace, ok_bind, hnone]

def Decides (b : Block) (key place : String) (u : Value) : Prop :=
  b.Tagged place key u ∧
    (place = "tags" ∨ place = "tags_all" ∧ ∀ v, ¬b.Tagged "tags" key v)

theorem exists_tagAttribute (hb : (Value.map b.body).keyedByText = true) (hplace : place ∈ tagAttributes) :
    ∃ v, b.attributeAt place = .ok v :=
  exists_attributeAt hb (indexed_tagAttributes place hplace)

theorem Decides.tag?_eq (hb : (Value.map b.body).keyedByText = true) (h : b.Decides key place u) :
    b.tag? key = .ok (some u) := by
  obtain ⟨htagged, rfl | ⟨rfl, hfirst⟩⟩ := h
  · exact tagIn_of_tagged htagged _
  · have hmem : "tags" ∈ tagAttributes := List.mem_cons_self
    obtain ⟨v, hv⟩ := exists_tagAttribute hb hmem
    rw [tag?, tagAttributes, tagIn_of_not_tagged hv hfirst]
    exact tagIn_of_tagged htagged _

theorem tag?_of_not_tagged (hb : (Value.map b.body).keyedByText = true)
    (h : ∀ place ∈ tagAttributes, ∀ v, ¬b.Tagged place key v) : b.tag? key = .ok none := by
  have hnames : ∀ places, places ⊆ tagAttributes → b.tagIn key places = .ok none := by
    intro places hplaces
    induction places with
    | nil => rfl
    | cons place places ih =>
      obtain ⟨hplace, hrest⟩ := List.cons_subset.mp hplaces
      obtain ⟨v, hv⟩ := exists_tagAttribute hb hplace
      rw [tagIn_of_not_tagged hv (h place hplace), ih hrest]
  exact hnames tagAttributes (List.Subset.refl _)

theorem unmarked_attributeAt (h : b.attributeAt p = .ok u) : u.unmarked = .ok u := by
  rw [attributeAt_eq] at h
  cases hfollow : follow? (Text.fields '.' p.toList) (.map b.body) with
  | error f =>
    rw [hfollow] at h
    cases h
  | ok o =>
    rw [hfollow] at h
    cases o with
    | none =>
      cases h
      rfl
    | some v => exact unmarked_unmarked h

theorem Tagged.attributeAt_eq (h : b.Tagged place key u) (hdot : '.' ∉ key.toList)
    (hmarker : isMarker key = false) : b.attributeAt (place ++ "." ++ key) = .ok u := by
  obtain ⟨es, hplace, hkey⟩ := h
  have hfollow := follow?_of_lookup? hkey hdot hmarker
  have hshowing := showing_follow? (Text.fields '.' key.toList) (unmarked_attributeAt hplace)
  rw [attributeAt_dotted hplace, hfollow]
  rw [hfollow] at hshowing
  cases hshowing with
  | found hu => exact hu

end BlockAudit.Block
