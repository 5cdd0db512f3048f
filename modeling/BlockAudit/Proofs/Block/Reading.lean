import BlockAudit.Proofs.Block.Bare
import BlockAudit.Proofs.Value.Showing

namespace BlockAudit

namespace Value

def Indexed (parts : List (List Char)) : Prop :=
  ∀ part ∈ parts, Text.isDigits part = true → (Number.natural? 10 part).isSome

instance (parts : List (List Char)) : Decidable (Indexed parts) :=
  inferInstanceAs (Decidable (∀ part ∈ parts, Text.isDigits part = true →
    (Number.natural? 10 part).isSome = true))

theorem exists_step? {part : List Char}
    (h : Text.isDigits part = true → (Number.natural? 10 part).isSome) (v : Value) :
    ∃ o, v.step? part = .ok o := by
  cases v with
  | list vs =>
    rw [step?]
    cases hdigits : Text.isDigits part with
    | false => exact ⟨_, rfl⟩
    | true =>
      obtain ⟨n, hn⟩ := Option.isSome_iff_exists.mp (h hdigits)
      exact ⟨vs[n]?, by rw [if_pos rfl, item?, hn]⟩
  | _ => exact ⟨_, rfl⟩

theorem exists_follow? {parts : List (List Char)} (h : Indexed parts) (v : Value) :
    ∃ o, v.follow? parts = .ok o := by
  induction parts generalizing v with
  | nil => exact ⟨some v, rfl⟩
  | cons part parts ih =>
    obtain ⟨hpart, hparts⟩ := List.forall_mem_cons.mp h
    obtain ⟨o, ho⟩ := exists_step? hpart v
    rw [follow?, ho]
    cases o with
    | none => exact ⟨none, rfl⟩
    | some w => exact ih hparts w

theorem eq_of_unmarked_eq {v w : Value} (h : v.unmarked = .ok w) (hw : w.isLeaf = true) :
    v = w := by
  cases v with
  | list vs =>
    obtain ⟨us, rfl, -⟩ := unmarked_list_eq_ok h
    cases hw
  | map es =>
    obtain ⟨fs, rfl, -⟩ := unmarked_map_eq_ok h
    cases hw
  | _ => exact Except.ok.inj h

end Value

namespace Block

open Value

variable {b : Block}

theorem exists_attributeAt (hb : (Value.map b.body).keyedByText = true) {path : String}
    (hpath : Indexed (Text.fields '.' path.toList)) : ∃ v, b.attributeAt path = .ok v := by
  rw [attributeAt]
  obtain ⟨o, ho⟩ := exists_follow? hpath (.map b.body)
  rw [ho]
  cases o with
  | none => exact ⟨.null, rfl⟩
  | some v =>
    obtain ⟨u, hu⟩ := exists_seen (keyedByText_inherited.follow? hb ho)
    exact ⟨u, hu.unmarked_eq⟩

theorem of_attributeAt_leaf {P : Value → Prop} (hP : Inherited P) (hnull : P .null)
    (hb : P (.map b.body)) {path : String} {v : Value} (hv : b.attributeAt path = .ok v)
    (hleaf : v.isLeaf = true) : P v := by
  rw [attributeAt] at hv
  cases hfollow : follow? (Text.fields '.' path.toList) (.map b.body) with
  | error f =>
    rw [hfollow] at hv
    cases hv
  | ok o =>
    rw [hfollow] at hv
    cases o with
    | none =>
      cases hv
      exact hnull
    | some w =>
      obtain rfl := eq_of_unmarked_eq hv hleaf
      exact hP.follow? hb hfollow

theorem exists_childrenIn_of_textKeys {P : Value → Prop} (hP : Inherited P)
    (chosen : String → Bool) {es : List Entry} (hkeys : textKeys es = true)
    (hes : ∀ e ∈ es, isMarkerKey e.1 = false → P e.2) :
    ∃ bs, b.childrenIn chosen es = .ok bs ∧ ∀ c ∈ bs, P (.map c.body) := by
  have htexts : ∀ e ∈ es, ∃ s, e.1 = str s := fun e he => key_of_textKeys hkeys he
  clear hkeys
  induction es with
  | nil => exact ⟨[], rfl, by simp⟩
  | cons e es ih =>
    obtain ⟨k, v⟩ := e
    obtain ⟨⟨s, rfl⟩, hks⟩ := List.forall_mem_cons.mp htexts
    obtain ⟨hv, hvs⟩ := List.forall_mem_cons.mp hes
    obtain ⟨bs, hbs, hall⟩ := ih hvs hks
    rw [childrenIn_cons, hbs]
    refine ⟨_, rfl, fun c hc => ?_⟩
    split at hc
    · next hshown =>
      have hmarker : isMarker s = false := by
        simpa using (Bool.and_eq_true_iff.mp hshown).1
      rcases List.mem_append.mp hc with hfirst | hrest
      · exact body_of_mem_childrenOf hP (hv hmarker) hfirst
      · exact hall c hrest
    · exact hall c hc

theorem exists_childrenNamed {P : Value → Prop} (hP : Inherited P)
    (hkeys : (Value.map b.body).keyedByText = true) (hb : P (.map b.body)) (name : String) :
    ∃ bs, b.childrenNamed name = .ok bs ∧ ∀ c ∈ bs, P (.map c.body) :=
  exists_childrenIn_of_textKeys hP (· == name) (keyedByText_map.mp hkeys).1 (hP.entry hb)

theorem indexed_tagAttributes :
    ∀ name ∈ tagAttributes, Indexed (Text.fields '.' name.toList) := by decide

theorem exists_tag? (hb : (Value.map b.body).keyedByText = true) (key : String) :
    ∃ o, b.tag? key = .ok o := by
  have hnames : ∀ names, (∀ name ∈ names, Indexed (Text.fields '.' name.toList)) →
      ∃ o, b.tagIn key names = .ok o := by
    intro names hindexed
    induction names with
    | nil => exact ⟨none, rfl⟩
    | cons name names ih =>
      obtain ⟨hname, hrest⟩ := List.forall_mem_cons.mp hindexed
      obtain ⟨v, hv⟩ := exists_attributeAt hb hname
      obtain ⟨o, ho⟩ := ih hrest
      rw [tagIn, hv, ok_bind, ho]
      cases v.entries?.bind (lookup? key) with
      | none => exact ⟨o, rfl⟩
      | some w => exact ⟨some w, rfl⟩
  exact hnames tagAttributes indexed_tagAttributes

end Block
end BlockAudit
