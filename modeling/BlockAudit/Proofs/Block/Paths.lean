import BlockAudit.Proofs.Block.Reading
import BlockAudit.Proofs.Number.Numeral
/-!
Paths put together. What is reached from an attribute is reached through it, and the attributes of a
nested block are those of the block around it under the place of the nested one. Main statement:
`attributeAt_nested`.
-/

namespace BlockAudit.Block

open Value

variable {b c : Block} {k : String} {v u : Value}

def shownAt (x : Except Fault (Option Value)) : Except Fault Value := do
  match ← x with
  | some v => v.unmarked
  | none => return .null

theorem attributeAt_eq (b : Block) (path : String) :
    b.attributeAt path = shownAt (follow? (Text.fields '.' path.toList) (.map b.body)) := rfl

theorem shownAt_of_showing {x y : Except Fault (Option Value)} (h : Showing x y) :
    shownAt y = shownAt x := by
  cases h with
  | fault f => rfl
  | absent => rfl
  | found hv => exact (unmarked_unmarked hv).trans hv.symm

theorem fields_dotted (p q : String) : Text.fields '.' (p ++ "." ++ q).toList =
    Text.fields '.' p.toList ++ Text.fields '.' q.toList := by
  have hdot : ".".toList = ['.'] := rfl
  rw [String.toList_append, String.toList_append, hdot, List.append_assoc, List.singleton_append,
    Text.fields_append_cons]

theorem follow?_null (q : String) : follow? (Text.fields '.' q.toList) .null = .ok none := by
  obtain ⟨part, parts, hfields⟩ := List.exists_cons_of_ne_nil (Text.fields_ne_nil '.' q.toList)
  rw [hfields]
  rfl

theorem follow?_of_lookup? {es : List Entry} (h : lookup? k es = some v) (hdot : '.' ∉ k.toList)
    (hmarker : isMarker k = false) :
    follow? (Text.fields '.' k.toList) (.map es) = .ok (some v) := by
  have hstep : step? k.toList (.map es) = .ok (some v) := by
    rw [step?, member?, String.ofList_toList, if_neg (by simp [hmarker]), h]
    intro vs hvs
    cases hvs
  rw [Text.fields_of_not_mem hdot, follow?, hstep]
  rfl

theorem attributeAt_dotted {p : String} (h : b.attributeAt p = .ok u) (q : String) :
    b.attributeAt (p ++ "." ++ q) = shownAt (follow? (Text.fields '.' q.toList) u) := by
  rw [attributeAt_eq, fields_dotted]
  rw [attributeAt_eq] at h
  cases hp : follow? (Text.fields '.' p.toList) (.map b.body) with
  | error f =>
    rw [hp] at h
    cases h
  | ok o =>
    rw [hp] at h
    cases o with
    | none =>
      cases h
      rw [follow?_append_of_none hp, follow?_null]
    | some v =>
      rw [follow?_append hp]
      exact (shownAt_of_showing (showing_follow? _ h)).symm

theorem attributeAt_through {p : String} (h : b.attributeAt p = .ok u) (hc : c.body = [(.str "v", u)])
    (q : String) : c.attributeAt ("v" ++ "." ++ q) = b.attributeAt (p ++ "." ++ q) := by
  have hname : follow? (Text.fields '.' "v".toList) (.map [(.str "v", u)]) = .ok (some u) := rfl
  rw [attributeAt_dotted h, attributeAt_eq, fields_dotted, hc, follow?_append hname]

theorem attributeAt_below {place : String}
    (h : follow? (Text.fields '.' place.toList) (.map b.body) = .ok (some (.map c.body))) (q : String) :
    c.attributeAt q = b.attributeAt (place ++ "." ++ q) := by
  rw [attributeAt_eq, attributeAt_eq, fields_dotted, follow?_append h]

section

variable (hb : (Value.map b.body).keyedByText = true) (hk : (.str k, v) ∈ b.body)
  (hdot : '.' ∉ k.toList) (hmarker : isMarker k = false)

include hb hk hdot hmarker

theorem follow?_key : follow? (Text.fields '.' k.toList) (.map b.body) = .ok (some v) :=
  follow?_of_lookup? (lookup?_of_mem (keyedByText_map.mp hb).1 hk) hdot hmarker

theorem follow?_item {vs : List Value} (hv : v = .list vs) (j : Nat) :
    follow? (Text.fields '.' (k ++ "." ++ toString j).toList) (.map b.body) = .ok vs[j]? := by
  have hdigits : (toString j).toList = Nat.toDigits 10 j := by simp
  have hplain : '.' ∉ Nat.toDigits 10 j := fun hmem =>
    absurd (Number.isDigit_of_mem_digits j '.' hmem) (by decide)
  have hstep : step? (Nat.toDigits 10 j) (.list vs) = .ok vs[j]? := by
    rw [step?, if_pos (Number.isDigits_toDigits j), item?, Number.natural?_toDigits]
  rw [fields_dotted, follow?_append (follow?_key hb hk hdot hmarker), hdigits,
    Text.fields_of_not_mem hplain, hv, follow?, hstep]
  cases vs[j]? <;> rfl

end

theorem childrenIn_of_not_mem {es : List Entry} (hkeys : ∀ e ∈ es, ∃ s, e.1 = .str s)
    (h : ∀ w, (.str k, w) ∉ es) : b.childrenIn (· == k) es = .ok [] := by
  induction es with
  | nil => rfl
  | cons e es ih =>
    obtain ⟨name, w⟩ := e
    obtain ⟨⟨s, rfl⟩, hrest⟩ := List.forall_mem_cons.mp hkeys
    have hne : s ≠ k := by
      rintro rfl
      exact h w List.mem_cons_self
    rw [childrenIn_cons, ih hrest fun w hw => h w (List.mem_cons_of_mem _ hw)]
    simp [Except.map, hne]

theorem childrenIn_of_mem {es : List Entry} (hes : textKeys es = true) (hk : (.str k, v) ∈ es)
    (hmarker : isMarker k = false) : b.childrenIn (· == k) es = .ok (b.childrenOf k v) := by
  have hkeys : ∀ e ∈ es, ∃ s, e.1 = .str s := fun e he => key_of_textKeys hes he
  have honce := namedOnce_of_textKeys hes
  clear hes
  induction es with
  | nil => cases hk
  | cons e es ih =>
    obtain ⟨name, w⟩ := e
    obtain ⟨⟨s, rfl⟩, hrest⟩ := List.forall_mem_cons.mp hkeys
    obtain ⟨hfresh, honce⟩ := List.nodup_cons.mp honce
    rw [childrenIn_cons]
    rcases List.mem_cons.mp hk with heq | hmem
    · cases heq
      rw [childrenIn_of_not_mem hrest]
      · simp [Except.map, hmarker]
      · exact fun w hw => hfresh (List.mem_filterMap.mpr ⟨_, hw, rfl⟩)
    · have hne : s ≠ k := by
        rintro rfl
        exact hfresh (List.mem_filterMap.mpr ⟨_, hmem, rfl⟩)
      rw [ih hmem hrest honce]
      simp [Except.map, hne]

def nestedPlaces (k : String) : Value → List (String × List Entry)
  | .map es => [(k, es)]
  | .list vs => vs.zipIdx.filterMap fun (item, j) => item.entries?.map (k ++ "." ++ toString j, ·)
  | _ => []

def IsAt (b : Block) (place : String × List Entry) (c : Block) : Prop :=
  c.body = place.2 ∧
    follow? (Text.fields '.' place.1.toList) (.map b.body) = .ok (some (.map place.2))

theorem forall₂_items {vs : List Value} (n : Nat)
    (h : ∀ i, follow? (Text.fields '.' (k ++ "." ++ toString (n + i)).toList) (.map b.body) =
      .ok vs[i]?) :
    List.Forall₂ b.IsAt
      ((vs.zipIdx n).filterMap fun (item, j) => item.entries?.map (k ++ "." ++ toString j, ·))
      (vs.filterMap fun item => item.entries?.map (b.nested k)) := by
  induction vs generalizing n with
  | nil => exact .nil
  | cons item vs ih =>
    have htail := ih (n + 1) fun i => by
      rw [Nat.add_right_comm]
      exact h (i + 1)
    rw [List.zipIdx_cons, List.filterMap_cons, List.filterMap_cons]
    cases item with
    | map es => exact .cons ⟨rfl, h 0⟩ htail
    | _ => exact htail

theorem forall₂_nestedPlaces (hb : (Value.map b.body).keyedByText = true) (hk : (.str k, v) ∈ b.body)
    (hdot : '.' ∉ k.toList) (hmarker : isMarker k = false) :
    List.Forall₂ b.IsAt (nestedPlaces k v) (b.childrenOf k v) := by
  cases v with
  | map es => exact .cons ⟨rfl, follow?_key hb hk hdot hmarker⟩ .nil
  | list vs =>
    refine forall₂_items 0 fun i => ?_
    rw [Nat.zero_add]
    exact follow?_item hb hk hdot hmarker rfl i
  | _ => exact .nil

theorem follow?_first {es : List Entry} {vs : List Value} {q : String}
    (h : Text.isDigits ((Text.fields '.' q.toList).headD []) = false) :
    follow? (Text.fields '.' q.toList) (.list (.map es :: vs)) =
      follow? (Text.fields '.' q.toList) (.map es) := by
  obtain ⟨part, parts, hfields⟩ := List.exists_cons_of_ne_nil (Text.fields_ne_nil '.' q.toList)
  rw [hfields, List.headD_cons] at h
  have hstep : step? part (.list (.map es :: vs)) = step? part (.map es) := by
    rw [step?, if_neg (by simp [h])]
    rfl
  rw [hfields, follow?, follow?, hstep]

/-- A path goes on from what is shown at its first part, and each mapping under a key is a nested block,
with the attributes that are found by going on from its place. The first item's number may be left
out. -/
theorem attributeAt_nested (hb : (Value.map b.body).keyedByText = true) :
    (∀ p u, b.attributeAt p = .ok u → ∀ c : Block, c.body = [(.str "v", u)] → ∀ q,
      c.attributeAt ("v" ++ "." ++ q) = b.attributeAt (p ++ "." ++ q)) ∧
    ∀ k v, (.str k, v) ∈ b.body → '.' ∉ k.toList → isMarker k = false →
      ∃ cs, b.childrenNamed k = .ok cs ∧
        List.Forall₂ (fun place c => c.body = place.2 ∧
          ∀ q, c.attributeAt q = b.attributeAt (place.1 ++ "." ++ q)) (nestedPlaces k v) cs ∧
        ∀ es vs, v = .list (.map es :: vs) → ∃ c rest, cs = c :: rest ∧ c.body = es ∧
          ∀ q, Text.isDigits ((Text.fields '.' q.toList).headD []) = false →
            c.attributeAt q = b.attributeAt (k ++ "." ++ q) := by
  refine ⟨fun p u h c hc q => attributeAt_through h hc q, fun k v hk hdot hmarker => ?_⟩
  refine ⟨b.childrenOf k v, childrenIn_of_mem (keyedByText_map.mp hb).1 hk hmarker, ?_, ?_⟩
  · refine (forall₂_nestedPlaces hb hk hdot hmarker).imp fun place c hplace => ?_
    exact ⟨hplace.1, fun q => attributeAt_below (hplace.1 ▸ hplace.2) q⟩
  · rintro es vs rfl
    refine ⟨b.nested k es, _, rfl, rfl, fun q hq => ?_⟩
    rw [attributeAt_eq, attributeAt_eq, fields_dotted,
      follow?_append (follow?_key hb hk hdot hmarker), follow?_first hq]
    rfl

def rules : List Value :=
  [.map [(.str "port", .int 80), (.str "__line__", .int 3)], .null, .map [(.str "port", .int 443)]]

def ruled : Block := ⟨"resource", ["firewall"], [(.str "rule", .list rules)], .file "main.json", []⟩

theorem attributeAt_nested_ruled : (Value.map ruled.body).keyedByText = true ∧
    (∀ c : Block, c.body = [(.str "v", .int 80)] →
      c.attributeAt ("v" ++ "." ++ "x") = ruled.attributeAt ("rule.port" ++ "." ++ "x")) ∧
    ∃ c rest, ruled.childrenNamed "rule" = .ok (c :: rest) ∧
      c.attributeAt "port" = ruled.attributeAt ("rule" ++ "." ++ "port") := by
  have hb : (Value.map ruled.body).keyedByText = true := by decide
  obtain ⟨hthrough, hnested⟩ := attributeAt_nested hb
  refine ⟨hb, fun c hc => hthrough "rule.port" (.int 80) rfl c hc "x", ?_⟩
  obtain ⟨cs, hcs, -, hfirst⟩ := hnested "rule" (.list rules) List.mem_cons_self (by decide) (by decide)
  obtain ⟨c, rest, rfl, -, hread⟩ := hfirst _ _ rfl
  exact ⟨c, rest, hcs, hread "port" (by decide)⟩

end BlockAudit.Block
