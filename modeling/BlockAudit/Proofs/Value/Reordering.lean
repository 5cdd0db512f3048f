import BlockAudit.Proofs.Evaluation.Related
import BlockAudit.Proofs.Value.Equality
import BlockAudit.Proofs.Value.Showing
/-!
Values that are the same but for the order of entries. What is found in them, what is shown of them and what
they are equal to is the same again, up to such an order.
-/

namespace BlockAudit.Value

/-- The order changes only if texts are the keys, of these entries and of all mappings in them: a key that
is no text ends the reading, so the first one counts. -/
def Rearranged (es fs : List Entry) : Prop :=
  es = fs ∨ (map es).keyedByText = true ∧ es.Perm fs

mutual

inductive Reordered : Value → Value → Prop where
  | leaf {v : Value} (h : v.isLeaf = true) : Reordered v v
  | list {vs ws : List Value} (h : List.Forall₂ Reordered vs ws) : Reordered (list vs) (list ws)
  | pair {v w x y : Value} (first : Reordered v x) (second : Reordered w y) :
      Reordered (pair v w) (pair x y)
  -- The entries one by one, and then their order.
  | map {es gs fs : List Entry} (h : List.Forall₂ ReorderedEntry es gs) (order : Rearranged gs fs) :
      Reordered (map es) (map fs)

inductive ReorderedEntry : Entry → Entry → Prop where
  | mk {k v w : Value} (h : Reordered v w) : ReorderedEntry (k, v) (k, w)

end

variable {v w x y : Value} {es fs gs hs : List Entry} {vs ws : List Value}

theorem exists_of_mem_right {α β : Type} {R : α → β → Prop} {as : List α} {bs : List β} {b : β}
    (h : List.Forall₂ R as bs) (hb : b ∈ bs) : ∃ a ∈ as, R a b := by
  induction h with
  | nil => cases hb
  | cons hab _ ih =>
    rcases List.mem_cons.mp hb with rfl | hmem
    · exact ⟨_, List.mem_cons_self, hab⟩
    · obtain ⟨a, ha, hR⟩ := ih hmem
      exact ⟨a, List.mem_cons_of_mem _ ha, hR⟩

theorem Rearranged.perm (h : Rearranged es fs) : es.Perm fs := by
  rcases h with rfl | ⟨-, hperm⟩
  · exact .refl _
  · exact hperm

theorem Reordered.refl (v : Value) : Reordered v v := by
  induction v with
  | leaf v hleaf => exact .leaf hleaf
  | list vs ih => exact .list (List.forall₂_same.mpr ih)
  | pair v w ihv ihw => exact .pair ihv ihw
  | map es ih => exact .map (List.forall₂_same.mpr fun e he => .mk (ih e he)) (.inl rfl)

theorem Reordered.refl_option (o : Option Value) : Option.Rel Reordered o o := by
  cases o with
  | none => exact .none
  | some v => exact .some (.refl v)

theorem Reordered.of_perm (h : (Value.map es).keyedByText = true) (hperm : es.Perm fs) :
    Reordered (.map es) (.map fs) :=
  .map (List.forall₂_same.mpr fun e _ => .mk (.refl e.2)) (.inr ⟨h, hperm⟩)

theorem Reordered.eq_of_leaf (h : Reordered v w) (hv : v.isLeaf = true) : v = w := by
  cases h with
  | leaf _ => rfl
  | _ => cases hv

theorem Reordered.isLeaf (h : Reordered v w) : v.isLeaf = w.isLeaf := by
  cases h <;> rfl

theorem Reordered.isNull (h : Reordered v w) : v.isNull = w.isNull := by
  cases h <;> rfl

theorem Reordered.comparedText? (h : Reordered v w) : v.comparedText? = w.comparedText? := by
  cases h <;> rfl

theorem Reordered.number? (h : Reordered v w) : v.number? = w.number? := by
  cases h <;> rfl

theorem Reordered.spread (h : Reordered v w) : List.Forall₂ Reordered v.spread w.spread := by
  cases h with
  | list h => exact h
  | leaf _ => exact List.forall₂_same.mpr fun v _ => .refl v
  | pair hfirst hsecond => exact .cons (.pair hfirst hsecond) .nil
  | map h order => exact .cons (.map h order) .nil

theorem Reordered.entries? (h : Reordered v w) :
    Option.Rel (fun es fs => Reordered (.map es) (.map fs)) v.entries? w.entries? := by
  cases h with
  | map h order => exact .some (.map h order)
  | leaf hleaf =>
    cases v with
    | map es => cases hleaf
    | _ => exact .none
  | _ => exact .none

theorem textKeys_of_perm (h : textKeys es = true) (hperm : es.Perm fs) : textKeys fs = true := by
  obtain ⟨hall, hnodup⟩ := Bool.and_eq_true_iff.mp h
  refine Bool.and_eq_true_iff.mpr ⟨?_, decide_eq_true ?_⟩
  · rwa [← hperm.all_eq]
  · exact (hperm.filterMap _).nodup (of_decide_eq_true hnodup)

theorem find?_of_textKeys (h : textKeys es = true) (key : Value) :
    find? key es = key.text?.bind fun s => lookup? s es := by
  cases hkey : key.text? with
  | some s =>
    cases key <;> cases hkey
    exact find?_str s es
  | none =>
    have hne : ∀ e ∈ es, sameScalar key e.1 = false := by
      intro e he
      obtain ⟨s, hs⟩ := key_of_textKeys h he
      rw [hs]
      cases key with
      | str t => cases hkey
      | _ => simp [sameScalar, worth?]
    clear h
    induction es with
    | nil => rfl
    | cons e es ih =>
      obtain ⟨hhead, htail⟩ := List.forall_mem_cons.mp hne
      rw [find?, hhead]
      exact ih htail

theorem find?_rearranged (h : Rearranged es fs) (key : Value) : find? key es = find? key fs := by
  rcases h with rfl | ⟨hkeyed, hperm⟩
  · rfl
  · have hes := (keyedByText_map.mp hkeyed).1
    rw [find?_of_textKeys hes, find?_of_textKeys (textKeys_of_perm hes hperm)]
    exact congrArg key.text?.bind (funext fun s => lookup?_perm (namedOnce_of_textKeys hes) hperm s)

theorem find?_reorderedEntries (h : List.Forall₂ ReorderedEntry es gs) (key : Value) :
    Option.Rel Reordered (find? key es) (find? key gs) := by
  induction h with
  | nil => exact .none
  | cons hentry _ ih =>
    cases hentry with
    | mk hvw =>
      rw [find?, find?]
      split
      · exact .some hvw
      · exact ih

theorem find?_reordered (h : Reordered (map es) (map fs)) (key : Value) :
    Option.Rel Reordered (find? key es) (find? key fs) := by
  cases h with
  | leaf hleaf => cases hleaf
  | map h order =>
    rw [← find?_rearranged order]
    exact find?_reorderedEntries h key

theorem lookup?_reordered (h : Reordered (map es) (map fs)) (name : String) :
    Option.Rel Reordered (lookup? name es) (lookup? name fs) := by
  rw [← find?_str, ← find?_str]
  exact find?_reordered h (str name)

theorem getElem?_reordered (h : List.Forall₂ Reordered vs ws) (n : Nat) :
    Option.Rel Reordered vs[n]? ws[n]? := by
  induction h generalizing n with
  | nil => exact .none
  | cons hvw _ ih =>
    cases n with
    | zero => exact .some hvw
    | succ n => exact ih n

theorem member?_reordered (part : List Char) (h : Reordered v w) :
    Option.Rel Reordered (member? part v) (member? part w) := by
  cases h with
  | map hes order =>
    rw [member?, member?]
    split
    · exact .none
    · exact lookup?_reordered (.map hes order) _
  | leaf _ => exact Reordered.refl_option _
  | _ => exact .none

theorem step?_reordered (part : List Char) (h : Reordered v w) :
    SameOutcome (Option.Rel Reordered) (step? part v) (step? part w) := by
  cases h with
  | list h =>
    rw [step?, step?]
    split
    · rw [item?, item?]
      cases Number.natural? 10 part with
      | none => exact .error _
      | some n => exact .ok (getElem?_reordered h n)
    · cases h with
      | nil => exact .ok .none
      | cons hvw _ => exact .ok (member?_reordered part hvw)
  | leaf _ => exact .refl Reordered.refl_option _
  | pair hfirst hsecond => exact .ok (member?_reordered part (.pair hfirst hsecond))
  | map h order => exact .ok (member?_reordered part (.map h order))

theorem follow?_reordered (parts : List (List Char)) (h : Reordered v w) :
    SameOutcome (Option.Rel Reordered) (follow? parts v) (follow? parts w) := by
  induction parts generalizing v w with
  | nil => exact .ok (.some h)
  | cons part parts ih =>
    have hstep := step?_reordered part h
    rw [follow?, follow?]
    generalize step? part v = p, step? part w = q at hstep
    cases hstep with
    | error f => exact .error f
    | ok hrel =>
      cases hrel with
      | none => exact .ok .none
      | some hvw => exact ih hvw

theorem ShownEntries.perm (h : ShownEntries es gs) (hperm : es.Perm fs) :
    ∃ hs, ShownEntries fs hs ∧ gs.Perm hs := by
  induction hperm generalizing gs with
  | nil => exact ⟨gs, h, .refl _⟩
  | cons e _ ih =>
    cases h with
    | marker hmarker rest =>
      obtain ⟨hs, hshown, hperm⟩ := ih rest
      exact ⟨hs, .marker hmarker hshown, hperm⟩
    | shown hmarker value rest =>
      obtain ⟨hs, hshown, hperm⟩ := ih rest
      exact ⟨_, .shown hmarker value hshown, hperm.cons _⟩
  | swap e f es =>
    cases h with
    | marker hf rest =>
      cases rest with
      | marker he rest => exact ⟨gs, .marker he (.marker hf rest), .refl _⟩
      | shown he value rest => exact ⟨_, .shown he value (.marker hf rest), .refl _⟩
    | shown hf value rest =>
      cases rest with
      | marker he rest => exact ⟨_, .marker he (.shown hf value rest), .refl _⟩
      | shown he value' rest =>
        exact ⟨_, .shown he value' (.shown hf value rest), .swap _ _ _⟩
  | trans _ _ ih ih' =>
    obtain ⟨hs, hshown, hperm⟩ := ih h
    obtain ⟨ks, hshown', hperm'⟩ := ih' hshown
    exact ⟨ks, hshown', hperm.trans hperm'⟩

theorem ShownEntries.textKeys (h : ShownEntries es fs) (hes : textKeys es = true) :
    Value.textKeys fs = true := by
  obtain ⟨hall, hnodup⟩ := Bool.and_eq_true_iff.mp hes
  refine Bool.and_eq_true_iff.mpr ⟨List.all_eq_true.mpr fun f hf => ?_, decide_eq_true ?_⟩
  · obtain ⟨e, he, hkey⟩ := List.mem_map.mp (h.keys.subset (List.mem_map_of_mem hf))
    rw [← hkey]
    exact List.all_eq_true.mp hall e he
  · have hnames := of_decide_eq_true hnodup
    have hsublist := h.keys.filterMap text?
    rw [List.filterMap_map, List.filterMap_map] at hsublist
    exact hsublist.nodup hnames

theorem keyedByText_of_unmarked (hv : v.keyedByText = true) (h : v.unmarked = .ok w) :
    w.keyedByText = true := by
  induction v generalizing w with
  | leaf v hleaf => rwa [← Except.ok.inj ((unmarked_leaf hleaf).symm.trans h)]
  | list vs ih =>
    obtain ⟨us, rfl, hus⟩ := unmarked_list_eq_ok h
    refine everyPart_list.mpr ⟨rfl, fun u hu => ?_⟩
    obtain ⟨v, hmem, hshown⟩ := exists_of_mem_right hus hu
    exact ih v hmem ((everyPart_list.mp hv).2 v hmem) hshown
  | pair v w _ _ =>
    cases h
    exact hv
  | map es ih =>
    obtain ⟨fs, rfl, hfs⟩ := unmarked_map_eq_ok h
    obtain ⟨hkeys, hentries⟩ := keyedByText_map.mp hv
    refine keyedByText_map.mpr ⟨hfs.textKeys hkeys, fun f hf => ?_⟩
    obtain ⟨e, he, hshown⟩ := hfs.exists_of_mem hf
    exact ih e he (hentries e he) hshown

theorem unmarkedEntries_rearranged (h : Rearranged es fs) :
    SameOutcome Rearranged (unmarkedEntries es) (unmarkedEntries fs) := by
  rcases h with rfl | ⟨hkeyed, hperm⟩
  · exact .refl (fun _ => .inl rfl) _
  · obtain ⟨u, hu⟩ := exists_seen hkeyed
    obtain ⟨gs, rfl, hgs⟩ := unmarked_map_eq_ok hu.unmarked_eq
    obtain ⟨hs, hhs, hshown⟩ := hgs.perm hperm
    rw [unmarkedEntries_of_shownEntries hgs, unmarkedEntries_of_shownEntries hhs]
    exact .ok (.inr ⟨keyedByText_of_unmarked hkeyed hu.unmarked_eq, hshown⟩)

theorem unmarkedItems_reordered (h : List.Forall₂ Reordered vs ws)
    (ih : ∀ v ∈ vs, ∀ w, Reordered v w → SameOutcome Reordered v.unmarked w.unmarked) :
    SameOutcome (List.Forall₂ Reordered) (unmarkedItems vs) (unmarkedItems ws) := by
  induction h with
  | nil => exact .ok .nil
  | cons hvw _ ihs =>
    obtain ⟨hhead, htail⟩ := List.forall_mem_cons.mp ih
    rw [unmarkedItems, unmarkedItems]
    refine (hhead _ hvw).bind fun u u' hu => (ihs htail).bind fun us us' hus => ?_
    exact .ok (.cons hu hus)

theorem unmarkedEntries_reordered (h : List.Forall₂ ReorderedEntry es gs)
    (ih : ∀ e ∈ es, ∀ w, Reordered e.2 w → SameOutcome Reordered e.2.unmarked w.unmarked) :
    SameOutcome (List.Forall₂ ReorderedEntry) (unmarkedEntries es) (unmarkedEntries gs) := by
  induction h with
  | nil => exact .ok .nil
  | @cons e g es gs hentry _ ihs =>
    obtain ⟨hhead, htail⟩ := List.forall_mem_cons.mp ih
    cases hentry with
    | @mk k v w hvw =>
      rw [unmarkedEntries, unmarkedEntries]
      cases markerKey k with
      | error f => exact .error f
      | ok hidden =>
        rw [ok_bind, ok_bind]
        cases hidden with
        | true => exact ihs htail
        | false =>
          refine (hhead w hvw).bind fun u u' hu => (ihs htail).bind fun us us' hus => ?_
          exact .ok (.cons (.mk hu) hus)

theorem unmarked_reordered (h : Reordered v w) : SameOutcome Reordered v.unmarked w.unmarked := by
  induction v generalizing w with
  | leaf v hleaf => exact h.eq_of_leaf hleaf ▸ .refl Reordered.refl _
  | list vs ih =>
    cases h with
    | leaf hleaf => cases hleaf
    | list h => exact (unmarkedItems_reordered h fun v hv w => ih v hv).map fun us us' hus => .list hus
  | pair v w _ _ =>
    cases h with
    | leaf hleaf => cases hleaf
    | pair hfirst hsecond => exact .ok (.pair hfirst hsecond)
  | map es ih =>
    cases h with
    | leaf hleaf => cases hleaf
    | @map _ gs fs h order =>
      have hvalues := unmarkedEntries_reordered h fun e he w => ih e he
      have horder := unmarkedEntries_rearranged order
      rw [unmarked, unmarked]
      generalize unmarkedEntries es = p, unmarkedEntries gs = q, unmarkedEntries fs = r
        at hvalues horder
      cases hvalues with
      | error f =>
        cases horder
        exact .error f
      | ok hvalues =>
        cases horder with
        | ok horder => exact .ok (.map hvalues horder)

theorem sameItems_reordered {xs ys : List Value} (h : List.Forall₂ Reordered vs ws)
    (hx : List.Forall₂ Reordered xs ys)
    (ih : ∀ v ∈ vs, ∀ w x y, Reordered v w → Reordered x y → same v x = same w y) :
    sameItems vs xs = sameItems ws ys := by
  induction h generalizing xs ys with
  | nil => cases hx <;> rfl
  | cons hvw _ ihs =>
    obtain ⟨hhead, htail⟩ := List.forall_mem_cons.mp ih
    cases hx with
    | nil => rfl
    | cons hxy hxs => rw [sameItems, sameItems, hhead _ _ _ hvw hxy, ihs hxs htail]

theorem sameEntries_reorderedEntries (h : List.Forall₂ ReorderedEntry es gs)
    (hx : Reordered (map hs) (map fs))
    (ih : ∀ e ∈ es, ∀ w x y, Reordered e.2 w → Reordered x y → same e.2 x = same w y) :
    sameEntries es hs = sameEntries gs fs := by
  induction h with
  | nil => rfl
  | cons hentry _ ihs =>
    obtain ⟨hhead, htail⟩ := List.forall_mem_cons.mp ih
    cases hentry with
    | @mk k v w hvw =>
      have hfound := find?_reordered hx k
      rw [sameEntries, sameEntries, ihs htail]
      generalize find? k hs = p, find? k fs = q at hfound
      cases hfound with
      | none => rfl
      | some hxy => exact congrArg (· && _) (hhead _ _ _ hvw hxy)

theorem sameEntries_perm (h : es.Perm fs) (gs : List Entry) :
    sameEntries es gs = sameEntries fs gs := by
  rw [Bool.eq_iff_iff, sameEntries_iff, sameEntries_iff]
  exact ⟨fun hall e he => hall e (h.mem_iff.mpr he), fun hall e he => hall e (h.mem_iff.mp he)⟩

theorem length_eq_of_reordered (h : Reordered (.map es) (.map fs)) : es.length = fs.length := by
  cases h with
  | leaf hleaf => cases hleaf
  | map h order => rw [h.length_eq, order.perm.length_eq]

theorem same_of_leaf_left (h : v.isLeaf = true) (hx : x.isLeaf = false) : same v x = false := by
  cases v <;> cases x <;> simp_all [isLeaf, same, sameScalar, worth?]

theorem same_of_leaf_right (h : v.isLeaf = false) (hx : x.isLeaf = true) : same v x = false := by
  cases v <;> cases x <;> simp_all [isLeaf, same, sameScalar, worth?]

theorem same_reordered (h : Reordered v w) (hx : Reordered x y) : same v x = same w y := by
  induction v generalizing w x y with
  | leaf v hleaf =>
    obtain rfl := h.eq_of_leaf hleaf
    cases hkind : x.isLeaf with
    | true => rw [hx.eq_of_leaf hkind]
    | false => rw [same_of_leaf_left hleaf hkind, same_of_leaf_left hleaf (hx.isLeaf ▸ hkind)]
  | list vs ih =>
    cases h with
    | leaf hleaf => cases hleaf
    | list h =>
      cases hx with
      | leaf hx => rw [same_of_leaf_right rfl hx, same_of_leaf_right rfl hx]
      | list hx => exact sameItems_reordered h hx fun v hv w x y => ih v hv
      | _ => rfl
  | pair v w ihv ihw =>
    cases h with
    | leaf hleaf => cases hleaf
    | pair hfirst hsecond =>
      cases hx with
      | leaf hx => rw [same_of_leaf_right rfl hx, same_of_leaf_right rfl hx]
      | pair hx hy => rw [same, same, ihv hfirst hx, ihw hsecond hy]
      | _ => rfl
  | map es ih =>
    cases h with
    | leaf hleaf => cases hleaf
    | @map _ gs fs h order =>
      cases hx with
      | leaf hx => rw [same_of_leaf_right rfl hx, same_of_leaf_right rfl hx]
      | map hx order' =>
        have hmap := Reordered.map hx order'
        rw [same, same, h.length_eq, order.perm.length_eq, length_eq_of_reordered hmap,
          sameEntries_reorderedEntries h hmap fun e he w x y => ih e he,
          sameEntries_perm order.perm]
      | _ => rfl

theorem equal_eq_same (h : v.isLeaf = false ∨ x.isLeaf = false) : equal v x = same v x := by
  unfold equal
  split
  · exact (same_of_leaf_left rfl (h.resolve_left nofun)).symm
  · exact (same_of_leaf_right (h.resolve_right nofun) rfl).symm
  · rfl

theorem equal_reordered (h : Reordered v w) (hx : Reordered x y) : equal v x = equal w y := by
  by_cases hleaves : v.isLeaf = true ∧ x.isLeaf = true
  · rw [h.eq_of_leaf hleaves.1, hx.eq_of_leaf hleaves.2]
  · have hnot : v.isLeaf = false ∨ x.isLeaf = false :=
      (not_and_or.mp hleaves).imp Bool.eq_false_iff.mpr Bool.eq_false_iff.mpr
    rw [equal_eq_same hnot, same_reordered h hx, equal_eq_same (h.isLeaf ▸ hx.isLeaf ▸ hnot)]

theorem equalTo_reordered (h : Reordered v w) (hx : Reordered x y) :
    Comparison.equalTo v x = Comparison.equalTo w y := by
  rw [Comparison.equalTo, Comparison.equalTo, equal_reordered h hx, h.comparedText?,
    hx.comparedText?]

end BlockAudit.Value
