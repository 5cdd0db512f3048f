import BlockAudit.Evaluation.Comparison
import BlockAudit.Proofs.Value.Strip
/-!
Equality of values with markers. Keys are looked at too, so a value with markers in it differs from
every value without.
-/

namespace BlockAudit

open Number in
theorem Number.Binary.compare?_self {x : Binary} (h : ∀ k, x ≠ .nan k) :
    x.compare? x = some .eq := by
  cases x with
  | nan k => exact absurd rfl (h k)
  | infinite s => cases s <;> rfl
  | finite s m e => simp [Binary.compare?]

namespace Value

open Number

theorem sameScalar_self (a : Atom) : sameScalar a.value a.value = true := by
  have hworth : ∀ x : Binary, (∀ k, x ≠ .nan k) → x.eq x = true := fun x hx => by
    rw [Binary.eq, Binary.compare?_self hx]
    rfl
  cases a with
  | float x =>
    cases x with
    | nan k => simp [Atom.value, sameScalar]
    | finite s m e => exact hworth (.finite s m e) (by simp)
    | infinite s => exact hworth (.infinite s) (by simp)
  | bool b => exact hworth _ (by simp [Binary.exact])
  | int n => exact hworth _ (by simp [Binary.exact])
  | moment t =>
    simp only [Atom.value, sameScalar, Calendar.Moment.same]
    cases t.offset <;> simp
  | _ => simp [Atom.value, sameScalar]

theorem sameMembers_self (ms : List Atom) : sameMembers ms ms = true :=
  List.all_eq_true.mpr fun m hm => List.any_eq_true.mpr ⟨m, hm, sameScalar_self m⟩

theorem same_leaf_self {v : Value} (h : v.isLeaf = true) : same v v = true := by
  cases v with
  | null => exact sameScalar_self .null
  | bool b => exact sameScalar_self (.bool b)
  | int n => exact sameScalar_self (.int n)
  | float x => exact sameScalar_self (.float x)
  | str s => exact sameScalar_self (.str s)
  | bytes bs => exact sameScalar_self (.bytes bs)
  | date d => exact sameScalar_self (.date d)
  | moment t => exact sameScalar_self (.moment t)
  | set ms => rw [same, sameMembers_self, Bool.and_self]
  | list vs => cases h
  | pair v w => cases h
  | map es => cases h

theorem sameScalar_str {s : String} {k : Value} : sameScalar (str s) k = true ↔ k = str s := by
  cases k with
  | str t => simpa [sameScalar] using eq_comm
  | _ => simp [sameScalar, worth?]

theorem find?_str (s : String) (es : List Entry) : find? (str s) es = lookup? s es := by
  induction es with
  | nil => rfl
  | cons e es ih =>
    obtain ⟨k, v⟩ := e
    rw [find?, ih]
    by_cases hk : k = str s
    · rw [if_pos (sameScalar_str.mpr hk), hk, lookup?, if_pos rfl]
    · rw [if_neg (fun h => hk (sameScalar_str.mp h))]
      cases k <;> try rfl
      next t => rw [lookup?, if_neg fun ht => hk (congrArg str ht)]

theorem mem_of_find? {key : Value} {es : List Entry} {v : Value} (h : find? key es = some v) :
    ∃ k, (k, v) ∈ es := by
  induction es with
  | nil => cases h
  | cons e es ih =>
    rw [find?] at h
    split at h
    · exact ⟨e.1, Option.some.inj h ▸ List.mem_cons_self⟩
    · obtain ⟨k, hk⟩ := ih h
      exact ⟨k, List.mem_cons_of_mem _ hk⟩

theorem sameItems_self {vs : List Value} (h : ∀ v ∈ vs, same v v = true) :
    sameItems vs vs = true := by
  induction vs with
  | nil => rfl
  | cons v vs ih =>
    obtain ⟨hv, hvs⟩ := List.forall_mem_cons.mp h
    rw [sameItems, hv, ih hvs, Bool.and_self]

theorem sameEntries_iff {es fs : List Entry} : sameEntries es fs = true ↔
    ∀ e ∈ es, ∃ w, find? e.1 fs = some w ∧ same e.2 w = true := by
  induction es with
  | nil => simp [sameEntries]
  | cons e es ih =>
    rw [sameEntries, Bool.and_eq_true, ih, List.forall_mem_cons]
    apply and_congr_left'
    cases find? e.1 fs <;> simp

theorem same_self {v : Value} (h : v.keyedByText = true) : same v v = true := by
  induction v with
  | leaf v hleaf => exact same_leaf_self hleaf
  | list vs ih =>
    have hitems := (everyPart_list.mp h).2
    exact sameItems_self fun v hv => ih v hv (hitems v hv)
  | pair v w ihv ihw =>
    obtain ⟨-, hfirst, hsecond⟩ := everyPart_pair.mp h
    rw [same, ihv hfirst, ihw hsecond, Bool.and_self]
  | map es ih =>
    obtain ⟨hkeys, hentries⟩ := keyedByText_map.mp h
    rw [same, beq_self_eq_true, Bool.true_and, sameEntries_iff]
    intro e he
    obtain ⟨s, hs⟩ := key_of_textKeys hkeys he
    refine ⟨e.2, ?_, ih e he (hentries e he)⟩
    rw [hs, find?_str]
    exact lookup?_of_mem hkeys (hs ▸ he)

theorem markerFree_items_of_same {vs ws : List Value} (h : sameItems vs ws = true)
    (hws : ∀ w ∈ ws, w.markerFree = true)
    (ih : ∀ v ∈ vs, ∀ w, same v w = true → w.markerFree = true → v.markerFree = true) :
    ∀ v ∈ vs, v.markerFree = true := by
  induction vs generalizing ws with
  | nil => simp
  | cons v vs ihs =>
    cases ws with
    | nil => cases h
    | cons w ws =>
      rw [sameItems, Bool.and_eq_true] at h
      obtain ⟨hv, hvs⟩ := List.forall_mem_cons.mp ih
      obtain ⟨hw, hrest⟩ := List.forall_mem_cons.mp hws
      exact List.forall_mem_cons.mpr ⟨hv w h.1 hw, ihs h.2 hrest hvs⟩

theorem markerFree_of_same {v w : Value} (h : same v w = true) (hw : w.markerFree = true) :
    v.markerFree = true := by
  induction v generalizing w with
  | leaf v hleaf => exact markerFree_leaf hleaf
  | list vs ih =>
    cases w <;> try cases h
    next ws =>
      have hws := (everyPart_list.mp hw).2
      exact everyPart_list.mpr ⟨rfl, markerFree_items_of_same h hws ih⟩
  | pair v w ihv ihw =>
    cases w <;> try cases h
    next x y =>
      rw [same, Bool.and_eq_true] at h
      obtain ⟨-, hx, hy⟩ := everyPart_pair.mp hw
      exact everyPart_pair.mpr ⟨rfl, ihv h.1 hx, ihw h.2 hy⟩
  | map es ih =>
    cases w <;> try cases h
    next fs =>
      rw [same, Bool.and_eq_true] at h
      have hfound := sameEntries_iff.mp h.2
      obtain ⟨hkeys, hentries⟩ := markerFree_map.mp hw
      refine markerFree_map.mpr ⟨fun e he => ?_, fun e he => ?_⟩
      · obtain ⟨w, hw, -⟩ := hfound e he
        cases hk : e.1 <;> try rfl
        next s =>
          rw [hk, find?_str] at hw
          exact hkeys _ (mem_of_lookup? hw)
      · obtain ⟨w, hw, hsame⟩ := hfound e he
        obtain ⟨k, hk⟩ := mem_of_find? hw
        exact ih e he hsame (hentries _ hk)

theorem same_of_equal {v w : Value} (h : equal v w = true) : same v w = true := by
  unfold equal at h
  split at h
  · cases h
  · cases h
  · exact h

theorem markerFree_of_equalTo {v w : Value} (h : Comparison.equalTo v w = true)
    (hw : w.markerFree = true) : v.markerFree = true := by
  cases hleaf : v.isLeaf with
  | true => exact markerFree_leaf hleaf
  | false =>
    have hequal : v.equal w = true := by
      rcases Bool.or_eq_true_iff.mp h with h | h
      · exact h
      · cases v <;> first | cases h | cases hleaf
    exact markerFree_of_same (same_of_equal hequal) hw

theorem equalTo_self {v : Value} (h : v.keyedByText = true) : Comparison.equalTo v v = true := by
  have hsame := same_self h
  rw [Comparison.equalTo, Bool.or_eq_true]
  cases v with
  | float x => exact Or.inr (by simp [comparedText?])
  | _ => exact Or.inl hsame

end Value
end BlockAudit
