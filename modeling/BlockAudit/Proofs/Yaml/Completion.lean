import BlockAudit.Proofs.Yaml.Arising
/-!
Completing a document ends well exactly when all nodes that it meets are well formed, and then the scalars
have their settled values. Neither depends on whether lines are tracked.
-/

namespace BlockAudit.Yaml

open Node

namespace Progress

theorem mem_of_lookup {n : Node} {v : Value} {l : List (Node × Value)} (h : l.lookup n = some v) :
    (n, v) ∈ l := by
  induction l with
  | nil => cases h
  | cons e l ih =>
    obtain ⟨m, w⟩ := e
    rw [List.lookup_cons] at h
    split at h
    · next heq =>
      cases h
      rw [eq_of_beq heq]
      exact List.mem_cons_self
    · exact List.mem_cons_of_mem _ (ih h)

theorem knows_iff {st : Progress} {n : Node} :
    st.knows n = true ↔ n ∈ st.collections ∨ ∃ v, st.scalars.lookup n = some v := by
  rw [knows, Bool.or_eq_true, List.contains_iff_mem, Option.isSome_iff_exists]

theorem isText_iff {st : Progress} {k : Node} :
    st.isText k = true ↔ ∃ m ∈ st.merged, k ∈ m.keys := by
  simp [isText]

theorem isCollection_tagOf (st : Progress) (n : Node) :
    (st.tagOf n).isCollection = n.tag.isCollection := by
  rw [tagOf]
  split
  · next h =>
    simp only [Bool.and_eq_true, decide_eq_true_eq] at h
    rw [h.1]
    rfl
  · rfl

def Done (root : Node) (st : Progress) (n : Node) : Prop :=
  WellFormed root n ∧ ∀ s ∈ n.steps, s.isMeeting = true → st.knows s.node = true

/-- What holds all the time. The collections that have begun wait, or are done, or are `pending`: they have
waited and it is their turn. -/
structure Sane (root : Node) (pending : List Node) (st : Progress) : Prop where
  scalars : ∀ n v, (n, v) ∈ st.scalars → n.tag.isCollection = false ∧ settledScalar root n = .ok v
  merged : ∀ m ∈ st.merged, Merges root m
  collections : ∀ n ∈ st.collections,
    n.tag.isCollection = true ∧ (n ∈ st.waiting ∨ n ∈ pending ∨ st.Done root n)
  waiting : ∀ n ∈ st.waiting, Met root n ∧ n.tag.isCollection = true

/-- Nothing is forgotten, and what has started to wait is lower than `height`. -/
structure Advances (root : Node) (pending : List Node) (height : Nat) (st st' : Progress) : Prop where
  sane : Sane root pending st'
  knows : ∀ n, st.knows n = true → st'.knows n = true
  merged : ∀ m ∈ st.merged, m ∈ st'.merged
  waiting : ∀ n ∈ st'.waiting, n ∈ st.waiting ∨ n.height < height

variable {root n m c k : Node} {pending : List Node} {height : Nat} {st st' st'' : Progress}

theorem advances_self (h : Sane root pending st) : Advances root pending height st st :=
  ⟨h, fun _ h => h, fun _ h => h, fun _ h => Or.inl h⟩

theorem Advances.trans (h : Advances root pending height st st')
    (h' : Advances root pending height st' st'') : Advances root pending height st st'' where
  sane := h'.sane
  knows n hn := h'.knows n (h.knows n hn)
  merged m hm := h'.merged m (h.merged m hm)
  waiting n hn := by
    rcases h'.waiting n hn with hn | hn
    · exact h.waiting n hn
    · exact Or.inr hn

theorem Advances.mono {height' : Nat} (hle : height ≤ height')
    (h : Advances root pending height st st') : Advances root pending height' st st' where
  sane := h.sane
  knows := h.knows
  merged := h.merged
  waiting n hn := (h.waiting n hn).imp_right fun hlt => Nat.lt_of_lt_of_le hlt hle

theorem Done.mono (h : st.Done root n) (hknows : ∀ n, st.knows n = true → st'.knows n = true) :
    st'.Done root n :=
  ⟨h.1, fun s hs hmeeting => hknows _ (h.2 s hs hmeeting)⟩

theorem Sane.becomesText (h : Sane root pending st) (hk : st.isText k = true) :
    BecomesText root k := by
  obtain ⟨m, hm, hkey⟩ := isText_iff.mp hk
  exact ⟨m, h.merged m hm, hkey⟩

theorem Sane.isText_eq_false (h : Sane root pending st) (hk : ¬BecomesText root k) :
    st.isText k = false :=
  Bool.eq_false_iff.mpr fun htext => hk (h.becomesText htext)

theorem Sane.tagOf_eq (h : Sane root pending st)
    (hrole : n.tag = .value → BecomesText root n → st.isText n = true) :
    st.tagOf n = settledTag root n := by
  rw [tagOf, settledTag]
  by_cases htag : n.tag = .value
  · by_cases htext : BecomesText root n
    · simp [htag, htext, hrole htag htext]
    · simp [htext, h.isText_eq_false htext]
  · simp [htag]

theorem Sane.merge (h : Sane root pending st) (hn : Met root n) (hbuilt : n.isBuilt = true) :
    Advances root pending height st { st with merged := n.sources ++ st.merged } where
  sane :=
    { h with
      merged := by
        intro m hm
        rcases List.mem_append.mp hm with hm | hm
        · exact ⟨n, hn, hbuilt, hm⟩
        · exact h.merged m hm }
  knows _ h := h
  merged _ hm := List.mem_append_right _ hm
  waiting _ h := Or.inl h

theorem knows_cons_collections : ({ st with collections := c :: st.collections } : Progress).knows n =
    (n == c || st.knows n) := by
  rw [knows, knows, List.contains_cons, Bool.or_assoc]

theorem Sane.finish (h : Sane root pending st) (htag : n.tag.isCollection = true)
    (hdone : st.Done root n) :
    Advances root pending height st { st with collections := n :: st.collections } where
  sane :=
    { h with
      collections := by
        have hknows : ∀ m, st.knows m = true →
            ({ st with collections := n :: st.collections } : Progress).knows m = true := by
          intro m hm
          rw [knows_cons_collections, hm, Bool.or_true]
        intro m hm
        rcases List.mem_cons.mp hm with rfl | hm
        · exact ⟨htag, Or.inr (Or.inr (hdone.mono hknows))⟩
        · obtain ⟨hm, hstate⟩ := h.collections m hm
          exact ⟨hm, hstate.imp_right (Or.imp_right fun hm => hm.mono hknows)⟩ }
  knows := by
    intro m hm
    rw [knows_cons_collections, hm, Bool.or_true]
  merged _ hm := hm
  waiting _ hm := Or.inl hm

theorem Sane.wait (h : Sane root pending st) (hn : Met root n) (htag : n.tag.isCollection = true) :
    Advances root pending (n.height + 1) st
      { st with collections := n :: st.collections, waiting := n :: st.waiting } where
  sane :=
    { h with
      collections := by
        intro m hm
        rcases List.mem_cons.mp hm with rfl | hm
        · exact ⟨htag, Or.inl List.mem_cons_self⟩
        · obtain ⟨hm, hstate⟩ := h.collections m hm
          refine ⟨hm, ?_⟩
          rcases hstate with hstate | hstate | hstate
          · exact Or.inl (List.mem_cons_of_mem _ hstate)
          · exact Or.inr (Or.inl hstate)
          · refine Or.inr (Or.inr (hstate.mono fun c hc => ?_))
            rw [← Bool.or_true (c == n), ← hc]
            exact knows_cons_collections
      waiting := by
        intro m hm
        rcases List.mem_cons.mp hm with rfl | hm
        · exact ⟨hn, htag⟩
        · exact h.waiting m hm }
  knows := by
    intro m hm
    rw [← Bool.or_true (m == n), ← hm]
    exact knows_cons_collections
  merged _ hm := hm
  waiting := by
    intro m hm
    rcases List.mem_cons.mp hm with rfl | hm
    · exact Or.inr (Nat.lt_succ_self _)
    · exact Or.inl hm

theorem Sane.learn (h : Sane root pending st) (htag : n.tag.isCollection = false) {v : Value}
    (hv : settledScalar root n = .ok v) :
    Advances root pending height st { st with scalars := (n, v) :: st.scalars } := by
  have hknows : ∀ m, st.knows m = true →
      ({ st with scalars := (n, v) :: st.scalars } : Progress).knows m = true := by
    intro m hm
    rw [knows_iff] at hm ⊢
    refine hm.imp_right fun ⟨w, hw⟩ => ?_
    rw [List.lookup_cons]
    split
    · exact ⟨v, rfl⟩
    · exact ⟨w, hw⟩
  refine ⟨{ h with scalars := ?_, collections := ?_ }, hknows, fun _ h => h, fun _ h => Or.inl h⟩
  · intro m w hm
    rcases List.mem_cons.mp hm with hm | hm
    · cases hm
      exact ⟨htag, hv⟩
    · exact h.scalars m w hm
  · intro m hm
    obtain ⟨hm, hstate⟩ := h.collections m hm
    exact ⟨hm, hstate.imp_right (Or.imp_right fun hm => hm.mono hknows)⟩

end Progress

namespace Completion

open Progress

variable {α β : Type} {root n m c k : Node} {s : Step} {pending : List Node} {height : Nat}
  {st st' : Progress} {Q : α → Progress → Prop} {R : β → Progress → Prop}

def Leads (root : Node) (x : Completion α) (st : Progress) (Q : α → Progress → Prop) : Prop :=
  match x.run st with
  | .ok (a, st') => Q a st'
  | .error f => ∃ n, Met root n ∧ IllFormed root n f

theorem leads_pure {a : α} (h : Q a st) : Leads root (pure a) st Q := h

theorem leads_get {x : Progress → Completion α} (h : Leads root (x st) st Q) :
    Leads root (get >>= x) st Q := h

theorem leads_fail (hn : Met root n) (htag : n.tag.isCollection = true) (h : ¬WellFormed root n) :
    Leads root (fail : Completion α) st Q :=
  ⟨n, hn, illFormed_of_isCollection htag h⟩

theorem Leads.bind {x : Completion α} {g : α → Completion β} (h : Leads root x st Q)
    (hg : ∀ a st', Q a st' → Leads root (g a) st' R) : Leads root (x >>= g) st R := by
  unfold Leads at h ⊢
  rw [StateT.run_bind]
  cases hx : x.run st with
  | error f =>
    rw [hx] at h
    exact h
  | ok r =>
    rw [hx] at h
    exact hg r.1 r.2 h

theorem Leads.mono {Q' : α → Progress → Prop} {x : Completion α} (h : Leads root x st Q)
    (hQ : ∀ a st', Q a st' → Q' a st') : Leads root x st Q' := by
  unfold Leads at h ⊢
  split at h
  · exact hQ _ _ h
  · exact h

theorem leads_forM (height : Nat) {f : β → Completion Unit} {P : Progress → Prop}
    {R : β → Progress → Prop}
    (hsane : ∀ {st}, P st → Sane root pending st)
    (hP : ∀ {st st'}, P st → Advances root pending height st st' → P st')
    (hR : ∀ {b st st'}, R b st → Advances root pending height st st' → R b st') {bs : List β}
    (hf : ∀ b ∈ bs, ∀ st, P st →
      Leads root (f b) st fun _ st' => Advances root pending height st st' ∧ R b st')
    (hst : P st) : Leads root (bs.forM f) st fun _ st' =>
      Advances root pending height st st' ∧ ∀ b ∈ bs, R b st' := by
  induction bs generalizing st with
  | nil => exact leads_pure ⟨advances_self (hsane hst), nofun⟩
  | cons b bs ih =>
    refine (hf b List.mem_cons_self st hst).bind fun _ st' ⟨hadv, hb⟩ => ?_
    have hrest := ih (fun c hc => hf c (List.mem_cons_of_mem _ hc)) (hP hst hadv)
    refine hrest.mono fun _ st'' ⟨hadv', hbs⟩ => ⟨hadv.trans hadv', ?_⟩
    exact List.forall_mem_cons.mpr ⟨hR hb hadv', hbs⟩

theorem not_wellFormed_of_not_isShaped (htag : n.tag.isCollection = true)
    (h : n.isShaped = false) : ¬WellFormed root n := by
  intro hn
  rw [WellFormed, if_pos htag, h] at hn
  cases hn.1

theorem not_wellFormed_of_not_fits (htag : n.tag.isCollection = true) (hs : s ∈ n.steps)
    (h : ¬s.Fits) : ¬WellFormed root n := by
  intro hn
  rw [WellFormed, if_pos htag] at hn
  exact h (hn.2 s hs)

def Ready (root : Node) (pending : List Node) (n : Node) (st : Progress) : Prop :=
  Sane root pending st ∧ (n.isBuilt = true → ∀ m ∈ n.sources, m ∈ st.merged)

theorem Ready.advance (h : Ready root pending n st) (hadv : Advances root pending height st st') :
    Ready root pending n st' :=
  ⟨hadv.sane, fun hbuilt m hm => hadv.merged m (h.2 hbuilt m hm)⟩

theorem prepare_leads (height : Nat) (hn : Met root n) (htag : n.tag.isCollection = true)
    (hst : Sane root pending st) : Leads root (prepare n) st fun _ st' =>
      Advances root pending height st st' ∧ n.isShaped = true ∧ Ready root pending n st' := by
  have hfail : n.isShaped = false → Leads root (fail : Completion Unit) st fun _ st' =>
      Advances root pending height st st' ∧ n.isShaped = true ∧ Ready root pending n st' :=
    fun h => leads_fail hn htag (not_wellFormed_of_not_isShaped htag h)
  have hstay : n.isShaped = true → n.isBuilt = false → Leads root (pure () : Completion Unit) st
      fun _ st' => Advances root pending height st st' ∧ n.isShaped = true ∧
        Ready root pending n st' :=
    fun hshaped hbuilt => leads_pure ⟨advances_self hst, hshaped, hst, by rw [hbuilt]; nofun⟩
  have hmerge : n.isBuilt = true → n.isShaped = n.entries?.isSome → Leads root (merge n) st
      fun _ st' => Advances root pending height st st' ∧ n.isShaped = true ∧
        Ready root pending n st' := by
    intro hbuilt hshaped
    have hadv : Advances root pending height st { st with merged := n.sources ++ st.merged } :=
      hst.merge hn hbuilt
    unfold merge
    cases hes : n.entries? with
    | none => exact hfail (by rw [hshaped, hes]; rfl)
    | some es =>
      refine ⟨hadv, by rw [hshaped, hes]; rfl, hadv.sane, fun _ m hm => ?_⟩
      exact List.mem_append_left _ hm
  cases n with
  | scalar i t text => exact hfail rfl
  | cycle isMapping i => exact hfail rfl
  | sequence i t ns => cases t <;> first | exact hstay rfl rfl | exact hfail rfl
  | mapping i t es j l => cases t <;> first | exact hmerge rfl rfl | exact hfail rfl

theorem checkPair_leads (height : Nat) (hsteady : Steady root) (hn : Met root n)
    (htag : n.tag.isCollection = true) (hs : .pair m ∈ n.steps) (hst : Sane root pending st) :
    Leads root (checkPair m) st fun _ st' => Advances root pending height st st' ∧
      (Step.pair m).Fits := by
  have hfail : ¬(Step.pair m).Fits → Leads root (fail : Completion Unit) st fun _ st' =>
      Advances root pending height st st' ∧ (Step.pair m).Fits :=
    fun h => leads_fail hn htag (not_wellFormed_of_not_fits htag hs h)
  unfold checkPair
  refine leads_get ?_
  split
  · next e he =>
    cases hmerge : m.hasMerge with
    | false => exact leads_pure ⟨advances_self hst, ⟨e, he⟩, hmerge⟩
    | true =>
      have hnew : st.merged.contains m = false := by
        apply Bool.eq_false_iff.mpr
        intro hm
        exact hsteady.pair m (hn.arises hs) hmerge (hst.merged m (List.contains_iff_mem.mp hm))
      rw [hnew]
      exact hfail fun h => by cases hmerge.symm.trans h.2
  · next hne => exact hfail fun h => h.1.elim hne

theorem meetNew_leads (hsteady : Steady root) (tracked deep : Bool)
    {completion : Completion Unit} (hn : Met root n) (hst : Sane root pending st)
    (hrole : n.tag = .value → BecomesText root n → st.isText n = true)
    (hcompletion : n.tag.isCollection = true → Leads root completion st fun _ st' =>
      Advances root pending n.height st st' ∧ st'.Done root n) :
    Leads root (meetNew tracked deep n completion) st fun _ st' =>
      Advances root pending (n.height + 1) st st' ∧ st'.knows n = true := by
  have hknown : ∀ st : Progress,
      ({ st with collections := n :: st.collections } : Progress).knows n = true := by
    intro st
    rw [knows_cons_collections, beq_self_eq_true, Bool.true_or]
  change Leads root (if (st.tagOf n).isCollection = true then _ else _) st _
  rw [isCollection_tagOf]
  split
  · next htag =>
    split
    · refine (hcompletion htag).bind fun _ st' ⟨hadv, hdone⟩ => ?_
      exact ⟨(hadv.mono (Nat.le_succ _)).trans (hadv.sane.finish htag hdone), hknown _⟩
    · exact ⟨hst.wait hn htag, hknown { st with waiting := n :: st.waiting }⟩
  · next htag =>
    have htag := Bool.eq_false_iff.mpr htag
    have hsettled : scalarMeaning st.isText (st.tagOf n) n = settledScalar root n := by
      rw [hst.tagOf_eq hrole, settledScalar]
      apply scalarMeaning_congr
      exact fun k hk => hst.isText_eq_false (hsteady.default n hn htag k hk)
    rw [hsettled]
    cases hv : settledScalar root n with
    | error f => exact ⟨n, hn, illFormed_of_settledScalar htag hv⟩
    | ok v =>
      refine ⟨hst.learn htag hv, knows_iff.mpr (Or.inr ⟨v, ?_⟩)⟩
      exact List.lookup_cons_self

theorem meet_leads (hsteady : Steady root) (hacyclic : root.acyclic = true) (tracked deep : Bool)
    {completion : Completion Unit} (hn : Met root n) (hst : Sane root pending st)
    (hrole : n.tag = .value → BecomesText root n → st.isText n = true)
    (hcompletion : n.tag.isCollection = true → Leads root completion st fun _ st' =>
      Advances root pending n.height st st' ∧ st'.Done root n) :
    Leads root (meet tracked deep n completion) st fun _ st' =>
      Advances root pending (n.height + 1) st st' ∧ st'.knows n = true := by
  have hnew := meetNew_leads hsteady tracked deep hn hst hrole hcompletion
  change Leads root (if st.knows n = true then pure () else _) st _
  split
  · next hknown => exact leads_pure ⟨advances_self hst, hknown⟩
  · cases n with
    | cycle isMapping i => exact (not_met_cycle hacyclic hn).elim
    | scalar i t text => exact hnew
    | sequence i t ns => exact hnew
    | mapping i t es j l => exact hnew

def Passed (st : Progress) (s : Step) : Prop :=
  s.Fits ∧ (s.isMeeting = true → st.knows s.node = true)

theorem Passed.advance (h : Passed st s) (hadv : Advances root pending height st st') :
    Passed st' s :=
  ⟨h.1, fun hmeeting => hadv.knows _ (h.2 hmeeting)⟩

theorem Ready.isText (h : Ready root pending n st) (hs : .key k ∈ n.steps) :
    st.isText k = true := by
  rcases steps_cases hs with ⟨i, ns, -, c, -, hc⟩ | ⟨i, t, ns, -, -, m, -, hs⟩ |
    ⟨hbuilt, es, hes, e, he, hk⟩
  · cases hc
  · rcases mem_pairSteps hs with hs | ⟨es, -, e, -, hs | hs⟩ <;> cases hs
  · rcases hk with hk | hk
    · cases hk
      obtain ⟨m, hm, hem⟩ := exists_source_of_mem_entries hes he
      exact isText_iff.mpr ⟨m, h.2 hbuilt m hm, List.mem_map.mpr ⟨e, hem, rfl⟩⟩
    · cases hk

theorem complete_leads (hsteady : Steady root) (hacyclic : root.acyclic = true) (tracked : Bool)
    (deep : Bool) (n : Node) {st : Progress} (hn : Met root n)
    (htag : n.tag.isCollection = true) (hst : Sane root pending st) :
    Leads root (complete tracked deep n) st fun _ st' =>
      Advances root pending n.height st st' ∧ st'.Done root n := by
  have hmeet : ∀ {c : Node} {st : Progress} (atOnce : Bool), Met root c → Sane root pending st →
      c.height < n.height → (c.tag = .value → BecomesText root c → st.isText c = true) →
      Leads root (meet tracked atOnce c (complete tracked atOnce c)) st fun _ st' =>
        Advances root pending n.height st st' ∧ st'.knows c = true := by
    intro c st atOnce hc hst hlt hrole
    have hmet := meet_leads hsteady hacyclic tracked atOnce hc hst hrole fun htag =>
      complete_leads hsteady hacyclic tracked atOnce c hc htag hst
    exact hmet.mono fun _ st' ⟨hadv, hknown⟩ => ⟨hadv.mono hlt, hknown⟩
  rw [complete]
  refine (prepare_leads n.height hn htag hst).bind fun _ st' ⟨hadv, hshaped, hready⟩ => ?_
  refine (leads_forM n.height (P := Ready root pending n) (R := fun s st => Passed st s.1) And.left
    Ready.advance Passed.advance ?_ hready).mono fun _ st'' ⟨hadv', hpassed⟩ => ?_
  · rintro ⟨s, hs⟩ - st hready
    have hlt := height_lt_of_contains (contains_of_mem_steps hs)
    cases s with
    | part c =>
      refine (hmeet _ (hn.met hs rfl) hready.1 hlt ?_).mono ?_
      · exact fun htag htext => (hsteady.part c (hn.arises hs) htag htext).elim
      · exact fun _ st' ⟨hadv, hknown⟩ => ⟨hadv, trivial, fun _ => hknown⟩
    | key c =>
      refine (hmeet _ (hn.met hs rfl) hready.1 hlt ?_).bind fun _ st' ⟨hadv, hknown⟩ => ?_
      · exact fun _ _ => hready.isText hs
      · split
        · next hc =>
          refine leads_fail hn htag (not_wellFormed_of_not_fits htag hs fun h => ?_)
          cases hc.symm.trans h
        · next hc => exact leads_pure ⟨hadv, Bool.eq_false_iff.mpr hc, fun _ => hknown⟩
    | pair m =>
      refine (checkPair_leads n.height hsteady hn htag hs hready.1).mono ?_
      exact fun _ st' ⟨hadv, hfits⟩ => ⟨hadv, hfits, nofun⟩
  · refine ⟨hadv.trans hadv', ?_, fun s hs => (hpassed ⟨s, hs⟩ (List.mem_attach _ _)).2⟩
    rw [WellFormed, if_pos htag]
    exact ⟨hshaped, fun s hs => (hpassed ⟨s, hs⟩ (List.mem_attach _ _)).1⟩
termination_by n.height

theorem sane_of_done (h : Sane root pending st) (hdone : ∀ n ∈ pending, st.Done root n) :
    Sane root [] st :=
  { h with
    collections := by
      intro n hn
      obtain ⟨htag, hstate⟩ := h.collections n hn
      refine ⟨htag, ?_⟩
      rcases hstate with hstate | hstate | hstate
      · exact Or.inl hstate
      · exact Or.inr (Or.inr (hdone n hstate))
      · exact Or.inr (Or.inr hstate) }

theorem sane_turn (h : Sane root [] st) :
    Sane root st.waiting.reverse { st with waiting := [] } where
  scalars := h.scalars
  merged := h.merged
  collections := by
    intro n hn
    obtain ⟨htag, hstate⟩ := h.collections n hn
    refine ⟨htag, Or.inr ?_⟩
    rcases hstate with hstate | hstate | hstate
    · exact Or.inl (List.mem_reverse.mpr hstate)
    · cases hstate
    · exact Or.inr hstate
  waiting := nofun

theorem completeLevels_leads (hsteady : Steady root) (hacyclic : root.acyclic = true)
    (tracked : Bool) (height : Nat) (hst : Sane root [] st)
    (hheight : ∀ n ∈ st.waiting, n.height ≤ height) :
    Leads root (completeLevels tracked height) st fun _ st' =>
      Sane root [] st' ∧ st'.waiting = [] ∧ ∀ n, st.knows n = true → st'.knows n = true := by
  induction height generalizing st with
  | zero =>
    refine leads_pure ⟨hst, List.eq_nil_iff_forall_not_mem.mpr fun n hn => ?_, fun _ h => h⟩
    have := hheight n hn
    have := n.height_pos
    omega
  | succ height ih =>
    have hlevel : Leads root (st.waiting.reverse.forM (complete tracked false))
        { st with waiting := [] } fun _ st' =>
          Advances root st.waiting.reverse (height + 1) { st with waiting := [] } st' ∧
            ∀ n ∈ st.waiting.reverse, st'.Done root n := by
      refine leads_forM (height + 1) (P := Sane root st.waiting.reverse) id
        (fun _ hadv => hadv.sane) (fun h hadv => h.mono hadv.knows) ?_ (sane_turn hst)
      intro n hn st' hst'
      have hn := List.mem_reverse.mp hn
      obtain ⟨hmet, htag⟩ := hst.waiting n hn
      refine (complete_leads hsteady hacyclic tracked false n hmet htag hst').mono ?_
      exact fun _ st'' ⟨hadv, hdone⟩ => ⟨hadv.mono (hheight n hn), hdone⟩
    change Leads root (st.waiting.reverse.forM (complete tracked false) >>= fun _ =>
      completeLevels tracked height) { st with waiting := [] } _
    refine hlevel.bind fun _ st' ⟨hadv, hdone⟩ => ?_
    have hwaiting : ∀ n ∈ st'.waiting, n.height ≤ height := by
      intro n hn
      rcases hadv.waiting n hn with hn | hlt
      · cases hn
      · exact Nat.le_of_lt_succ hlt
    refine (ih (sane_of_done hadv.sane hdone) hwaiting).mono ?_
    exact fun _ st'' ⟨hsane, hnone, hknows⟩ =>
      ⟨hsane, hnone, fun n hn => hknows n (hadv.knows n hn)⟩

theorem sane_start : Sane root [] .start :=
  ⟨nofun, nofun, nofun, nofun⟩

theorem completeRoot_leads (hsteady : Steady root) (hacyclic : root.acyclic = true)
    (tracked : Bool) : Leads root (completeRoot tracked root) .start fun _ st' =>
      Sane root [] st' ∧ st'.waiting = [] ∧ st'.knows root = true := by
  have hmeet := meet_leads hsteady hacyclic tracked false met_root sane_start
    (fun htag htext => (hsteady.part root .root htag htext).elim)
    fun htag => complete_leads hsteady hacyclic tracked false root met_root htag sane_start
  refine hmeet.bind fun _ st' ⟨hadv, hknown⟩ => ?_
  have hwaiting : ∀ n ∈ st'.waiting, n.height ≤ root.height := by
    intro n hn
    rcases hadv.waiting n hn with hn | hlt
    · cases hn
    · exact Nat.le_of_lt_succ hlt
  refine (completeLevels_leads hsteady hacyclic tracked root.height hadv.sane hwaiting).mono ?_
  exact fun _ st'' ⟨hsane, hnone, hknows⟩ => ⟨hsane, hnone, hknows root hknown⟩

theorem isCollection_of_mem_steps (hs : s ∈ n.steps) : n.tag.isCollection = true := by
  rcases steps_cases hs with ⟨i, ns, rfl, -⟩ | ⟨i, t, ns, rfl, rfl | rfl, -⟩ | ⟨hbuilt, -⟩
  · rfl
  · rfl
  · rfl
  · cases n with
    | mapping i t es j l => cases t <;> first | rfl | cases hbuilt
    | _ => cases hbuilt

theorem settled_of_knows (hst : Sane root [] st) (hnone : st.waiting = [])
    (hn : st.knows n = true) : n.tag.isCollection = true ∧ st.Done root n ∨
      n.tag.isCollection = false ∧
        ∃ v, st.scalars.lookup n = some v ∧ settledScalar root n = .ok v := by
  rcases knows_iff.mp hn with hn | ⟨v, hv⟩
  · obtain ⟨htag, hstate⟩ := hst.collections n hn
    rcases hstate with hwaiting | hpending | hdone
    · rw [hnone] at hwaiting
      cases hwaiting
    · cases hpending
    · exact Or.inl ⟨htag, hdone⟩
  · obtain ⟨htag, hsettled⟩ := hst.scalars n v (mem_of_lookup hv)
    exact Or.inr ⟨htag, v, hv, hsettled⟩

theorem knows_of_met (hst : Sane root [] st) (hnone : st.waiting = [])
    (hroot : st.knows root = true) (hn : Met root n) : st.knows n = true := by
  obtain ⟨s, hs, hmeeting, rfl⟩ := hn
  induction hs with
  | root => exact hroot
  | @step s t _ hmeeting' ht ih =>
    rcases settled_of_knows hst hnone (ih hmeeting') with ⟨-, hdone⟩ | ⟨htag, -⟩
    · exact hdone.2 t ht hmeeting
    · cases htag.symm.trans (isCollection_of_mem_steps ht)

/-- After a run that ends well, all nodes that the root leads to are well formed and the scalars have
their settled values. -/
theorem settled_of_run (hsteady : Steady root) (hacyclic : root.acyclic = true) {tracked : Bool}
    (h : (completeRoot tracked root).run .start = .ok ((), st)) (hn : Met root n) :
    WellFormed root n ∧ (n.tag.isCollection = false →
      ∃ v, st.scalars.lookup n = some v ∧ settledScalar root n = .ok v) := by
  have hleads := completeRoot_leads hsteady hacyclic tracked
  rw [Leads, h] at hleads
  obtain ⟨hst, hnone, hroot⟩ := hleads
  rcases settled_of_knows hst hnone (knows_of_met hst hnone hroot hn) with
    ⟨htag, hdone⟩ | ⟨htag, v, hv, hs⟩
  · exact ⟨hdone.1, fun hscalar => by cases htag.symm.trans hscalar⟩
  · refine ⟨?_, fun _ => ⟨v, hv, hs⟩⟩
    rw [WellFormed, htag]
    exact ⟨v, hs⟩

/-- Whether a run ends well does not depend on the tracking of lines. -/
theorem exists_run_iff (hsteady : Steady root) (hacyclic : root.acyclic = true) (tracked : Bool) :
    (∃ st, (completeRoot tracked root).run .start = .ok ((), st)) ↔
      ∀ n, Met root n → WellFormed root n := by
  constructor
  · rintro ⟨st, hst⟩ n hn
    exact (settled_of_run hsteady hacyclic hst hn).1
  · intro hwell
    have hleads := completeRoot_leads hsteady hacyclic tracked
    unfold Leads at hleads
    split at hleads
    · next st h => exact ⟨st, h⟩
    · obtain ⟨n, hn, hill⟩ := hleads
      exact absurd (hwell n hn) hill.not_wellFormed

theorem illFormed_of_run (hsteady : Steady root) (hacyclic : root.acyclic = true) {tracked : Bool}
    {f : Fault} (h : (completeRoot tracked root).run .start = .error f) :
    ∃ n, Met root n ∧ IllFormed root n f := by
  have hleads := completeRoot_leads hsteady hacyclic tracked
  rwa [Leads, h] at hleads

end Completion
end BlockAudit.Yaml
