import BlockAudit.Proofs.Yaml.Malformed
import BlockAudit.Proofs.Yaml.Simple
import BlockAudit.Proofs.Yaml.Spelling
import BlockAudit.Yaml.Parse

namespace BlockAudit.Yaml

namespace ParserState

def kinds (st : ParserState) : List TokenKind := st.tokens.list.map (·.kind)

end ParserState

namespace Parser

open Node

variable {α β : Type} {st : ParserState} {k : TokenKind} {ks ks' ks'' : List TokenKind} {v : Value}
  {Q : α → ParserState → Prop} {R : β → ParserState → Prop}

/-- Where running comes to, unless the document is malformed. -/
def Leads (x : Parser α) (st : ParserState) (Q : α → ParserState → Prop) : Prop :=
  UnlessMalformed (fun r => Q r.1 r.2) (x.run st)

theorem leads_pure {a : α} (h : Q a st) : Leads (pure a) st Q := h

theorem leads_fail : Leads (fail : Parser α) st Q := rfl

theorem Leads.bind {x : Parser α} {g : α → Parser β} (h : Leads x st Q)
    (hg : ∀ a st', Q a st' → Leads (g a) st' R) : Leads (x >>= g) st R := by
  unfold Leads
  rw [StateT.run_bind]
  exact UnlessMalformed.bind h fun r hr => hg r.1 r.2 hr

theorem leads_peek (h : st.kinds = k :: ks) :
    Leads peek st fun t st' => t.kind = k ∧ st' = st := by
  rw [ParserState.kinds, List.map_eq_cons_iff] at h
  obtain ⟨t, ts, hlist, hk, -⟩ := h
  unfold Leads peek
  simp only [StateT.run_bind, StateT.run_get, pure_bind, hlist]
  exact ⟨hk, rfl⟩

theorem leads_skip (h : st.kinds = k :: ks) : Leads skip st fun _ st' => st'.kinds = ks := by
  show (st.tokens.list.tail.map fun t => t.kind) = ks
  rw [List.map_tail]
  exact congrArg List.tail h

theorem leads_newNumber : Leads newNumber st fun _ st' => st'.kinds = st.kinds := by
  show st.kinds = st.kinds
  rfl

theorem leads_accept (h : st.kinds = k :: ks) : Leads (accept k) st fun b st' =>
    b = true ∧ st'.kinds = ks := by
  refine (leads_peek h).bind ?_
  rintro t _ ⟨ht, rfl⟩
  rw [if_pos ht]
  exact (leads_skip h).bind fun _ st' hst' => ⟨rfl, hst'⟩

theorem leads_accept_ne (h : st.kinds = k :: ks) {k' : TokenKind} (hk : k ≠ k') :
    Leads (accept k') st fun b st' => b = false ∧ st' = st := by
  refine (leads_peek h).bind ?_
  rintro t _ ⟨rfl, rfl⟩
  rw [if_neg hk]
  exact ⟨rfl, rfl⟩

theorem leads_at? (h : st.kinds = k :: ks) (kinds : List TokenKind) :
    Leads (at? kinds) st fun b st' => b = kinds.contains k ∧ st' = st := by
  refine (leads_peek h).bind ?_
  rintro t _ ⟨rfl, rfl⟩
  exact ⟨rfl, rfl⟩

def startsNode : TokenKind → Bool
  | .scalar _ _ => true
  | .flowSequenceStart => true
  | .flowMappingStart => true
  | _ => false

theorem leads_properties (h : st.kinds = k :: ks) (hk : startsNode k = true) :
    Leads properties st fun p st' => p = ⟨none, none, none⟩ ∧ st' = st := by
  refine (leads_peek h).bind ?_
  rintro t _ ⟨ht, rfl⟩
  cases k <;> first | (cases hk; done) | (simp only [ht]; exact ⟨rfl, rfl⟩)

theorem leads_writtenTag : Leads (writtenTag ⟨none, none, none⟩) st fun r st' =>
    r = (none, false) ∧ st' = st := ⟨rfl, rfl⟩

theorem leads_checkAnchor : Leads (checkAnchor none) st fun _ st' => st' = st := rfl

theorem leads_setAnchor (a : Anchored) : Leads (setAnchor none a) st fun _ st' => st' = st := rfl

theorem leads_node_scalar (n : Nat) (block indentless : Bool) {text : String} {plain : Bool}
    (h : st.kinds = .scalar text plain :: ks) :
    Leads (node n block indentless) st fun m st' =>
      (∃ i, m = .scalar i (if plain then Look.tag text else .str) text) ∧ st'.kinds = ks := by
  cases n with
  | zero => rfl
  | succ n =>
    rw [node]
    refine (leads_peek h).bind ?_
    rintro t _ ⟨ht, rfl⟩
    simp only [ht]
    refine (leads_properties h rfl).bind ?_
    rintro _ _ ⟨rfl, rfl⟩
    refine leads_writtenTag.bind ?_
    rintro _ _ ⟨rfl, rfl⟩
    refine (leads_peek h).bind ?_
    rintro t' _ ⟨ht', rfl⟩
    simp only [ht']
    refine leads_checkAnchor.bind ?_
    rintro _ _ rfl
    refine (leads_skip h).bind fun _ st hst => ?_
    refine leads_newNumber.bind fun i st' hst' => ?_
    refine (leads_setAnchor _).bind ?_
    rintro _ _ rfl
    refine ⟨⟨i, ?_⟩, hst'.trans hst⟩
    rw [Bool.or_false]
    rfl

def HaveMeaning (v : Value) (c : Contents) : Prop :=
  ∀ i line, (c.node i none line).Means v

inductive Begins : TokenKind → Layout → Prop
  | items : Begins .flowSequenceStart .flowSequence
  | entries : Begins .flowMappingStart .flowMapping

theorem leads_node_collection (n : Nat) (block indentless : Bool) {layout : Layout}
    (hk : Begins k layout) (h : st.kinds = k :: ks)
    (hcontents : ∀ m st', m < n → st'.kinds = k :: ks →
      Leads (contents m layout) st' fun c st'' => HaveMeaning v c ∧ st''.kinds = ks') :
    Leads (node n block indentless) st fun m st' => m.Means v ∧ st'.kinds = ks' := by
  cases n with
  | zero => rfl
  | succ n =>
    rw [node]
    refine (leads_peek h).bind ?_
    rintro t _ ⟨ht, rfl⟩
    cases hk
    all_goals
      simp only [ht]
      refine (leads_properties h rfl).bind ?_
      rintro _ _ ⟨rfl, rfl⟩
      refine leads_writtenTag.bind ?_
      rintro _ _ ⟨rfl, rfl⟩
      refine (leads_peek h).bind ?_
      rintro t' _ ⟨ht', rfl⟩
      simp only [ht', layout?]
      refine leads_checkAnchor.bind ?_
      rintro _ _ rfl
      refine leads_newNumber.bind fun i st hst => ?_
      refine (leads_setAnchor _).bind ?_
      rintro _ _ rfl
      refine (hcontents n _ (Nat.lt_succ_self n) (hst.trans h)).bind ?_
      rintro c st' ⟨hc, hst'⟩
      refine (leads_setAnchor _).bind ?_
      rintro _ _ rfl
      exact ⟨hc i _, hst'⟩

def ParsesNode (n : Nat) : Prop :=
  ∀ {st v ks ks'} (block indentless), Spells v ks → st.kinds = ks ++ ks' →
    Leads (node n block indentless) st fun m st' => m.Means v ∧ st'.kinds = ks'

theorem exists_start_of_spells (h : Spells v ks) : ∃ k ls, ks = k :: ls ∧ startsNode k = true := by
  cases h <;> exact ⟨_, _, rfl, rfl⟩

def ItemsMean (vs : List Value) (c : Contents) : Prop :=
  ∃ ns line, c = .items ns line ∧ List.Forall₂ Means ns vs

def EntriesMean (es : List Entry) (c : Contents) : Prop :=
  ∃ cs line, c = .entries cs line ∧ List.Forall₂ MeansEntry cs es

theorem ItemsMean.haveMeaning {vs : List Value} {c : Contents} (h : ItemsMean vs c) :
    HaveMeaning (.list vs) c := by
  obtain ⟨ns, line, rfl, hns⟩ := h
  exact fun i start => means_sequence i hns

theorem EntriesMean.haveMeaning {es : List Entry} {c : Contents} (h : EntriesMean es c) :
    HaveMeaning (.map (Value.ofEntries es)) c := by
  obtain ⟨cs, line, rfl, hcs⟩ := h
  exact fun i start => means_mapping i start line hcs

def separator (first : Bool) : List TokenKind := if first then [] else [.flowEntry]

theorem leads_separated (first : Bool) {x : Parser α} (h : st.kinds = separator first ++ ks)
    (hx : ∀ st, st.kinds = ks → Leads x st Q) :
    Leads (do
      if !first then
        if !(← accept .flowEntry) then
          let _ ← (fail : Parser Unit)
          x
        else x
      else x) st Q := by
  cases first with
  | true => exact hx st h
  | false =>
    refine (leads_accept h).bind ?_
    rintro _ st' ⟨rfl, hst'⟩
    exact hx st' hst'

theorem exists_first (first : Bool) (h : st.kinds = separator first ++ (k :: ks)) :
    ∃ k' ls, st.kinds = k' :: ls ∧ (k' = .flowEntry ∨ k' = k) := by
  cases first with
  | true => exact ⟨k, ks, h, Or.inr rfl⟩
  | false => exact ⟨.flowEntry, k :: ks, h, Or.inl rfl⟩

theorem leads_flowItems_end (n : Nat) (first : Bool) (h : st.kinds = .flowSequenceEnd :: ks) :
    Leads (flowItems n first) st fun c st' => ItemsMean [] c ∧ st'.kinds = ks := by
  cases n with
  | zero => rfl
  | succ n =>
    rw [flowItems]
    refine (leads_peek h).bind ?_
    rintro t _ ⟨ht, rfl⟩
    rw [if_pos ht]
    exact (leads_skip h).bind fun _ st' hst' => ⟨⟨[], _, rfl, .nil⟩, hst'⟩

theorem leads_flowItems_next {n : Nat} (hnode : ParsesNode n) (first : Bool) {vs : List Value}
    (hv : Spells v ks) (h : st.kinds = separator first ++ (ks ++ ks'))
    (hrest : ∀ {st}, st.kinds = ks' → Leads (flowItems n false) st fun c st' =>
      ItemsMean vs c ∧ st'.kinds = ks'') :
    Leads (flowItems (n + 1) first) st fun c st' => ItemsMean (v :: vs) c ∧ st'.kinds = ks'' := by
  obtain ⟨k, ls, hks, hk⟩ := exists_start_of_spells hv
  have hother : k ≠ .flowSequenceEnd ∧ k ≠ .key := by
    constructor <;>
      · rintro rfl
        cases hk
  obtain ⟨k', ls', hk', hfirst⟩ := exists_first first (h.trans (by rw [hks, List.cons_append]))
  have hnone : k' ≠ .flowSequenceEnd := by
    rcases hfirst with rfl | rfl
    · nofun
    · exact hother.1
  rw [flowItems]
  refine (leads_peek hk').bind ?_
  rintro t _ ⟨rfl, rfl⟩
  rw [if_neg hnone]
  refine leads_separated first h fun st₁ h₁ => ?_
  refine (leads_peek (h₁.trans (by rw [hks, List.cons_append]))).bind ?_
  rintro t' _ ⟨rfl, rfl⟩
  rw [if_neg hother.1]
  dsimp only
  rw [if_neg hother.2]
  refine (hnode false false hv h₁).bind ?_
  rintro m st₂ ⟨hm, h₂⟩
  refine (hrest h₂).bind ?_
  rintro _ st₃ ⟨⟨ns, line, rfl, hns⟩, h₃⟩
  exact ⟨⟨m :: ns, line, rfl, .cons hm hns⟩, h₃⟩

theorem leads_flowItems {n : Nat} (hnodes : ∀ m < n, ParsesNode m) (first : Bool) {vs : List Value}
    (hspells : SpellsItems vs ks) (h : st.kinds = separator first ++ (ks ++ ks')) :
    Leads (flowItems n first) st fun c st' => ItemsMean vs c ∧ st'.kinds = ks' := by
  induction n generalizing first vs ks st with
  | zero => rfl
  | succ n ih =>
    have hnode : ParsesNode n := hnodes n (Nat.lt_succ_self n)
    cases hspells with
    | last hv =>
      rw [List.append_assoc] at h
      exact leads_flowItems_next hnode first hv h fun hst => leads_flowItems_end n false hst
    | cons hv hvs =>
      rw [List.append_assoc] at h
      exact leads_flowItems_next hnode first hv h fun hst =>
        ih (fun m hm => hnodes m (Nat.lt_succ_of_lt hm)) false hvs hst

theorem leads_flowEntries_end (n : Nat) (first : Bool) (h : st.kinds = .flowMappingEnd :: ks) :
    Leads (flowEntries n first) st fun c st' => EntriesMean [] c ∧ st'.kinds = ks := by
  cases n with
  | zero => rfl
  | succ n =>
    rw [flowEntries]
    refine (leads_peek h).bind ?_
    rintro t _ ⟨ht, rfl⟩
    rw [if_pos ht]
    exact (leads_skip h).bind fun _ st' hst' => ⟨⟨[], _, rfl, .nil⟩, hst'⟩

theorem leads_nodeUnless {n : Nat} {ends : List TokenKind} {block indentless : Bool}
    {Q : Node → ParserState → Prop} (h : st.kinds = k :: ks) (hk : startsNode k = true)
    (hends : ∀ k ∈ ends, startsNode k = false)
    (hnode : ∀ m < n, Leads (node m block indentless) st Q) :
    Leads (nodeUnless n ends block indentless) st Q := by
  cases n with
  | zero =>
    rw [nodeUnless]
    rfl
  | succ n =>
    rw [nodeUnless]
    refine (leads_at? h ends).bind ?_
    rintro _ _ ⟨rfl, rfl⟩
    have hnone : ends.contains k = false := by
      apply Bool.eq_false_iff.mpr
      intro hmem
      rw [hends k (List.contains_iff_mem.mp hmem)] at hk
      cases hk
    rw [hnone, if_neg Bool.false_ne_true]
    exact hnode n (Nat.lt_succ_self n)

theorem leads_flowEntryHere {n : Nat} (hnodes : ∀ m < n, ParsesNode m) {key : String}
    (hv : Spells v ks) (h : st.kinds = .key :: .scalar key false :: .value :: (ks ++ ks')) :
    Leads (flowEntryHere n) st fun e st' => MeansEntry e (.str key, v) ∧ st'.kinds = ks' := by
  cases n with
  | zero =>
    rw [flowEntryHere]
    rfl
  | succ n =>
    rw [flowEntryHere]
    refine (leads_accept h).bind ?_
    rintro _ st₁ ⟨rfl, h₁⟩
    rw [if_pos rfl]
    refine (leads_nodeUnless h₁ rfl (by decide) fun m _ => leads_node_scalar m _ _ h₁).bind ?_
    rintro _ st₂ ⟨⟨i, rfl⟩, h₂⟩
    refine (leads_accept h₂).bind ?_
    rintro _ st₃ ⟨rfl, h₃⟩
    rw [if_pos rfl]
    obtain ⟨k, ls, hks, hk⟩ := exists_start_of_spells hv
    refine (leads_nodeUnless (h₃.trans (by rw [hks, List.cons_append])) hk (by decide)
      fun m hm => hnodes m (Nat.lt_succ_of_lt hm) _ _ hv h₃).bind ?_
    rintro w st₄ ⟨hw, h₄⟩
    exact ⟨⟨⟨i, key, rfl, rfl⟩, hw⟩, h₄⟩

theorem leads_flowEntryHere_bare (n : Nat) {key : String}
    (h : st.kinds = .scalar key false :: ks) :
    Leads (flowEntryHere n) st fun _ st' => st'.kinds = ks := by
  cases n with
  | zero =>
    rw [flowEntryHere]
    rfl
  | succ n =>
    have hother : TokenKind.scalar key false ≠ .key := nofun
    rw [flowEntryHere]
    refine (leads_accept_ne h hother).bind ?_
    rintro _ _ ⟨rfl, rfl⟩
    rw [if_neg Bool.false_ne_true]
    refine (leads_node_scalar n false false h).bind ?_
    rintro _ st' ⟨-, hst'⟩
    exact hst'

theorem leads_flowEntries_colon (n : Nat) (h : st.kinds = .value :: ks)
    {Q : Contents → ParserState → Prop} : Leads (flowEntries n false) st Q := by
  cases n with
  | zero => rfl
  | succ n =>
    rw [flowEntries]
    refine (leads_peek h).bind ?_
    rintro t _ ⟨ht, rfl⟩
    have hother : TokenKind.value ≠ .flowEntry := nofun
    rw [ht, if_neg nofun]
    refine (leads_accept_ne h hother).bind ?_
    rintro _ _ ⟨rfl, rfl⟩
    rfl

theorem leads_flowEntries_next {n : Nat} (hnodes : ∀ m < n, ParsesNode m) (first : Bool)
    {key : String} {es : List Entry} {sign : List TokenKind} (hsign : sign = [] ∨ sign = [.key])
    (hv : Spells v ks)
    (h : st.kinds = separator first ++ (sign ++ .scalar key false :: .value :: (ks ++ ks')))
    (hrest : ∀ {st}, st.kinds = ks' → Leads (flowEntries n false) st fun c st' =>
      EntriesMean es c ∧ st'.kinds = ks'') :
    Leads (flowEntries (n + 1) first) st fun c st' =>
      EntriesMean ((.str key, v) :: es) c ∧ st'.kinds = ks'' := by
  obtain ⟨k, ls, hk, hother⟩ : ∃ k ls,
      sign ++ .scalar key false :: .value :: (ks ++ ks') = k :: ls ∧ k ≠ .flowMappingEnd := by
    rcases hsign with rfl | rfl <;> exact ⟨_, _, rfl, nofun⟩
  obtain ⟨k', ls', hk', hfirst⟩ := exists_first first (h.trans (by rw [hk]))
  have hnone : k' ≠ .flowMappingEnd := by
    rcases hfirst with rfl | rfl
    · nofun
    · exact hother
  rw [flowEntries]
  refine (leads_peek hk').bind ?_
  rintro t _ ⟨rfl, rfl⟩
  rw [if_neg hnone]
  refine leads_separated first h fun st₁ h₁ => ?_
  refine (leads_peek (h₁.trans hk)).bind ?_
  rintro t' _ ⟨rfl, rfl⟩
  rw [if_neg hother]
  rcases hsign with rfl | rfl
  -- without its sign the key is an entry, and then a comma is missed where the colon is
  · refine (leads_flowEntryHere_bare n h₁).bind fun _ st₂ h₂ => ?_
    have hnever : Leads (flowEntries n false) st₂ fun _ _ => False := leads_flowEntries_colon n h₂
    exact hnever.bind nofun
  · refine (leads_flowEntryHere hnodes hv h₁).bind ?_
    rintro e st₂ ⟨he, h₂⟩
    refine (hrest h₂).bind ?_
    rintro _ st₃ ⟨⟨cs, line, rfl, hcs⟩, h₃⟩
    exact ⟨⟨e :: cs, line, rfl, .cons he hcs⟩, h₃⟩

theorem leads_flowEntries {n : Nat} (hnodes : ∀ m < n, ParsesNode m) (first : Bool)
    {es : List Entry} (hspells : SpellsEntries es ks)
    (h : st.kinds = separator first ++ (ks ++ ks')) :
    Leads (flowEntries n first) st fun c st' => EntriesMean es c ∧ st'.kinds = ks' := by
  induction n generalizing first es ks st with
  | zero => rfl
  | succ n ih =>
    have hnodes' : ∀ m < n, ParsesNode m := fun m hm => hnodes m (Nat.lt_succ_of_lt hm)
    cases hspells with
    | last hsign hv =>
      refine leads_flowEntries_next hnodes' first hsign hv ?_ fun hst =>
        leads_flowEntries_end n false hst
      simpa using h
    | cons hsign hv hes =>
      refine leads_flowEntries_next hnodes' first hsign hv ?_ fun hst => ih hnodes' false hes hst
      simpa [separator] using h

theorem leads_items {m : Nat} {P : Contents → Prop} (h : st.kinds = .flowSequenceStart :: ks)
    (hitems : ∀ n st', n < m → st'.kinds = ks →
      Leads (flowItems n true) st' fun c st'' => P c ∧ st''.kinds = ks') :
    Leads (contents m .flowSequence) st fun c st' => P c ∧ st'.kinds = ks' := by
  cases m with
  | zero => rfl
  | succ n =>
    rw [contents]
    exact (leads_skip h).bind fun _ st' hst' => hitems n st' (Nat.lt_succ_self n) hst'

theorem leads_entries {m : Nat} {P : Contents → Prop} (h : st.kinds = .flowMappingStart :: ks)
    (hentries : ∀ n st', n < m → st'.kinds = ks →
      Leads (flowEntries n true) st' fun c st'' => P c ∧ st''.kinds = ks') :
    Leads (contents m .flowMapping) st fun c st' => P c ∧ st'.kinds = ks' := by
  cases m with
  | zero => rfl
  | succ n =>
    rw [contents]
    exact (leads_skip h).bind fun _ st' hst' => hentries n st' (Nat.lt_succ_self n) hst'

theorem parsesNode (n : Nat) : ParsesNode n := by
  -- strong, since between a node and its items the fuel goes down three times
  induction n using Nat.strongRecOn with
  | _ n ih =>
    intro st v ks ks' block indentless hspells h
    cases hspells with
    | word hv =>
      refine (leads_node_scalar n block indentless h).mono ?_
      rintro ⟨m, st'⟩ ⟨⟨i, rfl⟩, hst'⟩
      exact ⟨means_scalar i hv, hst'⟩
    | text =>
      refine (leads_node_scalar n block indentless h).mono ?_
      rintro ⟨m, st'⟩ ⟨⟨i, rfl⟩, hst'⟩
      exact ⟨means_scalar i rfl, hst'⟩
    | noItems =>
      refine leads_node_collection n block indentless .items h fun m st' hm hst' => ?_
      refine leads_items hst' fun l st' hl hst' => ?_
      exact (leads_flowItems_end l true hst').mono fun r hr => ⟨hr.1.haveMeaning, hr.2⟩
    | noEntries =>
      refine leads_node_collection n block indentless .entries h fun m st' hm hst' => ?_
      refine leads_entries hst' fun l st' hl hst' => ?_
      exact (leads_flowEntries_end l true hst').mono fun r hr => ⟨hr.1.haveMeaning, hr.2⟩
    | list hitems =>
      refine leads_node_collection n block indentless .items h fun m st' hm hst' => ?_
      refine leads_items hst' fun l st' hl hst' => ?_
      have hnodes : ∀ k < l, ParsesNode k := fun k hk => ih k (by omega)
      exact (leads_flowItems hnodes true hitems hst').mono fun r hr => ⟨hr.1.haveMeaning, hr.2⟩
    | map hentries =>
      refine leads_node_collection n block indentless .entries h fun m st' hm hst' => ?_
      refine leads_entries hst' fun l st' hl hst' => ?_
      have hnodes : ∀ k < l, ParsesNode k := fun k hk => ih k (by omega)
      exact (leads_flowEntries hnodes true hentries hst').mono fun r hr => ⟨hr.1.haveMeaning, hr.2⟩

theorem leads_endOfStream (n : Nat) (h : st.kinds = [.streamEnd]) :
    Leads (endOfStream n) st fun _ _ => True := by
  have hskip : Leads (skipDocumentEnds n) st fun _ st' => st' = st := by
    cases n with
    | zero => rfl
    | succ n =>
      have hother : TokenKind.streamEnd ≠ .documentEnd := nofun
      rw [skipDocumentEnds]
      refine (leads_accept_ne h hother).bind ?_
      rintro _ _ ⟨rfl, rfl⟩
      rfl
  refine hskip.bind ?_
  rintro _ _ rfl
  refine (leads_at? h _).bind ?_
  rintro _ _ ⟨rfl, rfl⟩
  trivial

theorem leads_document (n : Nat) (hspells : Spells v ks) (h : st.kinds = ks ++ [.streamEnd]) :
    Leads (document n) st fun root? _ => ∃ root, root? = some root ∧ root.Means v := by
  obtain ⟨k, ls, hks, hk⟩ := exists_start_of_spells hspells
  have hpeek : st.kinds = k :: (ls ++ [.streamEnd]) := by rw [h, hks, List.cons_append]
  have hother : k ≠ .streamEnd ∧ (isDirective k || k = .documentStart) = false := by
    cases k <;> first | (cases hk; done) | exact ⟨nofun, rfl⟩
  rw [document]
  refine (leads_peek hpeek).bind ?_
  rintro t _ ⟨rfl, rfl⟩
  rw [if_neg hother.1]
  simp only [hother.2, Bool.false_eq_true, if_false, Bool.false_and]
  refine (leads_peek hpeek).bind ?_
  rintro t' _ ⟨-, rfl⟩
  refine (parsesNode n true false hspells h).bind ?_
  rintro root st' ⟨hroot, hst'⟩
  exact (leads_endOfStream n hst').bind fun _ _ _ => ⟨root, rfl, hroot⟩

end Parser
end BlockAudit.Yaml
