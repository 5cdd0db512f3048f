import BlockAudit.Proofs.Yaml.Preserving
import BlockAudit.Yaml.Parse
/-!
Parsing keeps what is known of the tokens, if that stays true when the first one is taken. Main
statement: `preserves_document`.
-/

namespace BlockAudit.Yaml.Parser

variable {α β : Type} {I : ParserState → Prop} {F : Fault → Prop} {x y : Parser α}

structure Stable (I : ParserState → Prop) (F : Fault → Prop) : Prop where
  malformed : F .malformedDocument
  ends : ∀ st, I st → F (st.tokens.fault.getD .malformedDocument)
  tail : ∀ st, I st →
    I { st with tokens := { st.tokens with list := st.tokens.list.tail } }
  retouch : ∀ st st', I st → st'.tokens = st.tokens → I st'

variable (hI : Stable I F)

include hI

theorem preserves_fail : Preserves I F (fail : Parser α) := preserves_throw hI.malformed

theorem preserves_retouch {f : ParserState → ParserState} (h : ∀ st, (f st).tokens = st.tokens) :
    Preserves I F (modify f : Parser Unit) :=
  preserves_modify fun st hst => hI.retouch st _ hst (h st)

theorem preserves_peek : Preserves I F peek := by
  refine preserves_get_bind fun st hst => ?_
  dsimp only
  split
  · exact preserves_pure _
  · exact preserves_throw (hI.ends st hst)

theorem preserves_skip : Preserves I F skip := preserves_modify hI.tail

theorem preserves_next : Preserves I F next :=
  (preserves_peek hI).bind fun _ => (preserves_skip hI).bind fun _ => preserves_pure _

theorem preserves_at? (kinds : List TokenKind) : Preserves I F (at? kinds) :=
  (preserves_peek hI).bind fun _ => preserves_pure _

theorem preserves_accept (kind : TokenKind) : Preserves I F (accept kind) :=
  (preserves_peek hI).bind fun _ =>
    preserves_ite ((preserves_skip hI).bind fun _ => preserves_pure _) (preserves_pure _)

theorem preserves_newNumber : Preserves I F newNumber :=
  (preserves_retouch hI (by intro; rfl)).bind fun _ => preserves_get.bind fun _ => preserves_pure _

theorem preserves_anchorHere : Preserves I F anchorHere := by
  refine (preserves_peek hI).bind fun t => ?_
  split
  · exact (preserves_skip hI).bind fun _ => preserves_pure _
  · exact preserves_pure _

theorem preserves_tagHere : Preserves I F tagHere := by
  refine (preserves_peek hI).bind fun t => ?_
  split
  · exact (preserves_skip hI).bind fun _ => preserves_pure _
  · exact preserves_pure _

theorem preserves_properties : Preserves I F properties := by
  refine (preserves_peek hI).bind fun t => ?_
  split
  · exact (preserves_anchorHere hI).bind fun _ => (preserves_tagHere hI).bind fun _ =>
      preserves_pure _
  · exact (preserves_tagHere hI).bind fun _ => (preserves_anchorHere hI).bind fun _ =>
      preserves_pure _
  · exact preserves_pure _

theorem preserves_fullName (t : TagName) : Preserves I F (fullName t) := by
  unfold fullName
  dsimp only
  split
  · exact preserves_pure _
  · refine preserves_get.bind fun st => ?_
    split
    · exact preserves_pure _
    · exact (preserves_fail hI).bind fun _ => preserves_pure _

theorem preserves_writtenTag (p : Properties) : Preserves I F (writtenTag p) := by
  unfold writtenTag
  split
  · exact preserves_pure _
  · exact (preserves_fullName hI _).bind fun _ => preserves_pure _

theorem preserves_setAnchor (anchor : Option String) (a : Anchored) :
    Preserves I F (setAnchor anchor a) := by
  unfold setAnchor
  split
  · exact preserves_pure _
  · exact preserves_retouch hI fun _ => rfl

theorem preserves_checkAnchor (anchor : Option String) : Preserves I F (checkAnchor anchor) := by
  unfold checkAnchor
  split
  · exact preserves_pure _
  · exact preserves_get.bind fun _ => preserves_ite (preserves_fail hI) (preserves_pure _)

theorem preserves_aliased (name : String) : Preserves I F (aliased name) := by
  refine preserves_get.bind fun st => ?_
  split
  · exact preserves_pure _
  · exact preserves_pure _
  · exact preserves_fail hI

structure PreservesAll (I : ParserState → Prop) (F : Fault → Prop) (n : Nat) : Prop where
  node : ∀ block indentless, Preserves I F (node n block indentless)
  contents : ∀ layout, Preserves I F (contents n layout)
  nodeUnless : ∀ ends block indentless, Preserves I F (nodeUnless n ends block indentless)
  blockItems : Preserves I F (blockItems n)
  indentlessItems : Preserves I F (indentlessItems n)
  blockEntries : Preserves I F (blockEntries n)
  flowItems : ∀ first, Preserves I F (flowItems n first)
  singleEntry : Preserves I F (singleEntry n)
  flowEntries : ∀ first, Preserves I F (flowEntries n first)
  flowEntryHere : Preserves I F (flowEntryHere n)

variable {n : Nat}

theorem preserves_node (h : PreservesAll I F n) (block indentless : Bool) :
    Preserves I F (node (n + 1) block indentless) := by
  rw [node]
  refine (preserves_peek hI).bind fun t => ?_
  split
  · exact (preserves_skip hI).bind fun _ => preserves_aliased hI _
  · refine (preserves_properties hI).bind fun p => (preserves_writtenTag hI p).bind fun tag => ?_
    refine (preserves_peek hI).bind fun t => ?_
    dsimp only
    split
    · exact (preserves_checkAnchor hI _).bind fun _ => (preserves_skip hI).bind fun _ =>
        (preserves_newNumber hI).bind fun _ => (preserves_setAnchor hI _ _).bind fun _ =>
        preserves_pure _
    · exact (preserves_checkAnchor hI _).bind fun _ => (preserves_newNumber hI).bind fun _ =>
        (preserves_setAnchor hI _ _).bind fun _ => (h.contents _).bind fun _ =>
        (preserves_setAnchor hI _ _).bind fun _ => preserves_pure _
    · exact preserves_ite (preserves_fail hI) ((preserves_checkAnchor hI _).bind fun _ =>
        (preserves_newNumber hI).bind fun _ => (preserves_setAnchor hI _ _).bind fun _ =>
        preserves_pure _)

theorem preserves_contents (h : PreservesAll I F n) (layout : Layout) :
    Preserves I F (contents (n + 1) layout) := by
  cases layout with
  | flowSequence => exact (preserves_skip hI).bind fun _ => h.flowItems true
  | flowMapping => exact (preserves_skip hI).bind fun _ => h.flowEntries true
  | blockSequence => exact (preserves_skip hI).bind fun _ => h.blockItems
  | blockMapping => exact (preserves_skip hI).bind fun _ => h.blockEntries
  | indentless => exact h.indentlessItems

theorem preserves_nodeUnless (h : PreservesAll I F n) (ends : List TokenKind)
    (block indentless : Bool) :
    Preserves I F (nodeUnless (n + 1) ends block indentless) := by
  rw [nodeUnless]
  exact (preserves_at? hI ends).bind fun _ =>
    preserves_ite (preserves_pure _) (h.node block indentless)

theorem preserves_more {more : Parser Contents} (h : Preserves I F more)
    {f : Contents → Parser Contents}
    (hf : ∀ c, f c = fail ∨ ∃ c', f c = pure c') : Preserves I F (more >>= f) := by
  refine h.bind fun c => ?_
  rcases hf c with hc | ⟨c', hc⟩ <;> rw [hc]
  · exact preserves_fail hI
  · exact preserves_pure _

theorem preserves_blockItems (h : PreservesAll I F n) : Preserves I F (blockItems (n + 1)) := by
  rw [blockItems]
  refine (preserves_accept hI _).bind fun b => preserves_ite ((h.nodeUnless _ _ _).bind fun m => ?_)
    ((preserves_next hI).bind fun t => preserves_ite (preserves_pure _) (preserves_fail hI))
  refine preserves_more hI h.blockItems fun c => ?_
  cases c
  · exact Or.inr ⟨_, rfl⟩
  · exact Or.inl rfl

theorem preserves_indentlessItems (h : PreservesAll I F n) :
    Preserves I F (indentlessItems (n + 1)) := by
  rw [indentlessItems]
  refine (preserves_accept hI _).bind fun b => preserves_ite ((h.nodeUnless _ _ _).bind fun m => ?_)
    ((preserves_peek hI).bind fun t => preserves_pure _)
  refine preserves_more hI h.indentlessItems fun c => ?_
  cases c
  · exact Or.inr ⟨_, rfl⟩
  · exact Or.inl rfl

theorem preserves_value (h : PreservesAll I F n) (ends : List TokenKind) (block indentless : Bool)
    {f : Node → Parser α} (hf : ∀ m, Preserves I F (f m)) :
    Preserves I F (do
      if ← accept .value then
        let v ← nodeUnless n ends block indentless
        f v
      else
        let v ← pure .empty
        f v) :=
  (preserves_accept hI _).bind fun _ =>
    preserves_ite ((h.nodeUnless _ _ _).bind hf) ((preserves_pure _).bind hf)

theorem preserves_blockEntries (h : PreservesAll I F n) : Preserves I F (blockEntries (n + 1)) := by
  rw [blockEntries]
  refine (preserves_accept hI _).bind fun b => preserves_ite ((h.nodeUnless _ _ _).bind fun k => ?_)
    ((preserves_next hI).bind fun t => preserves_ite (preserves_pure _) (preserves_fail hI))
  refine preserves_value hI h _ _ _ fun v => preserves_more hI h.blockEntries fun c => ?_
  cases c
  · exact Or.inl rfl
  · exact Or.inr ⟨_, rfl⟩

theorem preserves_singleEntry (h : PreservesAll I F n) : Preserves I F (singleEntry (n + 1)) := by
  rw [singleEntry]
  refine (preserves_next hI).bind fun t => (preserves_newNumber hI).bind fun i => ?_
  refine (h.nodeUnless _ _ _).bind fun k => ?_
  exact preserves_value hI h _ _ _ fun v => (preserves_peek hI).bind fun t => preserves_pure _

theorem preserves_flowEntryHere (h : PreservesAll I F n) :
    Preserves I F (flowEntryHere (n + 1)) := by
  rw [flowEntryHere]
  refine (preserves_accept hI _).bind fun b => preserves_ite ((h.nodeUnless _ _ _).bind fun k => ?_)
    ((h.node _ _).bind fun k => preserves_pure _)
  exact preserves_value hI h _ _ _ fun v => preserves_pure _

theorem preserves_separated (first : Bool) (hx : Preserves I F x) :
    Preserves I F (do
      if !first then
        if !(← accept .flowEntry) then
          let _ ← (fail : Parser Unit)
          x
        else x
      else x) := by
  refine preserves_ite ((preserves_accept hI _).bind fun b => preserves_ite ?_ hx) hx
  exact (preserves_fail hI).bind fun _ => hx

theorem preserves_flowItems_after (h : Preserves I F (flowItems n false)) (m : Node) :
    Preserves I F (do
      match ← flowItems n false with
      | .items ns line => return .items (m :: ns) line
      | .entries _ _ => fail : Parser Contents) := by
  refine preserves_more hI h fun c => ?_
  cases c
  · exact Or.inr ⟨_, rfl⟩
  · exact Or.inl rfl

theorem preserves_flowItems (h : PreservesAll I F n) (first : Bool) :
    Preserves I F (flowItems (n + 1) first) := by
  rw [flowItems]
  refine (preserves_peek hI).bind fun t => ?_
  refine preserves_ite ((preserves_skip hI).bind fun _ => preserves_pure _) ?_
  refine preserves_separated hI first ((preserves_peek hI).bind fun t => ?_)
  refine preserves_ite ((preserves_skip hI).bind fun _ => preserves_pure _) ?_
  have hmore := preserves_flowItems_after hI (h.flowItems false)
  exact preserves_ite (h.singleEntry.bind hmore) ((h.node _ _).bind hmore)

theorem preserves_flowEntries (h : PreservesAll I F n) (first : Bool) :
    Preserves I F (flowEntries (n + 1) first) := by
  rw [flowEntries]
  refine (preserves_peek hI).bind fun t => ?_
  refine preserves_ite ((preserves_skip hI).bind fun _ => preserves_pure _) ?_
  refine preserves_separated hI first ((preserves_peek hI).bind fun t => ?_)
  refine preserves_ite ((preserves_skip hI).bind fun _ => preserves_pure _) ?_
  refine h.flowEntryHere.bind fun e => ?_
  refine preserves_more hI (h.flowEntries false) fun c => ?_
  cases c
  · exact Or.inl rfl
  · exact Or.inr ⟨_, rfl⟩

theorem preservesAll (n : Nat) : PreservesAll I F n := by
  induction n with
  | zero =>
    constructor <;> intros <;> exact preserves_fail hI
  | succ n ih =>
    exact ⟨preserves_node hI ih, preserves_contents hI ih, preserves_nodeUnless hI ih,
      preserves_blockItems hI ih, preserves_indentlessItems hI ih, preserves_blockEntries hI ih,
      preserves_flowItems hI ih, preserves_singleEntry hI ih, preserves_flowEntries hI ih,
      preserves_flowEntryHere hI ih⟩

theorem preserves_directives (n : Nat) (versioned : Bool) :
    Preserves I F (directives n versioned) := by
  induction n generalizing versioned with
  | zero => exact preserves_fail hI
  | succ n ih =>
    rw [directives]
    refine (preserves_peek hI).bind fun t => ?_
    split
    · refine preserves_ite ((preserves_fail hI).bind fun _ => ?_) ?_
      · exact (preserves_skip hI).bind fun _ => ih true
      · exact (preserves_skip hI).bind fun _ => ih true
    · refine preserves_get.bind fun st => preserves_ite ((preserves_fail hI).bind fun _ => ?_) ?_
      · exact (preserves_skip hI).bind fun _ =>
          (preserves_retouch hI (by intro; rfl)).bind fun _ => ih versioned
      · exact (preserves_skip hI).bind fun _ =>
          (preserves_retouch hI (by intro; rfl)).bind fun _ => ih versioned
    · exact (preserves_skip hI).bind fun _ => ih versioned
    · exact preserves_pure _

theorem preserves_explicitStart (n : Nat) : Preserves I F (explicitStart n) :=
  (preserves_retouch hI (by intro; rfl)).bind fun _ =>
    (preserves_directives hI n false).bind fun _ =>
    (preserves_retouch hI (by intro; rfl)).bind fun _ => (preserves_accept hI _).bind fun _ =>
    preserves_ite (preserves_fail hI) (preserves_pure _)

theorem preserves_skipDocumentEnds (n : Nat) : Preserves I F (skipDocumentEnds n) := by
  induction n with
  | zero => exact preserves_fail hI
  | succ n ih =>
    rw [skipDocumentEnds]
    exact (preserves_accept hI _).bind fun _ => preserves_ite ih (preserves_pure _)

theorem preserves_endOfStream (n : Nat) : Preserves I F (endOfStream n) :=
  (preserves_skipDocumentEnds hI n).bind fun _ => (preserves_at? hI _).bind fun _ =>
    preserves_ite ((preserves_explicitStart hI n).bind fun _ => preserves_fail hI) (preserves_pure _)

theorem preserves_document (n : Nat) : Preserves I F (document n) := by
  have hend : ∀ {root : Parser Node}, Preserves I F root → Preserves I F (do
      let root ← root
      endOfStream n
      return some root : Parser (Option Node)) :=
    fun hroot => hroot.bind fun _ => (preserves_endOfStream hI n).bind fun _ => preserves_pure _
  have hroot : ∀ explicit : Bool, Preserves I F (do
      let t ← peek
      let absent := explicit &&
        (isDirective t.kind || [.documentStart, .documentEnd, .streamEnd].contains t.kind)
      if absent then
        let root ← pure .empty
        endOfStream n
        return some root
      else
        let root ← node n true false
        endOfStream n
        return some root) := by
    refine fun explicit => (preserves_peek hI).bind fun t => ?_
    exact preserves_ite (hend (preserves_pure _)) (hend ((preservesAll hI n).node _ _))
  rw [document]
  refine (preserves_peek hI).bind fun t => preserves_ite (preserves_pure _) ?_
  exact preserves_ite ((preserves_explicitStart hI n).bind fun _ => hroot _) (hroot _)

end BlockAudit.Yaml.Parser
