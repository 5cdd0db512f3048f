import BlockAudit.Proofs.Yaml.Escapes
import BlockAudit.Proofs.Yaml.Stable

namespace BlockAudit.Yaml

namespace Scan

variable {α β : Type} {s : List Char} {c : Cursor}

def KeepsPlace (s : List Char) (x : Scan α) : Prop :=
  Preserves (fun st => st.cursor.In s) (Trouble s) x

theorem keepsPlace_fail : KeepsPlace s (fail : Scan α) := preserves_throw (Or.inl rfl)

theorem keepsPlace_modify {f : Scanner → Scanner} (h : ∀ st, (f st).cursor = st.cursor) :
    KeepsPlace s (modify f) := by
  refine preserves_modify fun st hst => ?_
  rwa [h st]

theorem keepsPlace_set {st st' : Scanner} (h : st.cursor.In s) (hc : st'.cursor = st.cursor) :
    KeepsPlace s (set st') :=
  preserves_set (by rwa [hc])

theorem keepsPlace_cursor_bind {g : Cursor → Scan α} (h : ∀ c, c.In s → KeepsPlace s (g c)) :
    KeepsPlace s (cursor >>= g) :=
  preserves_get_bind fun st hst => h st.cursor hst

theorem keepsPlace_liftM_bind {x : Except Fault (β × Cursor)} {g : β × Cursor → Scan α}
    (h : StaysIn s x) (hg : ∀ b c, c.In s → KeepsPlace s (g (b, c))) :
    KeepsPlace s (liftM x >>= g) := by
  intro st hst
  cases x with
  | ok r => exact hg r.1 r.2 h st hst
  | error f => exact h

theorem keepsPlace_moveTo (h : c.In s) : KeepsPlace s (moveTo c) := preserves_modify fun _ _ => h

theorem keepsPlace_inFlow : KeepsPlace s inFlow := preserves_get.bind fun _ => preserves_pure _

theorem keepsPlace_allowKey (allowed : Bool) : KeepsPlace s (allowKey allowed) :=
  keepsPlace_modify fun _ => rfl

theorem keepsPlace_emit (t : Token) : KeepsPlace s (emit t) := keepsPlace_modify fun _ => rfl

theorem keepsPlace_mark (kind : TokenKind) : KeepsPlace s (mark kind) :=
  keepsPlace_cursor_bind fun _ _ => keepsPlace_emit _

theorem keepsPlace_emitTo (kind : TokenKind) (h : c.In s) : KeepsPlace s (emitTo kind c) :=
  keepsPlace_cursor_bind fun _ _ => (keepsPlace_emit _).bind fun _ => keepsPlace_moveTo h

theorem keepsPlace_emitHere (kind : TokenKind) {move : Cursor → Cursor}
    (h : ∀ c, c.In s → (move c).In s) : KeepsPlace s (do emitTo kind (move (← cursor))) :=
  keepsPlace_cursor_bind fun c hc => keepsPlace_emitTo kind (h c hc)

theorem keepsPlace_insertAt (number : Nat) (t : Token) : KeepsPlace s (insertAt number t) :=
  keepsPlace_modify fun _ => rfl

theorem keepsPlace_dropStaleKeys : KeepsPlace s dropStaleKeys := by
  refine preserves_get_bind fun st hst => ?_
  exact preserves_ite (keepsPlace_fail.bind fun _ => preserves_set hst) (keepsPlace_set hst (by rfl))

theorem keepsPlace_dropKey : KeepsPlace s dropKey := by
  refine preserves_get_bind fun st hst => ?_
  exact preserves_ite (keepsPlace_fail.bind fun _ => preserves_set hst) (keepsPlace_set hst (by rfl))

theorem keepsPlace_saveKey : KeepsPlace s saveKey := by
  refine preserves_get_bind fun st hst => ?_
  exact preserves_ite (keepsPlace_dropKey.bind fun _ => keepsPlace_modify fun _ => rfl)
    (preserves_pure _)

theorem keepsPlace_unwind (column : Int) (indents : List Int) :
    KeepsPlace s (unwind column indents) := by
  induction indents with
  | nil => exact preserves_pure _
  | cons outer rest ih =>
    refine preserves_get_bind fun st hst => preserves_ite ?_ (preserves_pure _)
    exact (keepsPlace_mark _).bind fun _ => (keepsPlace_modify (by intro; rfl)).bind fun _ => ih

theorem keepsPlace_unwindTo (column : Int) : KeepsPlace s (unwindTo column) :=
  keepsPlace_inFlow.bind fun _ =>
    preserves_ite (preserves_get.bind fun _ => keepsPlace_unwind _ _) (preserves_pure _)

theorem keepsPlace_deepen (column : Int) : KeepsPlace s (deepen column) := by
  refine preserves_get_bind fun st hst => preserves_ite ?_ (preserves_pure _)
  exact (keepsPlace_set hst (by rfl)).bind fun _ => preserves_pure _

theorem keepsPlace_streamEnd : KeepsPlace s streamEnd :=
  (keepsPlace_unwindTo _).bind fun _ => keepsPlace_dropKey.bind fun _ =>
    (keepsPlace_allowKey _).bind fun _ => keepsPlace_mark _

theorem keepsPlace_directiveLine : KeepsPlace s directiveLine :=
  (keepsPlace_unwindTo _).bind fun _ => keepsPlace_dropKey.bind fun _ =>
    (keepsPlace_allowKey _).bind fun _ => keepsPlace_cursor_bind fun _ hc =>
    keepsPlace_liftM_bind (staysIn_directive hc) fun _ _ hd => keepsPlace_emitTo _ hd

theorem keepsPlace_documentMark (kind : TokenKind) : KeepsPlace s (documentMark kind) :=
  (keepsPlace_unwindTo _).bind fun _ => keepsPlace_dropKey.bind fun _ =>
    (keepsPlace_allowKey _).bind fun _ => keepsPlace_emitHere _ fun _ hc => hc.skip 3

theorem keepsPlace_openFlow (kind : TokenKind) : KeepsPlace s (openFlow kind) :=
  keepsPlace_saveKey.bind fun _ => (keepsPlace_modify (by intro; rfl)).bind fun _ =>
    (keepsPlace_allowKey _).bind fun _ => keepsPlace_emitHere _ fun _ hc => hc.next

theorem keepsPlace_closeFlow (kind : TokenKind) : KeepsPlace s (closeFlow kind) :=
  keepsPlace_dropKey.bind fun _ => (keepsPlace_modify (by intro; rfl)).bind fun _ =>
    (keepsPlace_allowKey _).bind fun _ => keepsPlace_emitHere _ fun _ hc => hc.next

theorem keepsPlace_flowEntry : KeepsPlace s flowEntry :=
  (keepsPlace_allowKey _).bind fun _ => keepsPlace_dropKey.bind fun _ =>
    keepsPlace_emitHere _ fun _ hc => hc.next

theorem keepsPlace_startEntry (collection : TokenKind) : KeepsPlace s (startEntry collection) := by
  have hmark : KeepsPlace s (do
      if ← deepen (← cursor).column then mark collection) :=
    keepsPlace_cursor_bind fun c _ => (keepsPlace_deepen c.column).bind fun _ =>
      preserves_ite (keepsPlace_mark _) (preserves_pure _)
  refine keepsPlace_inFlow.bind fun _ => preserves_ite ?_ (preserves_pure _)
  refine preserves_get_bind fun st _ => ?_
  exact preserves_ite (keepsPlace_fail.bind fun _ => hmark) hmark

theorem keepsPlace_blockEntry : KeepsPlace s blockEntry :=
  (keepsPlace_startEntry _).bind fun _ => (keepsPlace_allowKey _).bind fun _ =>
    keepsPlace_dropKey.bind fun _ => keepsPlace_emitHere _ fun _ hc => hc.next

theorem keepsPlace_explicitKey : KeepsPlace s explicitKey :=
  (keepsPlace_startEntry _).bind fun _ => keepsPlace_inFlow.bind fun _ =>
    (keepsPlace_allowKey _).bind fun _ => keepsPlace_dropKey.bind fun _ =>
    keepsPlace_emitHere _ fun _ hc => hc.next

theorem keepsPlace_announceKey (k : KeyPlace) : KeepsPlace s (announceKey k) :=
  (keepsPlace_insertAt _ _).bind fun _ => keepsPlace_inFlow.bind fun _ =>
    preserves_ite ((keepsPlace_deepen _).bind fun _ =>
      preserves_ite (keepsPlace_insertAt _ _) (preserves_pure _)) (preserves_pure _)

theorem keepsPlace_keyHere : KeepsPlace s keyHere :=
  preserves_get_bind fun _ hst => (keepsPlace_set hst (by rfl)).bind fun _ => preserves_pure _

theorem keepsPlace_beforeValue (k : Option KeyPlace) : KeepsPlace s (beforeValue k) := by
  cases k with
  | some k => exact (keepsPlace_announceKey k).bind fun _ => keepsPlace_allowKey _
  | none =>
    exact (keepsPlace_startEntry _).bind fun _ => keepsPlace_inFlow.bind fun _ =>
      (keepsPlace_allowKey _).bind fun _ => keepsPlace_dropKey

theorem keepsPlace_value : KeepsPlace s value :=
  keepsPlace_keyHere.bind fun _ => (keepsPlace_beforeValue _).bind fun _ =>
    keepsPlace_emitHere _ fun _ hc => hc.next

theorem keepsPlace_maybeKey {scan : Cursor → Except Fault (TokenKind × Cursor)}
    (h : ∀ c, c.In s → StaysIn s (scan c)) : KeepsPlace s (maybeKey scan) :=
  keepsPlace_saveKey.bind fun _ => (keepsPlace_allowKey _).bind fun _ =>
    keepsPlace_cursor_bind fun c hc =>
    keepsPlace_liftM_bind (h c hc) fun _ _ hd => keepsPlace_emitTo _ hd

theorem keepsPlace_blockScalar : KeepsPlace s blockScalar :=
  (keepsPlace_allowKey _).bind fun _ => keepsPlace_dropKey.bind fun _ =>
    preserves_get_bind fun _ _ => keepsPlace_cursor_bind fun _ hc =>
    keepsPlace_liftM_bind (staysIn_block _ hc) fun _ _ hd => keepsPlace_emitTo _ hd

theorem keepsPlace_plainScalar : KeepsPlace s plainScalar :=
  keepsPlace_saveKey.bind fun _ => keepsPlace_cursor_bind fun _ hc =>
    keepsPlace_inFlow.bind fun _ => preserves_get_bind fun _ _ =>
    (keepsPlace_allowKey _).bind fun _ => (keepsPlace_emit _).bind fun _ =>
    keepsPlace_moveTo (in_plain _ _ hc)

theorem keepsPlace_skipToToken (n : Nat) : KeepsPlace s (skipToToken n) := by
  induction n with
  | zero => exact preserves_pure _
  | succ n ih =>
    refine keepsPlace_cursor_bind fun c hc => ?_
    have hbreak := hc.skipSpaces.skipComment.lineBreak
    dsimp only
    split
    · next hline =>
      rw [hline] at hbreak
      exact keepsPlace_moveTo hbreak
    · next hline =>
      rw [hline] at hbreak
      refine (keepsPlace_moveTo hbreak).bind fun _ => keepsPlace_inFlow.bind fun _ => ?_
      exact preserves_ite ((keepsPlace_allowKey _).bind fun _ => ih) ih

theorem keepsPlace_skipByteOrderMark : KeepsPlace s skipByteOrderMark :=
  keepsPlace_cursor_bind fun _ hc => preserves_ite (keepsPlace_moveTo hc.next) (preserves_pure _)

theorem keepsPlace_tokenAt (flow : Bool) (c : Cursor) : KeepsPlace s (tokenAt flow c) := by
  unfold tokenAt
  dsimp only
  split
  · exact keepsPlace_openFlow _
  · exact keepsPlace_openFlow _
  · exact keepsPlace_closeFlow _
  · exact keepsPlace_closeFlow _
  · exact keepsPlace_flowEntry
  · exact keepsPlace_maybeKey fun c hc => (staysIn_anchorName hc).map _
  · exact keepsPlace_maybeKey fun c hc => (staysIn_anchorName hc).map _
  · exact keepsPlace_maybeKey fun c hc => (staysIn_tag hc).map _
  · exact keepsPlace_maybeKey fun c hc => (staysIn_quoted hc).map (TokenKind.scalar · false)
  · exact keepsPlace_maybeKey fun c hc => (staysIn_quoted hc).map (TokenKind.scalar · false)
  · exact preserves_ite keepsPlace_blockEntry (preserves_ite keepsPlace_explicitKey
      (preserves_ite keepsPlace_value (preserves_ite keepsPlace_blockScalar
        (preserves_ite keepsPlace_plainScalar keepsPlace_fail))))

theorem keepsPlace_approach : KeepsPlace s approach :=
  keepsPlace_skipByteOrderMark.bind fun _ => keepsPlace_cursor_bind fun _ _ =>
    (keepsPlace_skipToToken _).bind fun _ => keepsPlace_dropStaleKeys.bind fun _ =>
    keepsPlace_cursor_bind fun _ _ => keepsPlace_unwindTo _

theorem keepsPlace_tokenOrEnd : KeepsPlace s tokenOrEnd := by
  refine keepsPlace_cursor_bind fun c _ => ?_
  have htoken : KeepsPlace s token :=
    keepsPlace_inFlow.bind fun _ => keepsPlace_cursor_bind fun _ _ => keepsPlace_tokenAt _ _
  have hgoes : ∀ {x : Scan Unit}, KeepsPlace s x → KeepsPlace s (do
      x
      return false) :=
    fun hx => hx.bind fun _ => preserves_pure _
  refine preserves_ite (keepsPlace_streamEnd.bind fun _ => preserves_pure _) ?_
  exact preserves_ite (hgoes keepsPlace_directiveLine)
    (preserves_ite (hgoes (keepsPlace_documentMark _))
      (preserves_ite (hgoes (keepsPlace_documentMark _)) (hgoes htoken)))

theorem keepsPlace_step : KeepsPlace s step :=
  keepsPlace_approach.bind fun _ => keepsPlace_tokenOrEnd

end Scan

open BlockAudit.Yaml.Scan

variable {s : List Char} {f : Fault}

theorem trouble_of_run (n : Nat) {st : Scanner} (hst : st.cursor.In s)
    (h : (st.run n).fault = some f) : Trouble s f := by
  induction n generalizing st with
  | zero =>
    cases h
    exact Or.inl rfl
  | succ n ih =>
    -- A step ends in the text, where the next one starts.
    have hstep := keepsPlace_step st hst
    rw [Scanner.run] at h
    cases hr : step.run st with
    | error g =>
      rw [hr] at h hstep
      cases h
      exact hstep
    | ok r =>
      obtain ⟨ended, st'⟩ := r
      rw [hr] at h hstep
      cases ended with
      | true => cases h
      | false => exact ih hstep h

theorem trouble_of_tokensOf (h : (tokensOf s).fault = some f) : Trouble s f := by
  have hstart : (Scanner.start s).cursor.In s := List.suffix_refl s
  exact trouble_of_run _ hstart h

theorem stable_fault (ts : Tokens) : Parser.Stable (fun st => st.tokens.fault = ts.fault)
    (fun f => f = .malformedDocument ∨ ts.fault = some f) where
  malformed := Or.inl rfl
  ends st hst := by
    rw [hst]
    cases ts.fault with
    | none => exact Or.inl rfl
    | some f => exact Or.inr rfl
  tail _ hst := hst
  retouch st st' hst h := by
    rwa [h]

theorem trouble_of_rootOf (h : rootOf s = .error f) : Trouble s f := by
  have hdocument := Parser.preserves_document (stable_fault (tokensOf s))
    (4 * (tokensOf s).list.length + 8) (Parser.start (tokensOf s)) rfl
  rw [rootOf] at h
  cases hr : (Parser.document (4 * (tokensOf s).list.length + 8)).run (Parser.start (tokensOf s)) with
  | ok r =>
    rw [hr] at h
    cases h
  | error g =>
    rw [hr] at h hdocument
    cases h
    rcases hdocument with hg | hg
    · exact Or.inl hg
    · exact trouble_of_tokensOf hg

end BlockAudit.Yaml
