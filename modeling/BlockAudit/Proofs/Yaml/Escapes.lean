import BlockAudit.Proofs.Yaml.Malformed
import BlockAudit.Yaml.Scan.Tokens

namespace BlockAudit.Yaml

namespace Cursor

variable {s : List Char} {c : Cursor}

def In (s : List Char) (c : Cursor) : Prop := c.rest <:+ s

theorem In.skip (h : c.In s) (n : Nat) : (c.skip n).In s := by
  rw [In, rest_skip]
  exact (List.drop_suffix n c.rest).trans h

theorem In.next (h : c.In s) : c.next.In s := h.skip 1

theorem In.takeWhile (h : c.In s) (p : Char → Bool) : (c.takeWhile p).2.In s := h.skip _

theorem In.skipWhile (h : c.In s) (p : Char → Bool) : (c.skipWhile p).In s := h.takeWhile p

theorem In.skipSpaces (h : c.In s) : c.skipSpaces.In s := h.skipWhile _

theorem In.skipComment (h : c.In s) : c.skipComment.In s := by
  unfold Cursor.skipComment
  split
  · exact h.skipWhile _
  · exact h

theorem In.lineBreak (h : c.In s) : c.lineBreak.2.In s := by
  unfold Cursor.lineBreak
  dsimp only
  split
  · exact h.skip 2
  · split
    · exact h.next
    · split
      · exact h.next
      · exact h

end Cursor

namespace Scan

open Cursor

variable {α β : Type} {s : List Char} {c : Cursor}

/-- An escape of as many digits as its letter takes has a number beyond all code points. -/
def StrayEscape (s : List Char) (f : Fault) : Prop :=
  ∃ letter digits n, '\\' :: letter :: digits <:+: s ∧ codeWidth? letter = some digits.length ∧
    Number.natural? 16 digits = some n ∧ 0x10FFFF < n ∧
    (f = .noSuchCodePoint ∨ f = .codePointTooLarge)

def Trouble (s : List Char) (f : Fault) : Prop := f = .malformedDocument ∨ StrayEscape s f

def StaysIn (s : List Char) (x : Except Fault (α × Cursor)) : Prop :=
  match x with
  | .ok r => r.2.In s
  | .error f => Trouble s f

theorem staysIn_malformed : StaysIn s (malformed : Except Fault (α × Cursor)) := Or.inl rfl

theorem staysIn_ok (a : α) (h : c.In s) : StaysIn s (.ok (a, c)) := h

theorem StaysIn.bind {x : Except Fault (α × Cursor)} {g : α × Cursor → Except Fault (β × Cursor)}
    (h : StaysIn s x) (hg : ∀ a c, c.In s → StaysIn s (g (a, c))) : StaysIn s (x >>= g) := by
  cases x with
  | ok r => exact hg r.1 r.2 h
  | error f => exact h

theorem staysIn_lineBreak (h : c.In s) {x : Cursor → Except Fault (α × Cursor)}
    {y : List Char → Cursor → Except Fault (α × Cursor)} (hx : ∀ c, c.In s → StaysIn s (x c))
    (hy : ∀ t c, c.In s → StaysIn s (y t c)) :
    StaysIn s
      (match c.lineBreak with
      | ([], c) => x c
      | (t, c) => y t c) := by
  have hbreak := h.lineBreak
  rcases hline : c.lineBreak with ⟨_ | ⟨a, t⟩, d⟩
  · rw [hline] at hbreak
    exact hx d hbreak
  · rw [hline] at hbreak
    exact hy _ d hbreak

theorem staysIn_quotedBreaks (n : Nat) (h : c.In s) : StaysIn s (quotedBreaks n c) := by
  induction n generalizing c with
  | zero => exact staysIn_malformed
  | succ n ih =>
    rw [quotedBreaks]
    split
    · exact staysIn_malformed
    · refine staysIn_lineBreak (h.skipWhile _) (fun c hc => staysIn_ok _ hc) fun t c hc => ?_
      exact (ih hc).bind fun u d hd => staysIn_ok _ hd

theorem staysIn_quotedSpace (h : c.In s) : StaysIn s (quotedSpace c) := by
  unfold quotedSpace
  have hspace := h.takeWhile isSpaceOrTab
  rcases htake : c.takeWhile isSpaceOrTab with ⟨space, d⟩
  rw [htake] at hspace
  dsimp only at hspace ⊢
  split
  · exact staysIn_malformed
  · refine staysIn_lineBreak hspace (fun c hc => staysIn_ok _ hc) fun t c hc => ?_
    refine (staysIn_quotedBreaks _ hc).bind fun breaks d hd => ?_
    dsimp only
    split
    · exact staysIn_ok _ hd
    · split
      · exact staysIn_ok _ hd
      · exact staysIn_ok _ hd

theorem codePoint_eq_error {n : Nat} {f : Fault} (h : codePoint n = .error f) :
    0x10FFFF < n ∧ (f = .noSuchCodePoint ∨ f = .codePointTooLarge) := by
  unfold codePoint at h
  split at h
  · cases h
    exact ⟨by omega, Or.inr rfl⟩
  · split at h
    · cases h
      exact ⟨by omega, Or.inl rfl⟩
    · split at h <;> cases h

theorem staysIn_numberedEscape {letter : Char} {width : Nat} (hwidth : codeWidth? letter = some width)
    (hs : '\\' :: letter :: c.rest <:+ s) : StaysIn s (numberedEscape width c) := by
  have hc : c.In s := (List.suffix_append ['\\', letter] c.rest).trans hs
  unfold numberedEscape
  dsimp only
  split
  · next hdigits =>
    rw [Bool.and_eq_true, decide_eq_true_eq] at hdigits
    cases hpoint : codePoint ((Number.natural? 16 (c.rest.take width)).getD 0) with
    | ok x => exact staysIn_ok _ (hc.skip width)
    | error f =>
      obtain ⟨hlarge, hf⟩ := codePoint_eq_error hpoint
      -- The escape is a prefix of what is left of the text at its backslash.
      have hinfix : '\\' :: letter :: c.rest.take width <:+: s := by
        have hprefix : '\\' :: letter :: c.rest.take width <+: '\\' :: letter :: c.rest := by
          simp [List.take_prefix]
        exact hprefix.isInfix.trans hs.isInfix
      cases hn : Number.natural? 16 (c.rest.take width) with
      | none => simp [hn] at hlarge
      | some n =>
        rw [hn] at hlarge
        exact Or.inr ⟨letter, _, n, hinfix, by rw [hwidth, hdigits.1], hn, hlarge, hf⟩
  · exact staysIn_malformed

theorem rest_of_peek {x : Char} (h : c.peek = x) (hx : x ≠ '\x00') : c.rest = x :: c.next.rest := by
  rw [peek] at h
  rw [rest_next]
  cases hrest : c.rest with
  | nil =>
    rw [hrest] at h
    exact absurd h.symm hx
  | cons y t =>
    rw [hrest] at h
    rw [← h]
    rfl

theorem codeWidth?_null : codeWidth? '\x00' = none := by decide

theorem staysIn_escapeSequence (hs : '\\' :: c.rest <:+ s) : StaysIn s (escapeSequence c) := by
  have hc : c.In s := (List.suffix_cons '\\' c.rest).trans hs
  unfold escapeSequence
  split
  · exact staysIn_ok _ hc.next
  · next width _ hwidth =>
    have hletter : c.peek ≠ '\x00' := by
      intro hnull
      rw [hnull, codeWidth?_null] at hwidth
      cases hwidth
    refine staysIn_numberedEscape hwidth ?_
    rwa [rest_of_peek rfl hletter] at hs
  · exact staysIn_lineBreak hc (fun _ _ => staysIn_malformed) fun t c hc => staysIn_quotedBreaks _ hc

theorem staysIn_quotedChunk (double : Bool) (h : c.In s) : StaysIn s (quotedChunk double c) := by
  unfold quotedChunk
  dsimp only
  split
  · exact h.takeWhile isQuotedText
  · split
    · exact staysIn_quotedSpace h
    · split
      · split
        · next hpeek =>
          refine staysIn_escapeSequence ?_
          rwa [In, rest_of_peek hpeek (by decide)] at h
        · exact staysIn_ok _ h.next
      · split
        · exact staysIn_ok _ (h.skip 2)
        · exact staysIn_ok _ h.next

theorem staysIn_quotedText (double : Bool) (n : Nat) (h : c.In s) :
    StaysIn s (quotedText double n c) := by
  induction n generalizing c with
  | zero => exact staysIn_malformed
  | succ n ih =>
    rw [quotedText]
    refine (staysIn_quotedChunk double h).bind fun t c hc => ?_
    dsimp only
    split
    · exact staysIn_ok _ hc.next
    · exact (ih hc).bind fun u d hd => staysIn_ok _ hd

theorem staysIn_quoted (h : c.In s) : StaysIn s (quoted c) := by
  unfold quoted
  dsimp only
  split
  · exact staysIn_ok _ h.next.next
  · exact (staysIn_quotedText _ _ h.next).bind fun t c hc => staysIn_ok _ hc

theorem staysIn_directiveName (h : c.In s) : StaysIn s (directiveName c) := by
  unfold directiveName
  dsimp only [Cursor.takeWhile]
  split
  · exact staysIn_malformed
  · exact staysIn_ok _ (h.skip _)

theorem staysIn_versionNumber (h : c.In s) : StaysIn s (versionNumber c) := by
  unfold versionNumber
  dsimp only [Cursor.takeWhile]
  split
  · exact staysIn_ok _ (h.skip _)
  · exact staysIn_malformed

theorem staysIn_version (h : c.In s) : StaysIn s (version c) := by
  refine (staysIn_versionNumber h.skipSpaces).bind fun major c hc => ?_
  dsimp only
  split
  · exact staysIn_malformed
  · refine (staysIn_versionNumber hc.next).bind fun minor c hc => ?_
    dsimp only
    split
    · exact staysIn_ok _ hc
    · exact staysIn_malformed

theorem staysIn_tagHandle (h : c.In s) : StaysIn s (tagHandle c) := by
  unfold tagHandle
  split
  · exact staysIn_malformed
  · split
    · exact staysIn_ok _ h.next
    · dsimp only [Cursor.takeWhile]
      split
      · exact staysIn_ok _ (h.next.skip _).next
      · exact staysIn_malformed

theorem staysIn_uriBytes (n : Nat) (h : c.In s) : StaysIn s (uriBytes n c) := by
  induction n generalizing c with
  | zero => exact staysIn_malformed
  | succ n ih =>
    rw [uriBytes]
    split
    · exact staysIn_ok _ h
    · split
      · exact (ih (h.skip 3)).bind fun bs c hc => staysIn_ok _ hc
      · exact staysIn_malformed

theorem staysIn_uriEscapes (h : c.In s) : StaysIn s (uriEscapes c) := by
  refine (staysIn_uriBytes _ h).bind fun bs c hc => ?_
  dsimp only
  split
  · exact staysIn_ok _ hc
  · exact staysIn_malformed

theorem staysIn_uriChars (n : Nat) (h : c.In s) : StaysIn s (uriChars n c) := by
  induction n generalizing c with
  | zero => exact staysIn_malformed
  | succ n ih =>
    rw [uriChars]
    split
    · refine (staysIn_uriEscapes h).bind fun t c hc => ?_
      exact (ih hc).bind fun u c hc => staysIn_ok _ hc
    · have htake := h.takeWhile isUriChar
      rcases hword : c.takeWhile isUriChar with ⟨_ | ⟨x, t⟩, d⟩
      · rw [hword] at htake
        exact staysIn_ok _ htake
      · rw [hword] at htake
        exact (ih htake).bind fun u c hc => staysIn_ok _ hc

theorem staysIn_uri (h : c.In s) : StaysIn s (uri c) := by
  unfold uri
  split
  · exact staysIn_malformed
  · exact (staysIn_uriChars _ h).bind fun t c hc => staysIn_ok _ hc

theorem staysIn_tagDirective (h : c.In s) : StaysIn s (tagDirective c) := by
  refine (staysIn_tagHandle h.skipSpaces).bind fun handle c hc => ?_
  dsimp only
  split
  · exact staysIn_malformed
  · refine (staysIn_uri hc.skipSpaces).bind fun expansion c hc => ?_
    dsimp only
    split
    · exact staysIn_ok _ hc
    · exact staysIn_malformed

theorem unlessMalformed_restOfLine (h : c.In s) : UnlessMalformed (In s) (restOfLine c) := by
  unfold restOfLine
  dsimp only
  split
  · exact h.skipSpaces.skipComment.lineBreak
  · exact rfl

theorem UnlessMalformed.staysIn_bind {P : β → Prop} {x : Except Fault β}
    {g : β → Except Fault (α × Cursor)} (h : UnlessMalformed P x)
    (hg : ∀ b, P b → StaysIn s (g b)) : StaysIn s (x >>= g) := by
  cases x with
  | ok b => exact hg b h
  | error f => exact Or.inl h

theorem StaysIn.map {x : Except Fault (α × Cursor)} (h : StaysIn s x) (f : α → β) :
    StaysIn s (x.map fun (a, c) => (f a, c)) := by
  cases x with
  | ok r => exact h
  | error e => exact h

theorem staysIn_directive (h : c.In s) : StaysIn s (directive c) := by
  refine (staysIn_directiveName h.next).bind fun name c hc => ?_
  have hrest : ∀ r : TokenKind × Cursor, r.2.In s → StaysIn s (do
      let c ← restOfLine r.2
      return (r.1, c)) :=
    fun r hr => UnlessMalformed.staysIn_bind (unlessMalformed_restOfLine hr) fun c hc => staysIn_ok _ hc
  dsimp only
  split
  · exact ((staysIn_version hc).map _).bind fun kind d hd => hrest (kind, d) hd
  · split
    · exact (staysIn_tagDirective hc).bind fun kind d hd => hrest (kind, d) hd
    · exact hrest (_, _) (hc.skipWhile _)

theorem staysIn_anchorName (h : c.In s) : StaysIn s (anchorName c) := by
  unfold anchorName
  dsimp only [Cursor.takeWhile]
  split
  · exact staysIn_malformed
  · split
    · exact staysIn_ok _ (h.next.skip _)
    · exact staysIn_malformed

theorem staysIn_tagName (h : c.In s) : StaysIn s (tagName c) := by
  unfold tagName
  dsimp only
  split
  · refine (staysIn_uri (h.skip 2)).bind fun t c hc => ?_
    dsimp only
    split
    · exact staysIn_ok _ hc.next
    · exact staysIn_malformed
  · split
    · exact staysIn_ok _ h.next
    · split
      · refine (staysIn_tagHandle h).bind fun handle c hc => ?_
        exact (staysIn_uri hc).bind fun suffix c hc => staysIn_ok _ hc
      · exact (staysIn_uri h.next).bind fun suffix c hc => staysIn_ok _ hc

theorem staysIn_tag (h : c.In s) : StaysIn s (tag c) := by
  refine (staysIn_tagName h).bind fun name c hc => ?_
  dsimp only
  split
  · exact staysIn_ok _ hc
  · exact staysIn_malformed

theorem unlessMalformed_indentation (h : c.In s) :
    UnlessMalformed (fun r => r.2.In s) (indentation c) := by
  unfold indentation
  split
  · split
    · exact rfl
    · exact h.next
  · exact h

theorem unlessMalformed_blockHeader (h : c.In s) :
    UnlessMalformed (fun r => r.2.2.In s) (blockHeader c) := by
  have hrest : ∀ chomping indent c, c.In s → UnlessMalformed (fun r => r.2.2.In s) (do
      if !isSpaceOrEnd c.peek then malformed
      else
        let c ← restOfLine c
        return (chomping, indent, c) : Except Fault (Chomping × Option Nat × Cursor)) := by
    intro chomping indent c hc
    split
    · exact rfl
    · exact (unlessMalformed_restOfLine hc).bind fun c hc => hc
  unfold blockHeader
  split
  · refine (unlessMalformed_indentation h.next).bind fun r hr => ?_
    exact hrest _ _ r.2 hr
  · refine (unlessMalformed_indentation h).bind fun r hr => ?_
    dsimp only
    split
    · exact hrest _ _ _ hr.next
    · exact hrest _ _ _ hr

theorem in_leadingBreaks (n deepest : Nat) (h : c.In s) : (leadingBreaks n deepest c).2.2.In s := by
  induction n generalizing deepest c with
  | zero => exact h
  | succ n ih =>
    rw [leadingBreaks]
    have hbreak := h.lineBreak
    split
    · exact ih _ h.next
    · split
      · next hline =>
        rw [hline] at hbreak
        exact hbreak
      · next hline =>
        rw [hline] at hbreak
        exact ih _ hbreak

theorem in_blockBreaks (indent n : Nat) (h : c.In s) : (blockBreaks indent n c).2.In s := by
  induction n generalizing c with
  | zero => exact h
  | succ n ih =>
    rw [blockBreaks]
    have hbreak := (h.skip (min (indent - c.column) (c.rest.takeWhile (· == ' ')).length)).lineBreak
    dsimp only [skipIndent]
    split
    · next hline =>
      rw [hline] at hbreak
      exact hbreak
    · next hline =>
      rw [hline] at hbreak
      exact ih hbreak

theorem in_blockLines (folded : Bool) (chomping : Chomping) (indent n : Nat) (breaks : List Char)
    (h : c.In s) : (blockLines folded chomping indent n breaks c).2.In s := by
  induction n generalizing breaks c with
  | zero => exact h
  | succ n ih =>
    rw [blockLines]
    have hline := (h.takeWhile fun x => !isBreakOrEnd x).lineBreak
    dsimp only
    split
    · exact ih _ (in_blockBreaks _ _ hline)
    · exact in_blockBreaks _ _ hline

theorem staysIn_block (outer : Int) (h : c.In s) : StaysIn s (block outer c) := by
  unfold block
  refine UnlessMalformed.staysIn_bind (unlessMalformed_blockHeader h.next) ?_
  rintro ⟨chomping, increment, d⟩ hd
  cases increment with
  | some n =>
    dsimp only
    have hbreaks := in_blockBreaks (max (outer + 1).toNat 1 + n - 1) (d.rest.length + 1) hd
    split
    · exact staysIn_ok _ (in_blockLines _ _ _ _ _ hbreaks)
    · exact staysIn_ok _ hbreaks
  | none =>
    dsimp only
    have hbreaks := in_leadingBreaks (d.rest.length + 1) 0 hd
    split
    · exact staysIn_ok _ (in_blockLines _ _ _ _ _ hbreaks)
    · exact staysIn_ok _ hbreaks

theorem in_plainBreaks (n : Nat) (h : c.In s) : (plainBreaks n c).2.In s := by
  induction n generalizing c with
  | zero => exact h
  | succ n ih =>
    rw [plainBreaks]
    have hbreak := h.skipSpaces.lineBreak
    dsimp only
    split
    · next hline =>
      rw [hline] at hbreak
      exact hbreak
    · next hline =>
      rw [hline] at hbreak
      split
      · exact hbreak
      · exact ih hbreak

theorem in_gap (h : c.In s) : (gap c).cursor.In s := by
  have hbreak := (h.takeWhile (· == ' ')).lineBreak
  unfold gap
  dsimp only
  split
  · next hline =>
    rw [hline] at hbreak
    exact hbreak
  · next hline =>
    rw [hline] at hbreak
    split
    · exact hbreak
    · next d _ _ =>
      have hbreaks := in_plainBreaks (d.rest.length + 1) hbreak
      split
      · next hlines =>
        rw [hlines] at hbreaks
        exact hbreaks
      · next hlines =>
        rw [hlines] at hbreaks
        exact hbreaks

theorem in_plainWords (inFlow : Bool) (indent n : Nat) (before : List Char) {p : Plain}
    (h : p.cursor.In s) : (plainWords inFlow indent n before p).cursor.In s := by
  induction n generalizing before p with
  | zero => exact h
  | succ n ih =>
    rw [plainWords]
    dsimp only
    split
    · exact h
    · split
      · exact h
      · split
        · exact in_gap (h.skip _)
        · exact ih _ (in_gap (h.skip _))

theorem in_plain (inFlow : Bool) (outer : Int) (h : c.In s) : (plain inFlow outer c).cursor.In s :=
  in_plainWords _ _ _ _ h

end Scan
end BlockAudit.Yaml
