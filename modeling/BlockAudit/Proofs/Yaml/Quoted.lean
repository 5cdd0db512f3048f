import BlockAudit.Proofs.Json.Portable
import BlockAudit.Proofs.Text.Search
import BlockAudit.Proofs.Yaml.Malformed
import BlockAudit.Yaml.Scan.Quoted

namespace BlockAudit.Yaml.Scan

open Json

variable {c : Cursor} {t cs rest : List Char} {p : Char → Bool}

theorem exists_of_takeWhile (h : Quoted t cs rest) (hp : ∀ x, p x = true → x ≠ '"' ∧ x ≠ '\\') :
    ∃ cs', cs = t.takeWhile p ++ cs' ∧ Quoted (t.dropWhile p) cs' rest := by
  have hstop : ∀ {x : Char} {s cs : List Char}, x = '"' ∨ x = '\\' → Quoted (x :: s) cs rest →
      ∃ cs', cs = (x :: s).takeWhile p ++ cs' ∧ Quoted ((x :: s).dropWhile p) cs' rest := by
    intro x s cs hx h
    have hno : p x = false := by
      apply Bool.eq_false_iff.mpr
      intro hpx
      rcases hx with rfl | rfl
      · exact (hp _ hpx).1 rfl
      · exact (hp _ hpx).2 rfl
    rw [List.takeWhile_cons, List.dropWhile_cons, hno]
    exact ⟨cs, rfl, h⟩
  induction h with
  | close => exact hstop (Or.inl rfl) .close
  | unit hn h ih => exact hstop (Or.inr rfl) (.unit hn h)
  | escape hx h ih => exact hstop (Or.inr rfl) (.escape hx h)
  | @char x s cs rest hx hbreak h ih =>
    rw [List.takeWhile_cons, List.dropWhile_cons]
    cases hpx : p x with
    | false => exact ⟨x :: cs, rfl, .char hx hbreak h⟩
    | true =>
      obtain ⟨cs', rfl, hrest⟩ := ih hstop
      exact ⟨cs', rfl, hrest⟩

theorem head_of_quoted (h : Quoted t cs rest) :
    ∃ x s, t = x :: s ∧ (x = '"' ∨ x = '\\' ∨ isQuotable x = true) := by
  cases h with
  | close => exact ⟨_, _, rfl, Or.inl rfl⟩
  | unit hn h => exact ⟨_, _, rfl, Or.inr (Or.inl rfl)⟩
  | escape hx h => exact ⟨_, _, rfl, Or.inr (Or.inl rfl)⟩
  | char hx hbreak h => exact ⟨_, _, rfl, Or.inr (Or.inr hx)⟩

theorem isBreak_of_isQuotable {x : Char} (h : x = '"' ∨ x = '\\' ∨ isQuotable x = true) :
    x ≠ '\r' ∧ x ≠ '\n' ∧ x ≠ '\t' ∧ x ≠ '\x00' ∧ x ≠ '\u0085' ∧ isBreak x = isParagraphBreak x := by
  have hne : x ≠ '\r' ∧ x ≠ '\n' ∧ x ≠ '\t' ∧ x ≠ '\x00' ∧ x ≠ '\u0085' := by
    refine ⟨?_, ?_, ?_, ?_, ?_⟩ <;>
      · rintro rfl
        exact absurd h (by decide)
  obtain ⟨hr, hn, ht, hnull, hnext⟩ := hne
  refine ⟨hr, hn, ht, hnull, hnext, ?_⟩
  unfold isBreak isParagraphBreak
  grind

theorem lineBreak_of_quoted (h : Quoted c.rest cs rest) :
    c.lineBreak = ([], c) ∨ ∃ x s, c.rest = x :: s ∧ isParagraphBreak x = true ∧
      c.lineBreak = ([x], c.next) := by
  obtain ⟨x, s, hs, hx⟩ := head_of_quoted h
  obtain ⟨hr, hn, -, -, hnext, hbreak⟩ := isBreak_of_isQuotable hx
  have hpeek := Cursor.peek_of_rest hs
  unfold Cursor.lineBreak
  simp only [hpeek, hr, hn, hnext, decide_false, Bool.false_and, Bool.or_self, Bool.false_eq_true,
    if_false]
  cases hx : isParagraphBreak x with
  | true => exact Or.inr ⟨x, s, hs, hx, by rw [hbreak, hx, if_pos rfl]⟩
  | false => exact Or.inl (by rw [hbreak, hx, if_neg Bool.false_ne_true])

theorem quoted_of_paragraphBreak {x : Char} {s : List Char} (h : Quoted (x :: s) cs rest)
    (hx : isParagraphBreak x = true) :
    s.head? ≠ some ' ' ∧ ∃ cs', cs = x :: cs' ∧ Quoted s cs' rest := by
  cases h with
  | char hquotable hbreak h =>
    refine ⟨?_, _, rfl, h⟩
    intro hspace
    simp [spaceAtBreak, hx, hspace] at hbreak
  | close => cases hx
  | unit hn h => cases hx
  | escape hx' h => cases hx

def Consumed (cs rest : List Char) (r : List Char × Cursor) : Prop :=
  ∃ cs', cs = r.1 ++ cs' ∧ Quoted r.2.rest cs' rest

theorem isSpaceOrTab_iff {x : Char} : isSpaceOrTab x = true ↔ x = ' ' ∨ x = '\t' := by
  simp [isSpaceOrTab]

theorem quotedBreaks_leads (n : Nat) (h : Quoted c.rest cs rest) (hspace : c.rest.head? ≠ some ' ') :
    UnlessMalformed (Consumed cs rest) (quotedBreaks n c) := by
  induction n generalizing c cs with
  | zero => rfl
  | succ n ih =>
    rw [quotedBreaks]
    split
    · rfl
    · obtain ⟨x, s, hs, hx⟩ := head_of_quoted h
      obtain ⟨-, -, htab, -⟩ := isBreak_of_isQuotable hx
      have hskip : c.skipWhile isSpaceOrTab = c := by
        rw [Cursor.skipWhile, Cursor.takeWhile_eq_self]
        intro y hy
        rw [hs] at hy hspace
        cases hy
        apply Bool.eq_false_iff.mpr
        intro hy
        rcases isSpaceOrTab_iff.mp hy with rfl | rfl
        · exact hspace rfl
        · exact htab rfl
      simp only [hskip]
      rcases lineBreak_of_quoted h with hline | ⟨y, u, hu, hy, hline⟩
      · rw [hline]
        exact ⟨cs, rfl, h⟩
      · rw [hline]
        rw [hu] at h
        obtain ⟨hnext, cs', rfl, hrest⟩ := quoted_of_paragraphBreak h hy
        have hu' : c.next.rest = u := by rw [Cursor.rest_next, hu]; rfl
        refine (ih (hu' ▸ hrest) (hu' ▸ hnext)).bind ?_
        rintro ⟨t, c'⟩ ⟨cs'', rfl, hrest'⟩
        exact ⟨cs'', rfl, hrest'⟩

theorem head_takeWhile_spaceAtBreak (h : Quoted t cs rest) (hspace : t.head? = some ' ') :
    ∃ x s, t.dropWhile isSpaceOrTab = x :: s ∧ isParagraphBreak x = false := by
  induction h with
  | close | unit | escape => simp at hspace
  | @char x s cs rest hx hbreak h ih =>
    obtain rfl : x = ' ' := by simpa using hspace
    rw [List.dropWhile_cons, if_pos (by decide)]
    obtain ⟨y, u, rfl, hy⟩ := head_of_quoted h
    by_cases hspace' : y = ' '
    · exact ih (by rw [hspace', List.head?_cons])
    · obtain ⟨-, -, htab, -⟩ := isBreak_of_isQuotable hy
      rw [List.dropWhile_cons, if_neg (by simp [isSpaceOrTab, hspace', htab])]
      simp only [spaceAtBreak, List.head?_cons, Option.any_some, Bool.or_eq_false_iff] at hbreak
      exact ⟨y, u, rfl, by simpa using hbreak.1⟩

/-- Spaces before a separator would be lost, but there are none. -/
theorem quotedSpace_leads (h : Quoted c.rest cs rest) :
    UnlessMalformed (Consumed cs rest) (quotedSpace c) := by
  have htake : ∃ space c', c.takeWhile isSpaceOrTab = (space, c') ∧
      (∃ cs', cs = space ++ cs' ∧ Quoted c'.rest cs' rest) ∧
      (space = [] ∨ ∃ x s, c'.rest = x :: s ∧ isParagraphBreak x = false) := by
    refine ⟨c.rest.takeWhile isSpaceOrTab, (c.takeWhile isSpaceOrTab).2, rfl, ?_, ?_⟩
    · rw [Cursor.rest_takeWhile]
      refine exists_of_takeWhile h ?_
      intro x hx
      rcases isSpaceOrTab_iff.mp hx with rfl | rfl <;> decide
    · rw [Cursor.rest_takeWhile]
      obtain ⟨x, s, hs, hx⟩ := head_of_quoted h
      by_cases hspace : x = ' '
      · exact Or.inr (head_takeWhile_spaceAtBreak h (by rw [hs, hspace, List.head?_cons]))
      · obtain ⟨-, -, htab, -⟩ := isBreak_of_isQuotable hx
        refine Or.inl ?_
        rw [hs, List.takeWhile_cons, if_neg (by simp [isSpaceOrTab, hspace, htab])]
  obtain ⟨space, c', heq, ⟨cs', rfl, hrest⟩, hspace⟩ := htake
  unfold quotedSpace
  simp only [heq]
  split
  · rfl
  · rcases lineBreak_of_quoted hrest with hline | ⟨x, s, hs, hx, hline⟩
    · rw [hline]
      exact ⟨cs', rfl, hrest⟩
    · obtain rfl : space = [] := by
        rcases hspace with hspace | ⟨y, u, hu, hy⟩
        · exact hspace
        · rw [hs] at hu
          cases hu
          rw [hx] at hy
          cases hy
      rw [hline]
      rw [hs] at hrest
      obtain ⟨hnext, cs'', rfl, hrest'⟩ := quoted_of_paragraphBreak hrest hx
      have hs' : c'.next.rest = s := by rw [Cursor.rest_next, hs]; rfl
      have hfeed : [x] ≠ ['\n'] := by
        rintro ⟨⟩
        cases hx
      refine (quotedBreaks_leads _ (hs' ▸ hrest') (hs' ▸ hnext)).bind ?_
      rintro ⟨breaks, c₁⟩ ⟨ds, rfl, hd⟩
      simp only [if_pos hfeed]
      exact ⟨ds, rfl, hd⟩

theorem escape?_of_json {x y : Char} (h : Json.escape? x = some y) : escape? x = some y := by
  unfold Json.escape? at h
  split at h <;> first | exact h | cases h

theorem isHexDigit_of_digitIn? {x : Char} {v : Nat} (hx : x.toNat < 0x80)
    (h : Number.digitIn? 16 x = some v) : isHexDigit x = true := by
  have hall : ∀ n : Fin 0x80, (Number.digitIn? 16 (Char.ofNat n)).all
      (fun _ => isHexDigit (Char.ofNat n)) = true := by decide +kernel
  have := hall ⟨x.toNat, hx⟩
  rwa [Char.ofNat_toNat, h, Option.all_some] at this

theorem lt_of_digitIn? {base : Nat} {x : Char} {v : Nat} (h : Number.digitIn? base x = some v) :
    v < base := by
  have hlt : ∀ n : Nat, (if n < base then some n else none) = some v → v < base := by
    intro n hn
    by_cases hlt : n < base
    · rw [if_pos hlt] at hn
      exact Option.some.inj hn ▸ hlt
    · rw [if_neg hlt] at hn
      cases hn
  exact hlt _ h

theorem codeUnit?_eq {a b d e : Char} {n : Nat} (h : codeUnit? a b d e = some n) :
    [a, b, d, e].all isHexDigit = true ∧ Number.natural? 16 [a, b, d, e] = some n ∧ n < 0x10000 := by
  unfold codeUnit? at h
  split at h
  · next hsmall =>
    obtain ⟨digits, hdigits, rfl⟩ := Option.map_eq_some_iff.mp h
    obtain ⟨va, ha, vb, hb, vd, hd, ve, he, rfl⟩ : ∃ va, Number.digitIn? 16 a = some va ∧
        ∃ vb, Number.digitIn? 16 b = some vb ∧ ∃ vd, Number.digitIn? 16 d = some vd ∧
        ∃ ve, Number.digitIn? 16 e = some ve ∧ digits = [va, vb, vd, ve] := by
      simp only [List.mapM_cons, List.mapM_nil, Option.bind_eq_bind, Option.pure_def,
        Option.bind_some, Option.bind_eq_some_iff] at hdigits
      grind
    have hbar : '_' ∉ [a, b, d, e] := by
      intro hmem
      have hnone : Number.digitIn? 16 '_' = none := by decide +kernel
      simp only [List.mem_cons, List.not_mem_nil, or_false] at hmem
      rcases hmem with rfl | rfl | rfl | rfl <;> simp_all
    simp only [List.all_cons, List.all_nil, Bool.and_true, Bool.and_eq_true, decide_eq_true_eq]
      at hsmall ⊢
    obtain ⟨ha', hb', hd', he'⟩ := hsmall
    refine ⟨⟨isHexDigit_of_digitIn? ha' ha, isHexDigit_of_digitIn? hb' hb,
      isHexDigit_of_digitIn? hd' hd, isHexDigit_of_digitIn? he' he⟩, ?_, ?_⟩
    · rw [Number.natural?, Number.digits?, Text.fields_of_not_mem hbar]
      simp [ha, hb, hd, he]
    · have := lt_of_digitIn? ha
      have := lt_of_digitIn? hb
      have := lt_of_digitIn? hd
      have := lt_of_digitIn? he
      simp only [Number.ofDigits, List.foldl_cons, List.foldl_nil]
      omega
  · cases h

theorem codePoint_unit {n : Nat} (h : n < 0x10000) : codePoint n = .ok (unitChar n) := by
  rw [codePoint, if_neg (by omega), if_neg (by omega), unitChar]
  by_cases hunit : 0xD800 ≤ n && n < 0xE000
  · rw [if_pos hunit, if_pos]
    simp only [isHighUnit, isLowUnit, Bool.or_eq_true, Bool.and_eq_true, decide_eq_true_eq] at hunit ⊢
    omega
  · rw [if_neg hunit, if_neg]
    simp only [isHighUnit, isLowUnit, Bool.or_eq_true, Bool.and_eq_true, decide_eq_true_eq] at hunit ⊢
    omega

theorem escapeSequence_leads {s : List Char} (h : Quoted ('\\' :: s) cs rest) (hs : c.rest = s) :
    UnlessMalformed (Consumed cs rest) (escapeSequence c) := by
  cases h with
  | char hx => cases hx
  | @escape x y s _ _ hx h =>
    have hpeek := Cursor.peek_of_rest hs
    rw [escapeSequence, hpeek, escape?_of_json hx]
    refine ⟨_, rfl, ?_⟩
    rwa [Cursor.rest_next, hs]
  | @unit a b d e n s _ _ hn h =>
    have hpeek := Cursor.peek_of_rest hs
    obtain ⟨hhex, hnatural, hlt⟩ := codeUnit?_eq hn
    have hnext : c.next.rest = a :: b :: d :: e :: s := by rw [Cursor.rest_next, hs]; rfl
    have hnone : escape? 'u' = none := by decide
    have hwidth : codeWidth? 'u' = some 4 := by decide
    rw [escapeSequence, hpeek, hnone, hwidth]
    simp only [numberedEscape, hnext, List.take_succ_cons, List.take_zero, hhex, hnatural,
      Option.getD_some, codePoint_unit hlt]
    refine ⟨_, rfl, ?_⟩
    rwa [Cursor.rest_skip, hnext]

theorem quotedChunk_leads (h : Quoted c.rest cs rest) (hclose : c.peek ≠ '"') :
    UnlessMalformed (Consumed cs rest) (quotedChunk true c) := by
  obtain ⟨x, s, hs, hx⟩ := head_of_quoted h
  have hpeek := Cursor.peek_of_rest hs
  have hnext : c.next.rest = s := by rw [Cursor.rest_next, hs]; rfl
  rw [hpeek] at hclose
  unfold quotedChunk
  simp only [hpeek, if_true]
  split
  · obtain ⟨cs', rfl, hrest⟩ := exists_of_takeWhile (p := isQuotedText) h fun y hy => by
      constructor <;>
        · rintro rfl
          cases hy
    exact ⟨cs', rfl, (Cursor.rest_takeWhile c isQuotedText).symm ▸ hrest⟩
  split
  · exact quotedSpace_leads h
  split
  · next hslash =>
    subst hslash
    exact escapeSequence_leads (hs ▸ h) hnext
  · next hslash =>
    rw [hs] at h
    cases h with
    | close | unit | escape => contradiction
    | char _ _ h => exact ⟨_, rfl, hnext ▸ h⟩

theorem closesQuote_iff : closesQuote true c = true ↔ c.peek = '"' := by
  rw [closesQuote, if_pos rfl, Bool.true_or, Bool.and_true, decide_eq_true_iff]

theorem eq_nil_of_quoted (h : Quoted c.rest cs rest) (hclose : c.peek = '"') :
    cs = [] ∧ c.next.rest = rest := by
  obtain ⟨x, s, hs, -⟩ := head_of_quoted h
  rw [Cursor.peek_of_rest hs] at hclose
  rw [Cursor.rest_next, hs, List.tail_cons]
  rw [hs, hclose] at h
  cases h with
  | close => exact ⟨rfl, rfl⟩
  | char hx => cases hx

theorem quotedText_leads (n : Nat) (h : Quoted c.rest cs rest) (hclose : c.peek ≠ '"') :
    UnlessMalformed (fun r => r.1 = cs ∧ r.2.rest = rest) (quotedText true n c) := by
  induction n generalizing c cs with
  | zero => rfl
  | succ n ih =>
    rw [quotedText]
    refine (quotedChunk_leads h hclose).bind ?_
    rintro ⟨s, c'⟩ ⟨cs', rfl, hrest⟩
    dsimp only at hrest ⊢
    by_cases hpeek : c'.peek = '"'
    · rw [if_pos (closesQuote_iff.mpr hpeek)]
      obtain ⟨rfl, hc'⟩ := eq_nil_of_quoted hrest hpeek
      exact ⟨(List.append_nil s).symm, hc'⟩
    · rw [if_neg (mt closesQuote_iff.mp hpeek)]
      refine (ih hrest hpeek).bind ?_
      rintro ⟨t, c''⟩ ⟨rfl, hc''⟩
      exact ⟨rfl, hc''⟩

theorem quoted_leads (hc : c.rest = '"' :: t) (h : Quoted t cs rest) :
    UnlessMalformed (fun r => r.1 = String.ofList cs ∧ r.2.rest = rest) (quoted c) := by
  have hnext : c.next.rest = t := by rw [Cursor.rest_next, hc]; rfl
  have hdouble : (c.peek == '"') = true := by rw [Cursor.peek_of_rest hc]; rfl
  rw [← hnext] at h
  unfold quoted
  simp only [hdouble]
  by_cases hpeek : c.next.peek = '"'
  · rw [if_pos (closesQuote_iff.mpr hpeek)]
    obtain ⟨rfl, hrest⟩ := eq_nil_of_quoted h hpeek
    exact ⟨rfl, hrest⟩
  · rw [if_neg (mt closesQuote_iff.mp hpeek)]
    refine (quotedText_leads _ h hpeek).bind ?_
    rintro ⟨s, c'⟩ ⟨rfl, hc'⟩
    exact ⟨rfl, hc'⟩

end BlockAudit.Yaml.Scan
