import BlockAudit.Proofs.Yaml.Malformed
import BlockAudit.Proofs.Yaml.Word
import BlockAudit.Yaml.Scan.Plain

namespace BlockAudit.Yaml.Scan

open Json

variable {c : Cursor} {s w rest : List Char}

/-- After the space of JSON comes neither another line break nor a comment. -/
def Clear (s : List Char) : Prop :=
  ∀ x ∈ (skipSpace s).head?, isBreak x = false ∧ x ≠ '#'

def Follows (s : List Char) : Prop :=
  ∃ x t, skipSpace s = x :: t ∧ (x = ',' ∨ x = ']' ∨ x = '\x7d')

theorem skipSpace_cons_of_isSpace {x : Char} (h : isSpace x = true) :
    skipSpace (x :: s) = skipSpace s := by
  rw [skipSpace, List.dropWhile_cons, if_pos h]
  rfl

theorem skipSpace_cons_eq_self {x : Char} (h : isSpace x = false) :
    skipSpace (x :: s) = x :: s := by
  rw [skipSpace, List.dropWhile_cons, if_neg (Bool.eq_false_iff.mp h)]

theorem skipSpace_cases (s : List Char) :
    skipSpace s = s ∨ ∃ x t, s = x :: t ∧ isSpace x = true := by
  cases s with
  | nil => exact Or.inl rfl
  | cons x t =>
    cases h : isSpace x with
    | true => exact Or.inr ⟨x, t, rfl, h⟩
    | false => exact Or.inl (skipSpace_cons_eq_self h)

theorem isBlankOrEnd_of_isSpace {x : Char} (h : isSpace x = true) : isBlankOrEnd x = true := by
  simp only [isSpace, Bool.or_eq_true, beq_iff_eq] at h
  rcases h with ((rfl | rfl) | rfl) | rfl <;> rfl

theorem Follows.clear (h : Follows s) : Clear s := by
  obtain ⟨x, t, hs, hx⟩ := h
  rw [Clear, hs]
  rintro y ⟨⟩
  rcases hx with rfl | rfl | rfl <;> exact ⟨rfl, by decide⟩

theorem skipSpace_dropWhile (s : List Char) : skipSpace (s.dropWhile (· == ' ')) = skipSpace s := by
  induction s with
  | nil => rfl
  | cons x s ih =>
    rw [List.dropWhile_cons]
    split
    · next hx =>
      obtain rfl : x = ' ' := by simpa using hx
      rw [ih, skipSpace_cons_of_isSpace rfl]
    · rfl

theorem skipSpace_skipSpaces (c : Cursor) : skipSpace c.skipSpaces.rest = skipSpace c.rest := by
  rw [Cursor.skipSpaces, Cursor.skipWhile, Cursor.rest_takeWhile, skipSpace_dropWhile]

theorem Clear.of_eq {t : List Char} (h : Clear s) (hst : skipSpace t = skipSpace s) : Clear t := by
  rwa [Clear, hst]

theorem eq_of_isBreak {x : Char} {t : List Char} (h : Clear (x :: t)) (hx : isBreak x = true) :
    x = '\n' ∨ x = '\r' := by
  cases hspace : isSpace x with
  | true =>
    simp only [isSpace, Bool.or_eq_true, beq_iff_eq] at hspace
    rcases hspace with ((rfl | rfl) | rfl) | rfl
    · cases hx
    · cases hx
    · exact Or.inl rfl
    · exact Or.inr rfl
  | false =>
    rw [Clear, skipSpace_cons_eq_self hspace] at h
    cases hx.symm.trans (h x rfl).1

theorem skipSpace_lineBreak (h : Clear c.rest) :
    skipSpace c.lineBreak.2.rest = skipSpace c.rest := by
  cases hs : c.rest with
  | nil =>
    have hpeek : c.peek = '\x00' := by rw [Cursor.peek, hs]; rfl
    have hline : c.lineBreak = ([], c) := by
      unfold Cursor.lineBreak
      simp only [hpeek]
      rfl
    rw [hline, hs]
  | cons x t =>
    have hpeek := Cursor.peek_of_rest hs
    have hnext : c.next.rest = t := by rw [Cursor.rest_next, hs]; rfl
    unfold Cursor.lineBreak
    simp only [hpeek]
    split
    · next hfeed =>
      simp only [Bool.and_eq_true, decide_eq_true_eq] at hfeed
      obtain ⟨rfl, hfeed⟩ := hfeed
      cases t with
      | nil =>
        rw [Cursor.peekAt, hs] at hfeed
        cases hfeed
      | cons y t =>
        obtain rfl : y = '\n' := by simpa [Cursor.peekAt, hs] using hfeed
        rw [Cursor.rest_skip, hs, skipSpace_cons_of_isSpace rfl, skipSpace_cons_of_isSpace rfl]
        rfl
    split
    · next hbreak =>
      simp only [Bool.or_eq_true, decide_eq_true_eq] at hbreak
      rw [hnext]
      rcases hbreak with (rfl | rfl) | rfl
      · exact (skipSpace_cons_of_isSpace rfl).symm
      · exact (skipSpace_cons_of_isSpace rfl).symm
      · rcases eq_of_isBreak (hs ▸ h) rfl with hx | hx <;> cases hx
    · next hfeed =>
      split
      · next hbreak =>
        simp only [Bool.or_eq_true, decide_eq_true_eq, not_or] at hfeed
        rcases eq_of_isBreak (hs ▸ h) hbreak with hx | hx
        · exact absurd hx hfeed.1.2
        · exact absurd hx hfeed.1.1
      · rw [hs]

theorem skipSpace_plainBreaks (n : Nat) (h : Clear c.rest) :
    skipSpace (plainBreaks n c).2.rest = skipSpace c.rest := by
  induction n generalizing c with
  | zero => rfl
  | succ n ih =>
    have hclear := h.of_eq (skipSpace_skipSpaces c)
    have hline := (skipSpace_lineBreak hclear).trans (skipSpace_skipSpaces c)
    rw [plainBreaks]
    split
    · next c' hc' =>
      rw [hc'] at hline
      exact hline
    · next s c' _ hc' =>
      rw [hc'] at hline
      split
      · exact hline
      · exact (ih (h.of_eq hline)).trans hline

theorem skipSpace_gap (h : Clear c.rest) : skipSpace (gap c).cursor.rest = skipSpace c.rest := by
  have hspaces : skipSpace (c.takeWhile (· == ' ')).2.rest = skipSpace c.rest :=
    skipSpace_skipSpaces c
  have hline := (skipSpace_lineBreak (h.of_eq hspaces)).trans hspaces
  unfold gap
  dsimp only
  split
  · next c' hc' =>
    rw [hc'] at hline
    exact hline
  · next s c' _ hc' =>
    rw [hc'] at hline
    split
    · exact hline
    · have hbreaks := skipSpace_plainBreaks (c'.rest.length + 1) (h.of_eq hline)
      split
      · next c'' hc'' =>
        rw [hc''] at hbreaks
        exact hbreaks.trans hline
      · next t c'' hc'' =>
        rw [hc''] at hbreaks
        exact hbreaks.trans hline

def isPlainChar (x : Char) : Bool :=
  !isBlankOrEnd x && x != ':' && x != '?' && x != '#' && !isFlowIndicator x

theorem isPlainChar_of_isPortableWord (h : isPortableWord w = true) :
    ∀ x ∈ w, isPlainChar x = true := by
  rw [isPortableWord, Bool.or_eq_true] at h
  rcases h with h | h
  · obtain ⟨word, hword, hw⟩ := List.any_eq_true.mp h
    have hwords : ∀ word ∈ ["null", "true", "false"], word.toList.all isPlainChar = true := by decide
    exact eq_of_beq hw ▸ List.all_eq_true.mp (hwords word hword)
  · rw [Bool.and_eq_true, List.all_eq_true] at h
    have hchars : ∀ x ∈ numberChars, isPlainChar x = true :=
      List.all_eq_true.mp (by decide)
    exact fun x hx => hchars x (mem_of_isNumberChar (h.1 x hx))

theorem plainWord_append (hw : ∀ x ∈ w, isPlainChar x = true)
    (hs : plainWord true s = []) : plainWord true (w ++ s) = w := by
  induction w with
  | nil => exact hs
  | cons x w ih =>
    have hx := hw x List.mem_cons_self
    simp only [isPlainChar, Bool.and_eq_true, Bool.not_eq_true', bne_iff_ne] at hx
    obtain ⟨⟨⟨⟨hblank, hcolon⟩, hquestion⟩, -⟩, hindicator⟩ := hx
    rw [List.cons_append, plainWord, if_neg (by simp [hblank, hcolon, hquestion, hindicator]),
      ih fun y hy => hw y (List.mem_cons_of_mem _ hy)]

theorem plainWord_of_follows (h : Follows s) : plainWord true s = [] := by
  obtain ⟨x, t, hs, hx⟩ := h
  rcases skipSpace_cases s with hself | ⟨y, u, rfl, hy⟩
  · rw [← hself, hs, plainWord, if_pos]
    rcases hx with rfl | rfl | rfl <;> rfl
  · rw [plainWord, if_pos (by rw [isBlankOrEnd_of_isSpace hy, Bool.true_or, Bool.true_or])]

theorem Follows.of_eq {t : List Char} (h : Follows s) (hst : skipSpace t = skipSpace s) :
    Follows t := by
  rwa [Follows, hst]

theorem plain_eq (outer : Int) (hw : ∀ x ∈ w, isPlainChar x = true) (hne : w ≠ [])
    (hrest : Follows rest) (hc : c.rest = w ++ rest) :
    (plain true outer c).text = w ∧
      skipSpace (plain true outer c).cursor.rest = skipSpace rest := by
  have hword : plainWord true c.rest = w :=
    hc ▸ plainWord_append hw (plainWord_of_follows hrest)
  have hafter : (c.skip w.length).rest = rest := by rw [Cursor.rest_skip, hc, List.drop_left]
  have hgap : skipSpace (gap (c.skip w.length)).cursor.rest = skipSpace rest := by
    rw [skipSpace_gap (by rw [hafter]; exact hrest.clear), hafter]
  have hstop := plainWord_of_follows (hrest.of_eq hgap)
  have hsharp : c.peek ≠ '#' := by
    obtain ⟨x, t, rfl⟩ := List.exists_cons_of_ne_nil hne
    rw [Cursor.peek_of_rest hc]
    rintro rfl
    cases hw _ List.mem_cons_self
  have hlast : ∀ n before p, p.cursor = (gap (c.skip w.length)).cursor →
      plainWords true (outer + 1).toNat n before p = p := by
    intro n before p hp
    cases n with
    | zero => rfl
    | succ n =>
      rw [plainWords]
      simp only [hp, hstop]
      exact ite_self p
  rw [plain, plainWords]
  simp only [if_neg hsharp, hword]
  split
  · exact ⟨rfl, hgap⟩
  · rw [hlast _ _ _ rfl]
    exact ⟨rfl, hgap⟩

end BlockAudit.Yaml.Scan
