import BlockAudit.Proofs.Yaml.Scanning

namespace BlockAudit.Yaml

open Json

namespace Scanner

variable {P Q : Scanner → Prop} {st : Scanner}

def Reaches (P : Scanner → Prop) (st : Scanner) : Prop :=
  ∀ n, (st.run n).IsBroken ∨ ∃ m st', st.run n = st'.run m ∧ P st'

theorem Reaches.refl (h : P st) : Reaches P st :=
  fun n => Or.inr ⟨n, st, rfl, h⟩

theorem Reaches.trans (h : Reaches P st) (hP : ∀ st', P st' → Reaches Q st') : Reaches Q st := by
  intro n
  rcases h n with hbroken | ⟨m, st', hrun, hst'⟩
  · exact Or.inl hbroken
  · rw [hrun]
    exact hP st' hst' m

theorem not_mem_certain (h : .streamEnd ∉ st.kinds) : ∀ t ∈ st.certain, t.kind ≠ .streamEnd := by
  intro t ht hkind
  exact h (List.mem_map.mpr ⟨t, List.mem_of_mem_take ht, hkind⟩)

theorem Reaches.step (hopen : .streamEnd ∉ st.kinds)
    (h : UnlessMalformed (fun r => r.1 = false ∧ Reaches P r.2) (Scan.step.run st)) :
    Reaches P st := by
  intro n
  cases n with
  | zero => exact Or.inl ⟨rfl, not_mem_certain hopen⟩
  | succ n =>
    rw [run]
    cases hstep : Scan.step.run st with
    | error f =>
      rw [hstep] at h
      exact Or.inl ⟨congrArg some h, not_mem_certain hopen⟩
    | ok r =>
      obtain ⟨ended, st'⟩ := r
      rw [hstep] at h
      obtain ⟨rfl, hst'⟩ := h
      exact hst' n

structure Later (st st' : Scanner) : Prop where
  keys : ∀ k ∈ st'.keys, k ∈ st.keys
  allowed : st.flowLevel ≠ 0 → st'.keyAllowed = st.keyAllowed

end Scanner

namespace Scan

open Scanner

variable {st : Scanner} {level : Nat} {ks : List TokenKind} {s t : List Char} {x : Char}
  {Q : Scanner → Prop}

theorem head_eq_of_clear {c : Cursor} (h : Clear c.rest) : c.peek ≠ '#' := by
  intro hpeek
  cases hc : c.rest with
  | nil =>
    rw [Cursor.peek, hc] at hpeek
    cases hpeek
  | cons x t =>
    rw [Cursor.peek_of_rest hc] at hpeek
    rw [Clear, hc, hpeek, skipSpace_cons_eq_self rfl] at h
    exact (h _ rfl).2 rfl

theorem skipToToken_succ (n : Nat) {c : Cursor} (hc : st.cursor.skipSpaces.skipComment = c) :
    (skipToToken (n + 1)).run st =
      (match c.lineBreak with
      | ([], c) => moveTo c
      | (_, c) => do
        moveTo c
        if !(← inFlow) then allowKey true
        skipToToken n).run st := by
  rw [← hc]
  rfl

theorem skipToToken_run (n : Nat) (h : At level ks s st) (hclear : Clear st.cursor.rest) :
    ∃ st', (skipToToken n).run st = .ok ((), st') ∧ At level ks s st' ∧ Later st st' := by
  induction n generalizing st with
  | zero => exact ⟨st, rfl, h, fun _ hk => hk, fun _ => rfl⟩
  | succ n ih =>
    have hspaces := skipSpace_skipSpaces st.cursor
    have hclear' := hclear.of_eq hspaces
    have hcomment : st.cursor.skipSpaces.skipComment = st.cursor.skipSpaces :=
      if_neg (head_eq_of_clear hclear')
    have hline := (skipSpace_lineBreak hclear').trans hspaces
    rw [skipToToken_succ n hcomment]
    split
    · next c hc =>
      rw [hc] at hline
      exact ⟨_, rfl, { h with rest := hline.trans h.rest }, fun _ hk => hk, fun _ => rfl⟩
    · next u c _ hc =>
      rw [hc] at hline
      have hst : ∀ allowed, At level ks s { st with cursor := c, keyAllowed := allowed } :=
        fun allowed => { h with rest := hline.trans h.rest }
      -- in brackets a line break does not allow a key
      by_cases hflow : st.flowLevel = 0
      · obtain ⟨st', hrest, hst', hlater⟩ := ih (hst true) (hclear.of_eq hline)
        refine ⟨st', ?_, hst', hlater.keys, fun hflow' => absurd hflow hflow'⟩
        rw [← hrest]
        show (do
          moveTo c
          if !(← inFlow) then allowKey true
          skipToToken n : Scan Unit).run st = _
        have : (st.flowLevel != 0) = false := by rw [hflow]; rfl
        simp only [moveTo, inFlow, allowKey, StateT.run_bind, StateT.run_modify, StateT.run_get,
          StateT.run_pure, pure_bind, this]
        rfl
      · obtain ⟨st', hrest, hst', hlater⟩ := ih (hst st.keyAllowed) (hclear.of_eq hline)
        refine ⟨st', ?_, hst', hlater.keys, hlater.allowed⟩
        rw [← hrest]
        have : (st.flowLevel != 0) = true := bne_iff_ne.mpr hflow
        simp only [moveTo, inFlow, allowKey, StateT.run_bind, StateT.run_modify, StateT.run_get,
          StateT.run_pure, pure_bind, this]
        rfl

theorem dropStaleKeys_run (h : st.Flat) : ∃ keys, dropStaleKeys.run st =
    .ok ((), { st with keys := keys }) ∧ ∀ k ∈ keys, k ∈ st.keys := by
  refine ⟨(st.keys.partition fun k => isStale st.cursor k.2).2, ?_, fun k hk => ?_⟩
  · unfold dropStaleKeys
    simp only [StateT.run_bind, StateT.run_get, pure_bind, any_required h]
    rfl
  · rw [List.partition_eq_filter_filter] at hk
    exact (List.mem_filter.mp hk).1

theorem unwindTo_run (h : st.Flat) (column : Int) : (unwindTo column).run st = .ok ((), st) := by
  unfold unwindTo
  simp only [inFlow, StateT.run_bind, StateT.run_get, StateT.run_pure, pure_bind]
  split
  · simp only [StateT.run_bind, StateT.run_get, pure_bind, h.indents]
    rfl
  · rfl

theorem skipByteOrderMark_run (h : st.cursor.peek ≠ '\uFEFF') :
    skipByteOrderMark.run st = .ok ((), st) := by
  show (if st.cursor.index = 0 && st.cursor.peek = '\uFEFF' then moveTo st.cursor.next
    else pure () : Scan Unit).run st = _
  rw [if_neg (by simp [h])]
  rfl

theorem approach_run (h : At level ks s st) (hclear : Clear st.cursor.rest)
    (hmark : st.cursor.peek ≠ '\uFEFF') :
    ∃ st', approach.run st = .ok ((), st') ∧ At level ks s st' ∧ Later st st' := by
  obtain ⟨st', hskip, hst', hlater⟩ := skipToToken_run (st.cursor.rest.length + 1) h hclear
  obtain ⟨keys, hdrop, hkeys⟩ := dropStaleKeys_run hst'.toFlat
  have hst'' : At level ks s { st' with keys := keys } :=
    hst'.setKeys (fun k hk => hst'.optional k (hkeys k hk)) st'.keyAllowed
  refine ⟨_, ?_, hst'', fun k hk => hlater.keys k (hkeys k hk), hlater.allowed⟩
  unfold approach
  rw [StateT.run_bind, skipByteOrderMark_run hmark]
  show ((skipToToken (st.cursor.rest.length + 1)).run st >>= _) = _
  rw [hskip]
  show (dropStaleKeys.run st' >>= _) = _
  rw [hdrop]
  exact unwindTo_run hst''.toFlat _

def Opens (s : List Char) : Prop :=
  (∃ x t, s = x :: t ∧ x ∈ ['"', '[', ']', '\x7b', '\x7d', ',', ':']) ∨ StartsWord s

structure IsOrdinary (x : Char) (t : List Char) : Prop where
  space : isSpace x = false
  break_ : isBreak x = false
  comment : x ≠ '#'
  mark : x ≠ '\uFEFF'
  directive : x ≠ '%'
  point : x ≠ '.'
  hyphen : x = '-' → t.head? ≠ some '-'

theorem Opens.ordinary (h : Opens s) : ∃ x t, s = x :: t ∧ IsOrdinary x t := by
  have hchars : ∀ x ∈ ['"', '[', ']', '\x7b', '\x7d', ',', ':'] ++ wordStarts, isSpace x = false ∧
      isBreak x = false ∧ x ≠ '#' ∧ x ≠ '\uFEFF' ∧ x ≠ '%' ∧ x ≠ '.' ∧ x ≠ '-' :=
    List.all_iff_forall_prop.mp (by decide)
  have hother : ∀ {x t}, x ∈ ['"', '[', ']', '\x7b', '\x7d', ',', ':'] ++ wordStarts →
      IsOrdinary x t := by
    intro x t hx
    obtain ⟨hspace, hbreak, hcomment, hmark, hdirective, hpoint, hhyphen⟩ := hchars x hx
    exact ⟨hspace, hbreak, hcomment, hmark, hdirective, hpoint, fun h => absurd h hhyphen⟩
  rcases h with ⟨x, t, rfl, hx⟩ | ⟨x, t, rfl, hx | ⟨rfl, y, u, rfl, -, hy⟩⟩
  · exact ⟨x, t, rfl, hother (List.mem_append_left _ hx)⟩
  · exact ⟨x, t, rfl, hother (List.mem_append_right _ hx)⟩
  · refine ⟨'-', _, rfl, rfl, rfl, by decide, by decide, by decide, by decide, ?_⟩
    rintro - ⟨⟩
    exact hy rfl

theorem IsOrdinary.clear (h : IsOrdinary x t) (hs : skipSpace s = x :: t) : Clear s := by
  rw [Clear, hs]
  rintro y ⟨⟩
  exact ⟨h.break_, h.comment⟩

theorem peek_ne_mark {c : Cursor} (h : ∀ x ∈ (skipSpace c.rest).head?, x ≠ '\uFEFF') :
    c.peek ≠ '\uFEFF' := by
  intro hpeek
  cases hrest : c.rest with
  | nil =>
    rw [Cursor.peek, hrest] at hpeek
    cases hpeek
  | cons y u =>
    rw [Cursor.peek_of_rest hrest] at hpeek
    rw [hrest, hpeek, skipSpace_cons_eq_self (by decide)] at h
    exact h _ rfl rfl

theorem tokenAt_of_isSpace {c : Cursor} {flow : Bool} (h : isSpace c.peek = true) :
    tokenAt flow c = fail := by
  have hx := h
  simp only [isSpace, Bool.or_eq_true, beq_iff_eq] at hx
  have hstart : canStartPlain flow c = false := by
    unfold canStartPlain
    rcases hx with ((hx | hx) | hx) | hx <;> simp [hx] <;> decide
  unfold tokenAt
  rcases hx with ((hx | hx) | hx) | hx <;> rw [hx, hstart] <;> rfl

theorem isSeparator_eq_false {c : Cursor} (hs : c.rest = x :: t) (hpoint : x ≠ '.')
    (hhyphen : x = '-' → t.head? ≠ some '-') : c.isSeparator = false := by
  have hpoints : c.startsWith ['.', '.', '.'] = false := by
    rw [Cursor.startsWith, hs, List.isPrefixOf_cons_cons, Bool.and_eq_false_iff, beq_eq_false_iff_ne]
    exact Or.inl hpoint.symm
  have hhyphens : c.startsWith ['-', '-', '-'] = false := by
    rw [Cursor.startsWith, hs]
    apply Bool.eq_false_iff.mpr
    intro h
    obtain ⟨u, hu⟩ := List.isPrefixOf_iff_prefix.mp h
    cases hu
    exact hhyphen rfl rfl
  rw [Cursor.isSeparator, hpoints, hhyphens]
  rfl

theorem step_run {st' : Scanner} (happroach : approach.run st = .ok ((), st'))
    (hs : st'.cursor.rest = x :: t) (hdirective : x ≠ '%') (hpoint : x ≠ '.')
    (hhyphen : x = '-' → t.head? ≠ some '-') :
    step.run st = (token.run st').map fun r => (false, r.2) := by
  have hempty : st'.cursor.rest.isEmpty = false := by rw [hs]; rfl
  have hpeek := Cursor.peek_of_rest hs
  have hseparator := isSeparator_eq_false hs hpoint hhyphen
  rw [step, StateT.run_bind, happroach]
  show tokenOrEnd.run st' = _
  simp only [tokenOrEnd, cursor, StateT.run_bind, StateT.run_get, StateT.run_pure, pure_bind, hempty, hpeek,
    hdirective, hseparator, decide_false, Bool.and_false, Bool.false_eq_true, if_false]
  cases token.run st' <;> rfl

theorem step_of_space {st' : Scanner} (happroach : approach.run st = .ok ((), st'))
    (h : ∃ x t, st'.cursor.rest = x :: t ∧ isSpace x = true) :
    step.run st = .error .malformedDocument := by
  obtain ⟨x, t, hrest, hx⟩ := h
  have hother : x ≠ '%' ∧ x ≠ '.' ∧ x ≠ '-' := by
    refine ⟨?_, ?_, ?_⟩ <;>
      · rintro rfl
        cases hx
  have htoken : token.run st' = (fail : Scan Unit).run st' := by
    show (tokenAt _ st'.cursor).run st' = _
    rw [tokenAt_of_isSpace (by rw [Cursor.peek_of_rest hrest]; exact hx)]
  rw [step_run happroach hrest hother.1 hother.2.1 fun h => absurd h hother.2.2, htoken]
  rfl

theorem step_leads (h : At level ks s st) (hs : Opens s) (htoken : ∀ st', At level ks s st' →
      st'.cursor.rest = s → Later st st' → UnlessMalformed (fun r => Q r.2) (token.run st')) :
    UnlessMalformed (fun r => r.1 = false ∧ Q r.2) (step.run st) := by
  obtain ⟨x, t, rfl, hx⟩ := hs.ordinary
  obtain ⟨st', happroach, hst', hlater⟩ :=
    approach_run h (hx.clear h.rest) (peek_ne_mark (by rw [h.rest]; rintro y ⟨⟩; exact hx.mark))
  -- a tab is space in JSON, but the scanner does not skip it
  rcases skipSpace_cases st'.cursor.rest with hself | hspace
  · have hrest := hself.symm.trans hst'.rest
    rw [step_run happroach hrest hx.directive hx.point hx.hyphen]
    have := htoken st' hst' hrest hlater
    cases hr : token.run st' with
    | error f =>
      rw [hr] at this
      exact this
    | ok r =>
      rw [hr] at this
      exact ⟨rfl, this⟩
  · rw [step_of_space happroach hspace]
    rfl

theorem step_end (h : At 0 ks [] st) : UnlessMalformed
    (fun r => r.1 = true ∧ r.2.kinds = ks ++ [.streamEnd]) (step.run st) := by
  have hnone : ∀ x, x ∉ (skipSpace st.cursor.rest).head? := by
    intro x hx
    rw [h.rest] at hx
    cases hx
  obtain ⟨st', happroach, hst', -⟩ := approach_run h (fun x hx => absurd hx (hnone x))
    (peek_ne_mark fun x hx => absurd hx (hnone x))
  rcases skipSpace_cases st'.cursor.rest with hself | hspace
  · have hempty : st'.cursor.rest.isEmpty = true := by rw [← hself, hst'.rest]; rfl
    have hend : streamEnd.run st' = .ok ((), { st' with
        keyAllowed := false
        keys := (st'.keys.partition (·.1 == st'.flowLevel)).2
        tokens := ⟨.streamEnd, st'.cursor.line, st'.cursor.line⟩ :: st'.tokens }) := by
      unfold streamEnd
      rw [StateT.run_bind, unwindTo_run hst'.toFlat]
      show (dropKey.run st' >>= _) = _
      rw [dropKey_run hst'.toFlat]
      rfl
    have hstep : step.run st = (streamEnd.run st').map fun r => (true, r.2) := by
      rw [step, StateT.run_bind, happroach]
      show tokenOrEnd.run st' = _
      simp only [tokenOrEnd, cursor, StateT.run_bind, StateT.run_get, StateT.run_pure, pure_bind, hempty, if_true]
      cases streamEnd.run st' <;> rfl
    rw [hstep, hend]
    refine ⟨rfl, ?_⟩
    rw [Scanner.kinds, List.reverse_cons, List.map_append, ← hst'.kinds]
    rfl
  · rw [step_of_space happroach hspace]
    rfl

end Scan
end BlockAudit.Yaml
