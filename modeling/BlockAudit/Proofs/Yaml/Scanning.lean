import BlockAudit.Proofs.Yaml.Plain
import BlockAudit.Proofs.Yaml.Quoted
import BlockAudit.Yaml.Scan.Tokens

namespace BlockAudit.Yaml

open Json

namespace Scanner

def kinds (st : Scanner) : List TokenKind := st.tokens.reverse.map (·.kind)

structure Flat (st : Scanner) : Prop where
  indent : st.indent = -1
  indents : st.indents = []
  optional : ∀ k ∈ st.keys, k.2.required = false

/-- Where the scanner is: the level of brackets, the tokens so far, and the text after the space. -/
structure At (level : Nat) (ks : List TokenKind) (s : List Char) (st : Scanner) : Prop
    extends Flat st where
  level : st.flowLevel = level
  kinds : st.kinds = ks
  isOpen : .streamEnd ∉ ks
  rest : skipSpace st.cursor.rest = s

def HasKeyAt (number : Nat) (st : Scanner) : Prop :=
  ∀ k ∈ st.keys, k.1 = st.flowLevel → k.2.number = number

variable {st : Scanner} {level : Nat} {ks : List TokenKind} {s : List Char}

theorem At.length (h : At level ks s st) : st.tokens.length = ks.length := by
  rw [← h.kinds, Scanner.kinds, List.length_map, List.length_reverse]

theorem At.setKeys (h : At level ks s st) {keys : List (Nat × KeyPlace)}
    (hkeys : ∀ k ∈ keys, k.2.required = false) (allowed : Bool) :
    At level ks s { st with keyAllowed := allowed, keys := keys } :=
  { h with optional := hkeys }

theorem At.push (h : At level ks s st) {kind : TokenKind} (hkind : kind ≠ .streamEnd)
    {keys : List (Nat × KeyPlace)} (hkeys : ∀ k ∈ keys, k.2.required = false) (level' : Nat)
    (c : Cursor) (allowed : Bool) (i j : Nat) :
    At level' (ks ++ [kind]) (skipSpace c.rest)
      { st with
        cursor := c
        tokens := ⟨kind, i, j⟩ :: st.tokens
        flowLevel := level'
        keyAllowed := allowed
        keys := keys } where
  indent := h.indent
  indents := h.indents
  optional := hkeys
  level := rfl
  kinds := by rw [← h.kinds, Scanner.kinds, List.reverse_cons, List.map_append]; rfl
  isOpen := by simp [h.isOpen, hkind.symm]
  rest := rfl

end Scanner

namespace Scan

open Scanner

variable {st : Scanner} {level : Nat} {k : TokenKind} {ks : List TokenKind} {s t : List Char} {x : Char}

theorem any_required (h : st.Flat) (p : Nat × KeyPlace → Bool) :
    (st.keys.partition p).1.any (·.2.required) = false := by
  rw [List.any_eq_false, List.partition_eq_filter_filter]
  intro k hk
  rw [h.optional k (List.mem_filter.mp hk).1]
  exact Bool.false_ne_true

theorem dropKey_run (h : st.Flat) : dropKey.run st =
    .ok ((), { st with keys := (st.keys.partition (·.1 == st.flowLevel)).2 }) := by
  unfold dropKey
  simp only [StateT.run_bind, StateT.run_get, pure_bind, any_required h]
  rfl

theorem mem_of_mem_others {k : Nat × KeyPlace}
    (hk : k ∈ (st.keys.partition (·.1 == st.flowLevel)).2) : k ∈ st.keys ∧ k.1 ≠ st.flowLevel := by
  simpa [List.partition_eq_filter_filter] using hk

theorem saveKey_run (h : st.Flat) : ∃ keys, saveKey.run st = .ok ((), { st with keys := keys }) ∧
    (∀ k ∈ keys, k.2.required = false) ∧
    (st.keyAllowed = true → ∀ k ∈ keys, k.1 = st.flowLevel → k.2.number = st.tokens.length) := by
  by_cases hallowed : st.keyAllowed = true
  · have hrequired : (st.flowLevel == 0 && st.indent == (st.cursor.column : Int)) = false := by
      rw [Bool.and_eq_false_iff, h.indent]
      right
      rw [beq_eq_false_iff_ne]
      omega
    refine ⟨(st.flowLevel, ⟨st.tokens.length, false, st.cursor.index, st.cursor.line,
      st.cursor.column⟩) :: (st.keys.partition (·.1 == st.flowLevel)).2, ?_, ?_, ?_⟩
    · unfold saveKey
      simp only [StateT.run_bind, StateT.run_get, pure_bind, if_pos hallowed, dropKey_run h,
        hrequired]
      rfl
    · refine List.forall_mem_cons.mpr ⟨rfl, fun k hk => ?_⟩
      exact h.optional k (mem_of_mem_others hk).1
    · intro _
      refine List.forall_mem_cons.mpr ⟨fun _ => rfl, fun k hk hlevel => ?_⟩
      exact absurd hlevel (mem_of_mem_others hk).2
  · refine ⟨st.keys, ?_, h.optional, fun h => absurd h hallowed⟩
    unfold saveKey
    simp only [StateT.run_bind, StateT.run_get, pure_bind, if_neg hallowed]
    rfl

theorem openFlow_run (h : At level ks s st) {kind : TokenKind} (hkind : kind ≠ .streamEnd) :
    ∃ st', (openFlow kind).run st = .ok ((), st') ∧ st'.keyAllowed = true ∧
      At (level + 1) (ks ++ [kind]) (skipSpace st.cursor.rest.tail) st' := by
  obtain ⟨keys, hrun, hkeys, -⟩ := saveKey_run h.toFlat
  refine ⟨_, ?_, rfl, Cursor.rest_next st.cursor ▸ h.push hkind hkeys (level + 1) st.cursor.next true
    st.cursor.line st.cursor.next.line⟩
  unfold openFlow
  rw [StateT.run_bind, hrun, ← h.level]
  rfl

theorem closeFlow_run (h : At (level + 1) ks s st) {kind : TokenKind} (hkind : kind ≠ .streamEnd) :
    ∃ st', (closeFlow kind).run st = .ok ((), st') ∧
      At level (ks ++ [kind]) (skipSpace st.cursor.rest.tail) st' := by
  refine ⟨_, ?_, Cursor.rest_next st.cursor ▸ h.push hkind
    (fun k hk => h.optional k (mem_of_mem_others hk).1) level st.cursor.next false
    st.cursor.line st.cursor.next.line⟩
  unfold closeFlow
  rw [StateT.run_bind, dropKey_run h.toFlat, ← Nat.add_sub_cancel (n := level) (m := 1), ← h.level]
  rfl

theorem flowEntry_run (h : At level ks s st) :
    ∃ st', flowEntry.run st = .ok ((), st') ∧ st'.keyAllowed = true ∧
      At level (ks ++ [.flowEntry]) (skipSpace st.cursor.rest.tail) st' := by
  have hkind : TokenKind.flowEntry ≠ .streamEnd := nofun
  refine ⟨_, ?_, rfl, Cursor.rest_next st.cursor ▸ h.push hkind
    (fun k hk => h.optional k (mem_of_mem_others hk).1) level st.cursor.next true
    st.cursor.line st.cursor.next.line⟩
  have hflat : ({ st with keyAllowed := true } : Scanner).Flat := ⟨h.indent, h.indents, h.optional⟩
  unfold flowEntry
  rw [StateT.run_bind, ← h.level]
  show (dropKey.run { st with keyAllowed := true } >>= _) = _
  rw [dropKey_run hflat]
  rfl

theorem text_leads (h : At level ks s st) {cs rest : List Char} (hc : st.cursor.rest = '"' :: t)
    (hquoted : Quoted t cs rest) :
    UnlessMalformed (fun r => At level (ks ++ [.scalar (String.ofList cs) false]) (skipSpace rest) r.2 ∧
      (st.keyAllowed = true → HasKeyAt ks.length r.2)) (token.run st) := by
  cases h.level
  have htoken : token.run st =
      (maybeKey fun c => (quoted c).map fun r => (.scalar r.1 false, r.2)).run st := by
    show (tokenAt _ st.cursor).run st = _
    rw [tokenAt, Cursor.peek_of_rest hc]
    rfl
  obtain ⟨keys, hrun, hkeys, hkey⟩ := saveKey_run h.toFlat
  have hread := quoted_leads hc hquoted
  rw [htoken, maybeKey, StateT.run_bind, hrun]
  show UnlessMalformed _ ((do
    let r ← ((quoted st.cursor).map fun r => (TokenKind.scalar r.1 false, r.2) :
      Except Fault (TokenKind × Cursor))
    emitTo r.1 r.2 : Scan Unit).run _)
  cases hr : quoted st.cursor with
  | error f =>
    rw [hr] at hread
    exact hread
  | ok r =>
    obtain ⟨text, c⟩ := r
    rw [hr] at hread
    obtain ⟨rfl, hrest⟩ := hread
    have hkind : TokenKind.scalar (String.ofList cs) false ≠ .streamEnd := TokenKind.noConfusion
    refine ⟨hrest ▸ h.push hkind hkeys _ c false st.cursor.line c.line, fun hallowed => ?_⟩
    rw [← h.length]
    exact hkey hallowed

def wordStarts : List Char :=
  ['0', '1', '2', '3', '4', '5', '6', '7', '8', '9', 'n', 't', 'f']

def StartsWord (s : List Char) : Prop :=
  ∃ x t, s = x :: t ∧ (x ∈ wordStarts ∨
    x = '-' ∧ ∃ y u, t = y :: u ∧ isPlainChar y = true ∧ y ≠ '-')

theorem tokenAt_of_startsWord {c : Cursor} (h : StartsWord c.rest) :
    tokenAt true c = plainScalar := by
  obtain ⟨x, t, hc, hx⟩ := h
  have hpeek := Cursor.peek_of_rest hc
  rcases hx with hx | ⟨rfl, y, u, rfl, hy, -⟩
  · have hstart : canStartPlain true c = true := by
      rw [canStartPlain, hpeek]
      have : ∀ x ∈ wordStarts, (!(isBlankOrEnd x ||
          "-?:,[]\x7b\x7d#&*!|>'\"%@\x60".toList.contains x)) = true :=
        List.all_eq_true.mp (by decide)
      rw [this x hx]
      rfl
    rw [tokenAt, hpeek, hstart]
    simp only [wordStarts, List.mem_cons, List.not_mem_nil, or_false] at hx
    rcases hx with rfl | rfl | rfl | rfl | rfl | rfl | rfl | rfl | rfl | rfl | rfl | rfl | rfl <;> rfl
  · have hnext : isBlankOrEnd (c.peekAt 1) = false := by
      have : c.peekAt 1 = y := by rw [Cursor.peekAt, hc]; rfl
      rw [this]
      simp only [isPlainChar, Bool.and_eq_true, Bool.not_eq_true'] at hy
      exact hy.1.1.1.1
    have hstart : canStartPlain true c = true := by
      rw [canStartPlain, hpeek, hnext]
      rfl
    rw [tokenAt, hpeek, hstart, hnext]
    rfl

theorem word_run (h : At level ks s st) (hlevel : level ≠ 0) {w rest : List Char}
    (hw : ∀ x ∈ w, isPlainChar x = true) (hstart : StartsWord (w ++ rest))
    (hne : w ≠ []) (hrest : Follows rest) (hc : st.cursor.rest = w ++ rest) :
    ∃ st', token.run st = .ok ((), st') ∧
      At level (ks ++ [.scalar (String.ofList w) true]) (skipSpace rest) st' := by
  cases h.level
  have hflow : (st.flowLevel != 0) = true := bne_iff_ne.mpr hlevel
  have htoken : token.run st = plainScalar.run st := by
    show (tokenAt _ st.cursor).run st = _
    rw [hflow, tokenAt_of_startsWord (hc ▸ hstart)]
  obtain ⟨keys, hrun, hkeys, hkey⟩ := saveKey_run h.toFlat
  obtain ⟨htext, hafter⟩ := plain_eq st.indent hw hne hrest hc
  have hkind : TokenKind.scalar (String.ofList w) true ≠ .streamEnd := nofun
  refine ⟨_, ?_, hafter ▸ h.push hkind hkeys _ (plain true st.indent st.cursor).cursor
    (plain true st.indent st.cursor).broken st.cursor.line
    (plain true st.indent st.cursor).endLine⟩
  rw [htoken, plainScalar, StateT.run_bind, hrun]
  show (do
    allowKey (plain (st.flowLevel != 0) st.indent st.cursor).broken
    emit ⟨.scalar (String.ofList (plain (st.flowLevel != 0) st.indent st.cursor).text) true,
      st.cursor.line, (plain (st.flowLevel != 0) st.indent st.cursor).endLine⟩
    moveTo (plain (st.flowLevel != 0) st.indent st.cursor).cursor : Scan Unit).run _ = _
  rw [hflow, htext]
  rfl

theorem insertAt_run (h : At level (ks ++ [k]) s st) (kind : TokenKind) (i j : Nat) :
    ∃ tokens, (insertAt ks.length ⟨kind, i, j⟩).run st = .ok ((), { st with tokens := tokens }) ∧
      tokens.reverse.map (·.kind) = ks ++ [kind, k] := by
  have hlength : st.tokens.length - ks.length = 1 := by
    rw [h.length, List.length_append, List.length_singleton]
    omega
  have hkinds := h.kinds
  refine ⟨st.tokens.take 1 ++ ⟨kind, i, j⟩ :: st.tokens.drop 1, ?_, ?_⟩
  · rw [← hlength]
    rfl
  · rw [Scanner.kinds] at hkinds
    cases htokens : st.tokens with
    | nil => simp [htokens] at hkinds
    | cons t ts =>
      rw [htokens, List.reverse_cons, List.map_append] at hkinds
      obtain ⟨hts, ht⟩ := List.append_inj' hkinds rfl
      simp only [List.map_cons, List.map_nil, List.cons.injEq, and_true] at ht
      simp [hts, ht]

theorem keyHere_run : keyHere.run st =
    .ok ((st.keys.partition (·.1 == st.flowLevel)).1.head?.map (·.2),
      { st with keys := (st.keys.partition (·.1 == st.flowLevel)).2 }) := rfl

theorem startEntry_run (hflow : (st.flowLevel != 0) = true) (kind : TokenKind) :
    (startEntry kind).run st = .ok ((), st) := by
  rw [startEntry, inFlow]
  simp only [StateT.run_bind, StateT.run_get, pure_bind, StateT.run_pure, hflow]
  rfl

theorem announceKey_run (hflow : (st.flowLevel != 0) = true) (p : KeyPlace) :
    (announceKey p).run st = (insertAt p.number ⟨.key, p.line, p.line⟩).run st := by
  rw [announceKey, insertAt, inFlow]
  simp only [StateT.run_bind, StateT.run_get, pure_bind, StateT.run_pure, StateT.run_modify, hflow]
  rfl

theorem beforeValue_run (h : At level (ks ++ [k]) s st) (hlevel : level ≠ 0) (place : Option KeyPlace)
    (hplace : ∀ p ∈ place, p.number = ks.length) :
    ∃ st' sign, (beforeValue place).run st = .ok ((), st') ∧ (sign = [] ∨ sign = [.key]) ∧
      At level (ks ++ (sign ++ [k])) s st' ∧ st'.cursor = st.cursor := by
  cases h.level
  have hflow : (st.flowLevel != 0) = true := bne_iff_ne.mpr hlevel
  cases place with
  | none =>
    have hst := h.setKeys h.optional false
    refine ⟨_, [], ?_, Or.inl rfl,
      hst.setKeys (fun k hk => hst.optional k (mem_of_mem_others hk).1) false, rfl⟩
    rw [beforeValue, StateT.run_bind, startEntry_run hflow]
    show dropKey.run { st with keyAllowed := !(st.flowLevel != 0) } = _
    rw [hflow]
    exact dropKey_run hst.toFlat
  | some p =>
    -- the text is the last token, so the sign of the key goes right before it
    obtain ⟨tokens, hrun, hkinds⟩ := insertAt_run h .key p.line p.line
    have hopen : .streamEnd ∉ ks ++ [.key, k] := by
      have := h.isOpen
      simp_all
    have hst : At st.flowLevel (ks ++ [.key, k]) s { st with tokens := tokens } :=
      { h with kinds := hkinds, isOpen := hopen }
    refine ⟨_, [.key], ?_, Or.inr rfl, hst.setKeys h.optional false, rfl⟩
    rw [beforeValue, StateT.run_bind, announceKey_run hflow, hplace p rfl, hrun]
    rfl

/-- A colon makes the text before it a key, unless this is too far away. -/
theorem colon_run (h : At level (ks ++ [k]) s st) (hlevel : level ≠ 0)
    (hkey : HasKeyAt ks.length st) (hc : st.cursor.rest = ':' :: t) :
    ∃ st' sign, token.run st = .ok ((), st') ∧ (sign = [] ∨ sign = [.key]) ∧
      At level (ks ++ (sign ++ [k, .value])) (skipSpace t) st' := by
  cases h.level
  have hflow : (st.flowLevel != 0) = true := bne_iff_ne.mpr hlevel
  have htoken : token.run st = value.run st := by
    show (tokenAt _ st.cursor).run st = _
    rw [hflow, tokenAt, Cursor.peek_of_rest hc]
    rfl
  have hothers : ∀ k ∈ (st.keys.partition (·.1 == st.flowLevel)).2, k.2.required = false :=
    fun k hk => h.optional k (mem_of_mem_others hk).1
  have hplace : ∀ p ∈ (st.keys.partition (·.1 == st.flowLevel)).1.head?.map (·.2),
      p.number = ks.length := by
    intro p hp
    obtain ⟨place, hmem, rfl⟩ := Option.map_eq_some_iff.mp hp
    have hmem := List.mem_of_head? hmem
    rw [List.partition_eq_filter_filter, List.mem_filter, beq_iff_eq] at hmem
    exact hkey place hmem.1 hmem.2
  obtain ⟨st', sign, hrun, hsign, hst', hcursor⟩ :=
    beforeValue_run (h.setKeys hothers st.keyAllowed) hlevel _ hplace
  have hvalue : TokenKind.value ≠ .streamEnd := nofun
  have hrest : st'.cursor.next.rest = t := by rw [hcursor, Cursor.rest_next, hc]; rfl
  have hpush := hst'.push hvalue hst'.optional st.flowLevel st'.cursor.next st'.keyAllowed
    st'.cursor.line st'.cursor.next.line
  rw [hrest, List.append_assoc, List.append_assoc] at hpush
  refine ⟨_, sign, ?_, hsign, hpush⟩
  rw [htoken, value, StateT.run_bind, keyHere_run]
  show ((beforeValue _).run _ >>= _) = _
  rw [hrun, ← hst'.level]
  rfl

end Scan
end BlockAudit.Yaml
