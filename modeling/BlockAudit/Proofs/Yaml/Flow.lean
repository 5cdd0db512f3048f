import BlockAudit.Proofs.Yaml.Spelling
import BlockAudit.Proofs.Yaml.Steps

namespace BlockAudit.Yaml.Scan

open Json Scanner

variable {st : Scanner} {level : Nat} {k : TokenKind} {ks : List TokenKind} {s t rest : List Char}
  {x : Char} {P Q : Scanner → Prop}

theorem reaches_of_token (h : At level ks s st) (hs : Opens s) (htoken : ∀ st', At level ks s st' →
      st'.cursor.rest = s → Later st st' → UnlessMalformed (fun r => Q r.2) (token.run st')) :
    Reaches Q st := by
  refine Reaches.step (h.kinds ▸ h.isOpen) ((step_leads h hs htoken).mono ?_)
  exact fun r hr => ⟨hr.1, .refl hr.2⟩

theorem reaches_of_run (h : At level ks s st) (hs : Opens s) (htoken : ∀ st', At level ks s st' →
      st'.cursor.rest = s → Later st st' → ∃ st'', token.run st' = .ok ((), st'') ∧ Q st'') :
    Reaches Q st := by
  refine reaches_of_token h hs fun st' hst' hrest hlater => ?_
  obtain ⟨st'', hrun, hst''⟩ := htoken st' hst' hrest hlater
  rw [hrun]
  exact hst''

theorem token_run (hrest : st.cursor.rest = x :: t) :
    ∃ c, c.peek = x ∧ token.run st = (tokenAt (st.flowLevel != 0) c).run st :=
  ⟨st.cursor, Cursor.peek_of_rest hrest, rfl⟩

inductive Opening : Char → TokenKind → Prop
  | list : Opening '[' .flowSequenceStart
  | map : Opening '\x7b' .flowMappingStart

inductive Closing : Char → TokenKind → Prop
  | list : Closing ']' .flowSequenceEnd
  | map : Closing '\x7d' .flowMappingEnd

theorem Closing.isWordEnd (h : Closing x k) : isWordEnd x = true := by
  cases h <;> rfl

theorem reaches_open (hx : Opening x k) (h : At level ks (x :: t) st) :
    Reaches (fun st' => At (level + 1) (ks ++ [k]) (skipSpace t) st' ∧ st'.keyAllowed = true) st := by
  have hopens : Opens (x :: t) := Or.inl ⟨x, t, rfl, by cases hx <;> decide⟩
  refine reaches_of_run h hopens fun st' hst' hrest _ => ?_
  have htoken : token.run st' = (openFlow k).run st' := by
    obtain ⟨c, hc, hrun⟩ := token_run hrest
    rw [hrun, tokenAt, hc]
    cases hx <;> rfl
  have hk : k ≠ .streamEnd := by cases hx <;> decide
  obtain ⟨st'', hrun, hallowed, hst''⟩ := openFlow_run hst' hk
  rw [hrest] at hst''
  exact ⟨st'', htoken.trans hrun, hst'', hallowed⟩

theorem reaches_close (hx : Closing x k) (h : At (level + 1) ks (x :: t) st) :
    Reaches (At level (ks ++ [k]) (skipSpace t)) st := by
  have hopens : Opens (x :: t) := Or.inl ⟨x, t, rfl, by cases hx <;> decide⟩
  refine reaches_of_run h hopens fun st' hst' hrest _ => ?_
  have htoken : token.run st' = (closeFlow k).run st' := by
    obtain ⟨c, hc, hrun⟩ := token_run hrest
    rw [hrun, tokenAt, hc]
    cases hx <;> rfl
  have hk : k ≠ .streamEnd := by cases hx <;> decide
  obtain ⟨st'', hrun, hst''⟩ := closeFlow_run hst' hk
  rw [hrest] at hst''
  exact ⟨st'', htoken.trans hrun, hst''⟩

theorem reaches_comma (h : At level ks (',' :: t) st) :
    Reaches (fun st' => At level (ks ++ [.flowEntry]) (skipSpace t) st' ∧ st'.keyAllowed = true) st := by
  refine reaches_of_run h (Or.inl ⟨_, t, rfl, by decide⟩) fun st' hst' hrest _ => ?_
  have htoken : token.run st' = flowEntry.run st' := by
    obtain ⟨c, hc, hrun⟩ := token_run hrest
    rw [hrun, tokenAt, hc]
    rfl
  obtain ⟨st'', hrun, hallowed, hst''⟩ := flowEntry_run hst'
  rw [hrest] at hst''
  exact ⟨st'', htoken.trans hrun, hst'', hallowed⟩

theorem reaches_text (h : At level ks ('"' :: t) st) {cs : List Char} (hquoted : Quoted t cs rest) :
    Reaches (At level (ks ++ [.scalar (String.ofList cs) false]) (skipSpace rest)) st := by
  refine reaches_of_token h (Or.inl ⟨_, t, rfl, by decide⟩) fun st' hst' hrest _ => ?_
  exact (text_leads hst' hrest hquoted).mono fun r hr => hr.1

theorem reaches_key (h : At (level + 1) ks ('"' :: t) st) (hallowed : st.keyAllowed = true)
    {cs : List Char} (hquoted : Quoted t cs rest) :
    Reaches (fun st' => At (level + 1) (ks ++ [.scalar (String.ofList cs) false]) (skipSpace rest) st' ∧
      HasKeyAt ks.length st') st := by
  refine reaches_of_token h (Or.inl ⟨_, t, rfl, by decide⟩) fun st' hst' hrest hlater => ?_
  have hflow : st.flowLevel ≠ 0 := h.level ▸ Nat.succ_ne_zero level
  refine (text_leads hst' hrest hquoted).mono fun r hr => ⟨hr.1, hr.2 ?_⟩
  rw [hlater.allowed hflow, hallowed]

theorem reaches_word (h : At level ks s st) (hlevel : level ≠ 0) {w : List Char} (hs : s = w ++ rest)
    (hw : ∀ x ∈ w, isPlainChar x = true) (hne : w ≠ []) (hstart : StartsWord s)
    (hrest : Follows rest) :
    Reaches (At level (ks ++ [.scalar (String.ofList w) true]) (skipSpace rest)) st := by
  refine reaches_of_run h (Or.inr hstart) fun st' hst' hcursor _ => ?_
  exact word_run hst' hlevel hw (hs ▸ hstart) hne hrest (hcursor.trans hs)

theorem reaches_colon (h : At (level + 1) (ks ++ [k]) (':' :: t) st) (hkey : HasKeyAt ks.length st) :
    Reaches (fun st' => ∃ sign, (sign = [] ∨ sign = [.key]) ∧
      At (level + 1) (ks ++ (sign ++ [k, .value])) (skipSpace t) st') st := by
  refine reaches_of_run h (Or.inl ⟨_, t, rfl, by decide⟩) fun st' hst' hrest hlater => ?_
  have hkey' : HasKeyAt ks.length st' := by
    intro k hk hlevel
    rw [hst'.level, ← h.level] at hlevel
    exact hkey k (hlater.keys k hk) hlevel
  obtain ⟨st'', sign, hrun, hsign, hst''⟩ := colon_run hst' (Nat.succ_ne_zero level) hkey' hrest
  exact ⟨st'', hrun, sign, hsign, hst''⟩

theorem startsWord_signed (negative : Bool) {digits : List Char} (h : IsWhole digits) (s : List Char) :
    StartsWord (signOf negative ++ digits ++ s) := by
  obtain ⟨c, t, hs, hc⟩ := h.exists_append s
  have hchars : ∀ c ∈ "0123456789".toList, c ∈ wordStarts ∧ isPlainChar c = true ∧ c ≠ '-' :=
    List.all_iff_forall_prop.mp (by decide)
  obtain ⟨hstart, hplain, hhyphen⟩ := hchars c (mem_of_isDigit hc)
  rw [List.append_assoc, hs]
  cases negative with
  | false => exact ⟨c, t, rfl, Or.inl hstart⟩
  | true => exact ⟨'-', c :: t, rfl, Or.inr ⟨rfl, c, t, rfl, hplain, hhyphen⟩⟩

theorem startsWord_of_word {w : List Char} {v : Value} (h : Word w v) (s : List Char) :
    StartsWord (w ++ s) := by
  cases h with
  | null => exact ⟨'n', _, rfl, Or.inl (by decide)⟩
  | truth => exact ⟨'t', _, rfl, Or.inl (by decide)⟩
  | untruth => exact ⟨'f', _, rfl, Or.inl (by decide)⟩
  | int hdigits => exact startsWord_signed _ hdigits s
  | float hdigits =>
    rw [List.append_assoc, List.append_assoc, List.append_assoc, ← List.append_assoc (signOf _)]
    exact startsWord_signed _ hdigits _

theorem word_ne_nil {w : List Char} {v : Value} (h : Word w v) : w ≠ [] := by
  rintro rfl
  obtain ⟨x, t, hx, -⟩ := startsWord_of_word h []
  cases hx

theorem portableOutside_cons (hx : isWordEnd x = true) :
    portableOutside [] (x :: s) = portableOutside [] s := by
  have hquote : x ≠ '"' := by
    rintro rfl
    cases hx
  rw [portableOutside, if_pos hx, portableOutside_nil_word, Bool.true_and]
  exact hquote

theorem portableOutside_skipSpace (s : List Char) :
    portableOutside [] (skipSpace s) = portableOutside [] s := by
  induction s with
  | nil => rfl
  | cons x s ih =>
    cases hx : isSpace x with
    | true =>
      rw [skipSpace_cons_of_isSpace hx, ih, portableOutside_cons]
      rw [isWordEnd, hx, Bool.true_or]
    | false => rw [skipSpace_cons_eq_self hx]

theorem Follows.endsWord (h : Follows s) : EndsWord s := by
  obtain ⟨x, t, hs, hx⟩ := h
  rcases skipSpace_cases s with hself | ⟨y, u, rfl, hy⟩
  · rw [← hself, hs, EndsWord]
    rintro c ⟨⟩
    rcases hx with rfl | rfl | rfl <;> rfl
  · rw [EndsWord]
    rintro c ⟨⟩
    rw [isWordEnd, hy, Bool.true_or]

/-- Where a value can stand: only the root is out of brackets, and it is a mapping. -/
def Fits (level : Nat) (s rest : List Char) : Prop :=
  (∃ t, s = '\x7b' :: t) ∨ (level ≠ 0 ∧ Follows rest)

/-- From the start of a text to its rest, tokens are read that `P` holds of. -/
def Passes (P : List TokenKind → Prop) (level : Nat) (ks : List TokenKind) (rest : List Char) :
    Scanner → Prop :=
  Reaches fun st => portableOutside [] rest = true ∧
    ∃ ls, P ls ∧ At level (ks ++ ls) (skipSpace rest) st

def ReadsValues (n : Nat) : Prop :=
  ∀ {s rest v level ks st}, value? n s = some (v, rest) → portableOutside [] s = true →
    Fits level s rest → At level ks s st → Passes (Spells v) level ks rest st

def ReadsItems (n : Nat) : Prop :=
  ∀ {s rest vs level ks st}, items? n s = some (vs, rest) → portableOutside [] s = true →
    At (level + 1) ks s st → Passes (SpellsItems vs) level ks rest st

def ReadsEntries (n : Nat) : Prop :=
  ∀ {s rest es level ks st}, entries? n s = some (es, rest) → portableOutside [] s = true →
    At (level + 1) ks s st → st.keyAllowed = true → Passes (SpellsEntries es) level ks rest st

theorem portableOutside_of_skipSpace (h : portableOutside [] s = true) (hs : skipSpace s = x :: t)
    (hx : isWordEnd x = true) : portableOutside [] (skipSpace t) = true := by
  rwa [← portableOutside_skipSpace, hs, portableOutside_cons hx, ← portableOutside_skipSpace] at h

theorem Passes.close {P : List TokenKind → Prop} {u : List Char}
    (hx : Closing x k) (hu : skipSpace u = x :: t) (h : Passes P (level + 1) ks u st) :
    Passes (fun ls => ∃ ms, P ms ∧ ls = ms ++ [k]) level ks t st := by
  refine Reaches.trans h ?_
  rintro st' ⟨hrest, ms, hms, hst'⟩
  have hrest := portableOutside_of_skipSpace hrest hu hx.isWordEnd
  rw [portableOutside_skipSpace] at hrest
  rw [hu] at hst'
  refine (reaches_close hx hst').trans fun st'' hst'' => .refl ⟨hrest, _, ⟨ms, hms, rfl⟩, ?_⟩
  rwa [List.append_assoc] at hst''

theorem Passes.comma {P Q : List TokenKind → Prop} {u : List Char} {level' : Nat}
    (hu : skipSpace u = ',' :: t) (h : Passes P level ks u st)
    (hmore : ∀ {ls st}, portableOutside [] (skipSpace t) = true → At level ls (skipSpace t) st →
      st.keyAllowed = true → Passes Q level' ls rest st) :
    Passes (fun ls => ∃ ms ms', P ms ∧ Q ms' ∧ ls = ms ++ .flowEntry :: ms') level' ks rest st := by
  refine Reaches.trans h ?_
  rintro st' ⟨hrest, ms, hms, hst'⟩
  have hrest := portableOutside_of_skipSpace hrest hu rfl
  rw [hu] at hst'
  refine (reaches_comma hst').trans ?_
  rintro st'' ⟨hst'', hallowed⟩
  refine (hmore hrest hst'' hallowed).trans ?_
  rintro last ⟨hr, ms', hms', hlast⟩
  refine .refl ⟨hr, _, ⟨ms, ms', hms, hms', rfl⟩, ?_⟩
  simpa using hlast

theorem Passes.mono {P Q : List TokenKind → Prop} (h : Passes P level ks rest st)
    (hPQ : ∀ ls, P ls → Q ls) : Passes Q level ks rest st := by
  refine Reaches.trans h ?_
  rintro st' ⟨hr, ls, hls, hst'⟩
  exact .refl ⟨hr, ls, hPQ ls hls, hst'⟩

theorem readsItems_succ {n : Nat} (hvalues : ReadsValues n) (hitems : ReadsItems n) :
    ReadsItems (n + 1) := by
  intro s rest vs level ks st h hportable hst
  rw [items?] at h
  obtain ⟨⟨v, u⟩, hv, h⟩ := Option.bind_eq_some_iff.mp h
  dsimp only at h
  have hvalue : Follows u → Passes (Spells v) (level + 1) ks u st :=
    fun hu => hvalues hv hportable (Or.inr ⟨Nat.succ_ne_zero level, hu⟩) hst
  split at h
  · next r hu =>
    cases h
    refine ((hvalue ⟨_, _, hu, by simp⟩).close .list hu).mono ?_
    rintro _ ⟨ls, hls, rfl⟩
    exact .last hls
  · next t hu =>
    obtain ⟨⟨ws, r⟩, hws, h⟩ := Option.bind_eq_some_iff.mp h
    cases h
    refine ((hvalue ⟨_, _, hu, by simp⟩).comma hu fun hrest hst' _ => hitems hws hrest hst').mono ?_
    rintro _ ⟨ls, ls', hls, hls', rfl⟩
    exact .cons hls hls'
  · cases h

theorem reads_entry {n : Nat} (hvalues : ReadsValues n) {cs u u' w : List Char} {v : Value}
    (hst : At (level + 1) ks ('"' :: t) st) (hallowed : st.keyAllowed = true)
    (hquoted : Quoted t cs u) (hu : portableOutside [] u = true) (hcolon : skipSpace u = ':' :: u')
    (hv : value? n (skipSpace u') = some (v, w)) (hw : Follows w) :
    Passes (fun ls => ∃ sign vs, (sign = [] ∨ sign = [.key]) ∧ Spells v vs ∧
      ls = sign ++ .scalar (String.ofList cs) false :: .value :: vs) (level + 1) ks w st := by
  refine (reaches_key hst hallowed hquoted).trans ?_
  rintro st' ⟨hst', hhas⟩
  rw [hcolon] at hst'
  refine (reaches_colon hst' hhas).trans ?_
  rintro st'' ⟨sign, hsign, hst''⟩
  refine (hvalues hv (portableOutside_of_skipSpace hu hcolon rfl)
    (Or.inr ⟨Nat.succ_ne_zero level, hw⟩) hst'').trans ?_
  rintro last ⟨hr, ls, hls, hlast⟩
  refine .refl ⟨hr, _, ⟨sign, ls, hsign, hls, rfl⟩, ?_⟩
  simpa using hlast

theorem readsEntries_succ {n : Nat} (hvalues : ReadsValues n) (hentries : ReadsEntries n) :
    ReadsEntries (n + 1) := by
  intro s rest es level ks st h hportable hst hallowed
  rw [entries?.eq_def] at h
  dsimp only at h
  split at h
  · next t =>
    obtain ⟨⟨key, u⟩, hkey, h⟩ := Option.bind_eq_some_iff.mp h
    obtain ⟨cs, hcs, hquoted, hu⟩ := quoted_of_string? hkey hportable (Or.inl rfl)
    obtain rfl : key = cs := hcs
    dsimp only at h
    split at h
    · next u' hcolon =>
      obtain ⟨⟨v, w⟩, hv, h⟩ := Option.bind_eq_some_iff.mp h
      dsimp only at h
      have hentry := reads_entry hvalues hst hallowed hquoted hu hcolon hv
      split at h
      · next r hw =>
        cases h
        refine ((hentry ⟨_, _, hw, by simp⟩).close .map hw).mono ?_
        rintro _ ⟨_, ⟨sign, ls, hsign, hls, rfl⟩, rfl⟩
        simpa using SpellsEntries.last hsign hls
      · next t' hw =>
        obtain ⟨⟨ds, r⟩, hds, h⟩ := Option.bind_eq_some_iff.mp h
        cases h
        refine ((hentry ⟨_, _, hw, by simp⟩).comma hw fun hrest hst' hallowed' =>
          hentries hds hrest hst' hallowed').mono ?_
        rintro _ ⟨_, ls', ⟨sign, ls, hsign, hls, rfl⟩, hls', rfl⟩
        simpa using SpellsEntries.cons hsign hls hls'
      · cases h
    · cases h
  · cases h

theorem reads_collection {P : List TokenKind → Prop} {v : Value}
    (hx : Opening x k) (hst : At level ks (x :: t) st)
    (h : ∀ {ls st}, At (level + 1) ls (skipSpace t) st → st.keyAllowed = true →
      Passes P level ls rest st) (hP : ∀ ls, P ls → Spells v (k :: ls)) :
    Passes (Spells v) level ks rest st := by
  refine (reaches_open hx hst).trans ?_
  rintro st' ⟨hst', hallowed⟩
  refine (h hst' hallowed).trans ?_
  rintro last ⟨hr, ls, hls, hlast⟩
  refine .refl ⟨hr, _, hP ls hls, ?_⟩
  simpa using hlast

theorem reads_nothing (hx : Closing x k) (hst : At (level + 1) ks (x :: rest) st)
    (hportable : portableOutside [] (x :: rest) = true) :
    Passes (· = [k]) level ks rest st := by
  have hrest : portableOutside [] rest = true := by
    rwa [portableOutside_cons hx.isWordEnd] at hportable
  exact (reaches_close hx hst).trans fun st' hst' => .refl ⟨hrest, _, rfl, hst'⟩

theorem readsValues_succ {n : Nat} (hitems : ReadsItems n) (hentries : ReadsEntries n) :
    ReadsValues (n + 1) := by
  intro s rest v level ks st h hportable hfits hst
  rw [value?.eq_def] at h
  dsimp only at h
  split at h
  · next t =>
    obtain ⟨⟨cs, r⟩, hcs, heq⟩ := Option.map_eq_some_iff.mp h
    cases heq
    obtain ⟨_, rfl, hquoted, hr⟩ := quoted_of_string? hcs hportable (Or.inl rfl)
    exact (reaches_text hst hquoted).trans fun st' hst' => .refl ⟨hr, _, .text, hst'⟩
  · next t =>
    have ht : portableOutside [] (skipSpace t) = true := by
      rwa [portableOutside_skipSpace, ← portableOutside_cons (x := '[') rfl]
    split at h
    · next r hempty =>
      cases h
      exact reads_collection .list hst
        (fun hst' _ => reads_nothing .list (hempty ▸ hst') (hempty ▸ ht))
        fun ls hls => hls ▸ .noItems
    · obtain ⟨⟨vs, r⟩, hvs, heq⟩ := Option.map_eq_some_iff.mp h
      cases heq
      exact reads_collection .list hst (fun hst' _ => hitems hvs ht hst')
        fun ls hls => .list hls
  · next t =>
    have ht : portableOutside [] (skipSpace t) = true := by
      rwa [portableOutside_skipSpace, ← portableOutside_cons (x := '\x7b') rfl]
    split at h
    · next r hempty =>
      cases h
      exact reads_collection .map hst
        (fun hst' _ => reads_nothing .map (hempty ▸ hst') (hempty ▸ ht))
        fun ls hls => hls ▸ .noEntries
    · obtain ⟨⟨es, r⟩, hes, heq⟩ := Option.map_eq_some_iff.mp h
      cases heq
      exact reads_collection .map hst
        (fun hst' hallowed => hentries hes ht hst' hallowed) fun ls hls => .map hls
  · next hmap =>
    -- a word is only read up to a bracket or a comma within brackets
    obtain ⟨hlevel, hfollows⟩ : level ≠ 0 ∧ Follows rest := by
      rcases hfits with ⟨t, rfl⟩ | hfits
      · exact absurd rfl (hmap t)
      · exact hfits
    obtain ⟨w, rfl, hw, hword, hrest⟩ := scalar?_eq h hfollows.endsWord hportable
    refine (reaches_word hst hlevel rfl (isPlainChar_of_isPortableWord hword) (word_ne_nil hw)
      (startsWord_of_word hw rest) hfollows).trans fun st' hst' => .refl ⟨hrest, _, ?_, hst'⟩
    exact .word (value?_of_word hw hword)

theorem reads (n : Nat) : ReadsValues n ∧ ReadsItems n ∧ ReadsEntries n := by
  -- on the fuel of the JSON reader; that of the scanner is part of `Reaches`
  induction n with
  | zero => exact ⟨nofun, nofun, nofun⟩
  | succ n ih =>
    obtain ⟨hvalues, hitems, hentries⟩ := ih
    exact ⟨readsValues_succ hitems hentries, readsItems_succ hvalues hitems,
      readsEntries_succ hvalues hentries⟩

theorem ne_map_of_word {w : List Char} {v : Value} (h : Word w v) (es : List Entry) : v ≠ .map es := by
  cases h <;> nofun

theorem not_map_of_scalar? {es : List Entry} : scalar? s ≠ some (.map es, rest) := by
  intro h
  have hnumber : ∀ {negative t}, number? negative t ≠ some (.map es, rest) := by
    intro negative t h
    obtain ⟨w, -, -, hw⟩ := number?_eq h
    exact ne_map_of_word hw es rfl
  unfold scalar? at h
  split at h <;> try exact hnumber h
  all_goals
    obtain ⟨r, -, heq⟩ := Option.map_eq_some_iff.mp h
    cases heq

theorem exists_brace_of_map {n : Nat} {es : List Entry} (h : value? n s = some (.map es, rest)) :
    ∃ t, s = '\x7b' :: t := by
  cases n with
  | zero => cases h
  | succ n =>
    rw [value?.eq_def] at h
    dsimp only at h
    split at h
    · obtain ⟨r, -, heq⟩ := Option.map_eq_some_iff.mp h
      cases heq
    · split at h
      · cases h
      · obtain ⟨r, -, heq⟩ := Option.map_eq_some_iff.mp h
        cases heq
    · exact ⟨_, rfl⟩
    · exact absurd h not_map_of_scalar?

end BlockAudit.Yaml.Scan

namespace BlockAudit.Yaml

open Json Yaml.Scan Scanner

theorem run_end {st : Scanner} {ks : List TokenKind} (h : At 0 ks [] st) (n : Nat) :
    (st.run n).IsBroken ∨
      (st.run n).fault = none ∧ (st.run n).list.map (·.kind) = ks ++ [.streamEnd] := by
  have hopen : .streamEnd ∉ st.kinds := h.kinds ▸ h.isOpen
  have hopen := not_mem_certain hopen
  cases n with
  | zero => exact Or.inl ⟨rfl, hopen⟩
  | succ n =>
    have hend := step_end h
    rw [run]
    cases hstep : step.run st with
    | error f =>
      rw [hstep] at hend
      exact Or.inl ⟨congrArg some hend, hopen⟩
    | ok r =>
      obtain ⟨ended, st'⟩ := r
      rw [hstep] at hend
      obtain ⟨rfl, hkinds⟩ := hend
      exact Or.inr ⟨rfl, hkinds⟩

/-- The tokens of a mapping in JSON spell it, if they are not cut off. -/
theorem tokensOf_spells {s : List Char} {es : List Entry} (h : Json.read? s = some (.map es))
    (hportable : isPortable s = true) : (tokensOf s).IsBroken ∨ (tokensOf s).fault = none ∧
      ∃ ks, Spells (.map es) ks ∧ (tokensOf s).list.map (·.kind) = ks ++ [.streamEnd] := by
  unfold Json.read? at h
  split at h
  · next v rest hv =>
    split at h
    · next hrest =>
      cases h
      have hstart : At 0 [] (skipSpace s) (.start s) :=
        ⟨⟨rfl, rfl, nofun⟩, rfl, rfl, nofun, rfl⟩
      have hpass := (reads _).1 hv ((portableOutside_skipSpace s).trans hportable)
        (Or.inl (exists_brace_of_map hv)) hstart
      rcases hpass (s.length + 2) with hbroken | ⟨n, st, hrun, -, ks, hks, hst⟩
      · exact Or.inl hbroken
      · rw [tokensOf, hrun]
        rw [List.isEmpty_iff.mp hrest] at hst
        exact (run_end hst n).imp_right fun ⟨hfault, hkinds⟩ => ⟨hfault, ks, hks, hkinds⟩
    · cases h
  · cases h

end BlockAudit.Yaml
