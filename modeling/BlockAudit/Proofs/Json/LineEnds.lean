import BlockAudit.Proofs.Json.Word
import BlockAudit.Text.Search

namespace BlockAudit.Json

open Text

variable {s t w rest : List Char} {p : Char → Bool}

theorem unifyLineEnds_cons {x : Char} (hx : x ≠ '\r') :
    unifyLineEnds (x :: s) = x :: unifyLineEnds s := by
  rw [unifyLineEnds, if_neg hx]
  rintro u rfl
  exact absurd rfl hx

theorem unifyLineEnds_append (hw : '\r' ∉ w) (s : List Char) :
    unifyLineEnds (w ++ s) = w ++ unifyLineEnds s := by
  induction w with
  | nil => rfl
  | cons x w ih =>
    rw [List.mem_cons, not_or] at hw
    rw [List.cons_append, unifyLineEnds_cons (Ne.symm hw.1), ih hw.2, List.cons_append]

theorem unifyLineEnds_cr (s : List Char) :
    ∃ t, unifyLineEnds ('\r' :: s) = '\n' :: t := by
  cases s with
  | nil => exact ⟨[], rfl⟩
  | cons x s =>
    by_cases hx : x = '\n'
    · subst hx
      exact ⟨_, rfl⟩
    · refine ⟨unifyLineEnds (x :: s), ?_⟩
      rw [unifyLineEnds, if_pos rfl]
      rintro u - ⟨⟩
      exact hx rfl

theorem dropWhile_unifyLineEnds (hp : p '\r' = p '\n') (s : List Char) :
    (unifyLineEnds s).dropWhile p = unifyLineEnds (s.dropWhile p) := by
  fun_induction unifyLineEnds s with
  | case1 => rfl
  | case2 s ih =>
    rw [List.dropWhile_cons, List.dropWhile_cons, List.dropWhile_cons, hp, ih]
    cases p '\n' <;> rfl
  | case3 c s hpair ih =>
    have hself : (if c = '\r' then '\n' else c) :: unifyLineEnds s = unifyLineEnds (c :: s) := by
      rw [unifyLineEnds]
      exact hpair
    have hkeeps : p (if c = '\r' then '\n' else c) = p c := by
      split
      · next hc => rw [hc, hp]
      · rfl
    rw [List.dropWhile_cons, List.dropWhile_cons, hkeeps, ih, hself]
    split <;> rfl

theorem takeWhile_unifyLineEnds (hr : p '\r' = false) (hn : p '\n' = false) (s : List Char) :
    (unifyLineEnds s).takeWhile p = s.takeWhile p := by
  induction s with
  | nil => rfl
  | cons x s ih =>
    by_cases hx : x = '\r'
    · obtain ⟨t, ht⟩ := unifyLineEnds_cr s
      rw [hx, ht, List.takeWhile_cons, List.takeWhile_cons, hr, hn]
      rfl
    · rw [unifyLineEnds_cons hx, List.takeWhile_cons, List.takeWhile_cons, ih]

theorem skipSpace_unifyLineEnds (s : List Char) :
    skipSpace (unifyLineEnds s) = unifyLineEnds (skipSpace s) :=
  dropWhile_unifyLineEnds rfl s

theorem span_unifyLineEnds (s : List Char) : (unifyLineEnds s).span isDigit =
    ((s.span isDigit).1, unifyLineEnds (s.span isDigit).2) := by
  rw [List.span_eq_takeWhile_dropWhile, List.span_eq_takeWhile_dropWhile,
    takeWhile_unifyLineEnds rfl rfl, dropWhile_unifyLineEnds rfl]

theorem unifyLineEnds_cases (s : List Char) :
    s = [] ∨ (∃ x t, s = x :: t ∧ unifyLineEnds s = x :: unifyLineEnds t) ∨
      ∃ t u, s = '\r' :: t ∧ unifyLineEnds s = '\n' :: u := by
  cases s with
  | nil => exact Or.inl rfl
  | cons x t =>
    by_cases hx : x = '\r'
    · subst hx
      obtain ⟨u, hu⟩ := unifyLineEnds_cr t
      exact Or.inr (Or.inr ⟨t, u, rfl, hu⟩)
    · exact Or.inr (Or.inl ⟨x, t, rfl, unifyLineEnds_cons hx⟩)

theorem exists_of_unifyLineEnds {x : Char} {u : List Char} (h : unifyLineEnds s = x :: u)
    (hx : x ≠ '\n') : ∃ t, s = x :: t ∧ u = unifyLineEnds t := by
  rcases unifyLineEnds_cases s with rfl | ⟨y, t, rfl, hs⟩ | ⟨t, v, rfl, hs⟩
  · cases h
  · rw [hs] at h
    cases h
    exact ⟨t, rfl, rfl⟩
  · rw [hs] at h
    cases h
    exact absurd rfl hx

theorem fraction_unifyLineEnds (s : List Char) :
    fraction (unifyLineEnds s) = ((fraction s).1, unifyLineEnds (fraction s).2) := by
  rcases unifyLineEnds_cases s with rfl | ⟨x, t, rfl, hs⟩ | ⟨t, u, rfl, hs⟩
  · rfl
  · by_cases hx : x = '.'
    · subst hx
      have hspan := span_unifyLineEnds t
      cases hdigits : t.span isDigit with
      | mk digits rest =>
        rw [hdigits] at hspan
        rw [hs]
        simp only [fraction, hspan, hdigits]
        cases digits with
        | nil => rw [hs]
        | cons d digits => rfl
    · have hnone : ∀ t, fraction (x :: t) = ([], x :: t) := by
        intro t
        rw [fraction]
        simp_all
      rw [hs, hnone, hnone, hs]
  · have hnone : fraction (unifyLineEnds ('\r' :: t)) = ([], unifyLineEnds ('\r' :: t)) := by
      rw [hs]
      rfl
    exact hnone

theorem signed_unifyLineEnds (s : List Char) :
    signed (unifyLineEnds s) = ((signed s).1, unifyLineEnds (signed s).2) := by
  rcases unifyLineEnds_cases s with rfl | ⟨x, t, rfl, hs⟩ | ⟨t, u, rfl, hs⟩
  · rfl
  · rw [hs]
    by_cases hplus : x = '+'
    · subst hplus
      rfl
    by_cases hminus : x = '-'
    · subst hminus
      rfl
    · have hnone : ∀ t, signed (x :: t) = ([], x :: t) := by
        intro t
        rw [signed] <;> simp_all
      rw [hnone, hnone, hs]
  · rw [hs]
    exact congrArg (Prod.mk []) hs.symm

theorem exponent_unifyLineEnds (s : List Char) :
    exponent (unifyLineEnds s) = ((exponent s).1, unifyLineEnds (exponent s).2) := by
  rcases unifyLineEnds_cases s with rfl | ⟨x, t, rfl, hs⟩ | ⟨t, u, rfl, hs⟩
  · rfl
  · by_cases hx : (x = 'e' || x = 'E') = true
    · have hsigned := signed_unifyLineEnds t
      have hspan := span_unifyLineEnds (signed t).2
      cases hdigits : (signed t).2.span isDigit with
      | mk digits rest =>
        rw [hdigits] at hspan
        rw [hs]
        simp only [exponent, if_pos hx, hsigned, hspan, hdigits]
        cases digits with
        | nil => rw [hs]
        | cons d digits => rfl
    · have hnone : ∀ t, exponent (x :: t) = ([], x :: t) := fun t => by
        simp only [exponent, if_neg hx]
      rw [hs, hnone, hnone, hs]
  · have hnone : exponent (unifyLineEnds ('\r' :: t)) = ([], unifyLineEnds ('\r' :: t)) := by
      rw [hs]
      rfl
    exact hnone

theorem whole?_unifyLineEnds (s : List Char) :
    whole? (unifyLineEnds s) = (whole? s).map fun r => (r.1, unifyLineEnds r.2) := by
  rcases unifyLineEnds_cases s with rfl | ⟨x, t, rfl, hs⟩ | ⟨t, u, rfl, hs⟩
  · rfl
  · rw [hs]
    by_cases hzero : x = '0'
    · subst hzero
      rfl
    · have hmany : ∀ t, whole? (x :: t) = if isDigit x then
          some (x :: (t.span isDigit).1, (t.span isDigit).2) else none := by
        intro t
        rw [whole?]
        simp_all
      rw [hmany, hmany, span_unifyLineEnds]
      split <;> rfl
  · rw [hs]
    rfl

theorem number?_unifyLineEnds (negative : Bool) (s : List Char) :
    number? negative (unifyLineEnds s) =
      (number? negative s).map fun r => (r.1, unifyLineEnds r.2) := by
  unfold number?
  rw [whole?_unifyLineEnds]
  cases whole? s with
  | none => rfl
  | some r =>
    simp only [Option.map_some, Option.bind_eq_bind, Option.bind_some, fraction_unifyLineEnds,
      exponent_unifyLineEnds]
    split
    · rfl
    · cases Number.unsignedBinary? negative _ <;> rfl

theorem after?_unifyLineEnds {word : String} (hword : '\r' ∉ word.toList) {rest : List Char}
    (h : after? word s = some rest) : after? word (unifyLineEnds s) = some (unifyLineEnds rest) := by
  rw [after?_eq h, unifyLineEnds_append hword, after?, if_pos, ← String.length_toList, List.drop_left]
  exact List.isPrefixOf_iff_prefix.mpr (List.prefix_append _ _)

theorem scalar?_unifyLineEnds {v : Value} (h : scalar? s = some (v, rest)) :
    scalar? (unifyLineEnds s) = some (v, unifyLineEnds rest) := by
  have hword : ∀ {word : String} {t r} {w : Value}, '\r' ∉ word.toList →
      (after? word t).map (fun rest => (w, rest)) = some (v, rest) → unifyLineEnds t = r →
      (after? word r).map (fun rest => (w, rest)) = some (v, unifyLineEnds rest) := by
    rintro word t _ w hword h rfl
    obtain ⟨r, hr, heq⟩ := Option.map_eq_some_iff.mp h
    cases heq
    rw [after?_unifyLineEnds hword hr]
    rfl
  have hnumber : ∀ {negative t}, number? negative t = some (v, rest) →
      number? negative (unifyLineEnds t) = some (v, unifyLineEnds rest) := by
    intro negative t h
    rw [number?_unifyLineEnds, h]
    rfl
  have hcons : ∀ {x : Char} t, x ≠ '\r' → unifyLineEnds (x :: t) = x :: unifyLineEnds t :=
    fun t hx => unifyLineEnds_cons hx
  unfold scalar? at h
  split at h
  · rw [hcons _ (by decide)]
    exact hword (by decide) h (hcons _ (by decide))
  · rw [hcons _ (by decide)]
    exact hword (by decide) h (hcons _ (by decide))
  · rw [hcons _ (by decide)]
    exact hword (by decide) h (hcons _ (by decide))
  · rw [hcons _ (by decide)]
    exact hword (by decide) h (hcons _ (by decide))
  · rw [hcons _ (by decide)]
    exact hword (by decide) h (hcons _ (by decide))
  · rw [hcons _ (by decide), hcons _ (by decide)]
    exact hword (by decide) h (hcons _ (by decide))
  · next t hinfinity =>
    have hscalar : scalar? ('-' :: unifyLineEnds t) = number? true (unifyLineEnds t) := by
      rw [scalar?]
      intro u hu
      obtain ⟨v, rfl, -⟩ := exists_of_unifyLineEnds hu (by decide)
      exact hinfinity v rfl
    rw [hcons _ (by decide), hscalar, hnumber h]
  · next hn ht hf hN hI _ hminus =>
    have hother : ∀ {x u}, unifyLineEnds s = x :: u → x ≠ '\n' → ∃ t, s = x :: t :=
      fun hu hx => (exists_of_unifyLineEnds hu hx).imp fun t ht => ht.1
    have hscalar : scalar? (unifyLineEnds s) = number? false (unifyLineEnds s) := by
      rw [scalar?]
      all_goals
        intro u hu
        obtain ⟨v, rfl⟩ := hother hu (by decide)
        first
        | exact hn _ rfl
        | exact ht _ rfl
        | exact hf _ rfl
        | exact hN _ rfl
        | exact hI _ rfl
        | exact hminus _ rfl
    rw [hscalar, hnumber h]

theorem not_mem_of_codeUnit? {a b c d : Char} {n : Nat} (h : codeUnit? a b c d = some n) :
    '\r' ∉ [a, b, c, d] := by
  have hnone : Number.digitIn? 16 '\r' = none := by decide +kernel
  intro hmem
  simp only [List.mem_cons, List.not_mem_nil, or_false] at hmem
  unfold codeUnit? at h
  rcases hmem with rfl | rfl | rfl | rfl <;> simp [hnone] at h

/-- What a quoted text means, and where it ends: there are no line ends in it, and it does not depend on what
follows. -/
def IsQuotedText (high : Option Nat) (w cs : List Char) : Prop :=
  w ≠ [] ∧ '\r' ∉ w ∧ ∀ u, string? high (w ++ u) = some (cs, u)

theorem exists_isQuotedText_append {high high' : Option Nat} {cs : List Char} (pre : List Char)
    (f : List Char → List Char) (hpre : pre ≠ []) (hends : '\r' ∉ pre)
    (hread : ∀ u, string? high (pre ++ u) = (string? high' u).map fun r => (f r.1, r.2))
    (h : (string? high' t).map (fun r => (f r.1, r.2)) = some (cs, rest))
    (htail : ∀ {cs}, string? high' t = some (cs, rest) →
      ∃ w, t = w ++ rest ∧ IsQuotedText high' w cs) :
    ∃ w, pre ++ t = w ++ rest ∧ IsQuotedText high w cs := by
  obtain ⟨⟨ds, r⟩, hds, heq⟩ := Option.map_eq_some_iff.mp h
  cases heq
  obtain ⟨w, rfl, -, hw, hall⟩ := htail hds
  refine ⟨pre ++ w, (List.append_assoc pre w _).symm, List.append_ne_nil_of_left_ne_nil hpre w, ?_,
    fun u => ?_⟩
  · rw [List.mem_append, not_or]
    exact ⟨hends, hw⟩
  · rw [List.append_assoc, hread, hall]
    rfl

theorem exists_isQuotedText {high : Option Nat} {cs : List Char}
    (h : string? high t = some (cs, rest)) : ∃ w, t = w ++ rest ∧ IsQuotedText high w cs := by
  have hunits : ∀ {a b c d : Char} {n : Nat}, codeUnit? a b c d = some n →
      '\r' ∉ ['\\', 'u', a, b, c, d] := by
    intro a b c d n hn
    have := not_mem_of_codeUnit? hn
    simp_all
  fun_induction string? high t generalizing cs with
  | case1 | case3 | case9 | case10 | case11 => cases h
  | case2 high s =>
    cases h
    refine ⟨['"'], rfl, List.cons_ne_nil _ _, by decide, fun u => ?_⟩
    rw [List.singleton_append, string?]
  | case4 high a b c d s n hn hunit ih =>
    refine exists_isQuotedText_append ['\\', 'u', a, b, c, d] (flush high ++ ·) nofun (hunits hn)
      ?_ h ih
    simp [string?, hn, hunit]
  | case5 a b c d s n hn hunit m hlow =>
    rename_i code ih
    refine exists_isQuotedText_append ['\\', 'u', a, b, c, d] (Char.ofNat code :: ·) nofun (hunits hn)
      ?_ h ih
    simp [string?, hn, hunit, hlow, code]
  | case6 a b c d s n hn hunit m hlow ih =>
    refine exists_isQuotedText_append ['\\', 'u', a, b, c, d] (_ :: _ :: ·) nofun (hunits hn) ?_ h ih
    simp [string?, hn, hunit, hlow]
  | case7 a b c d s n hn hunit x =>
    rename_i ih
    refine exists_isQuotedText_append ['\\', 'u', a, b, c, d] (_ :: ·) nofun (hunits hn) ?_ h ih
    simp [string?, hn, hunit, x]
  | case8 high c s hshort x hx ih =>
    have hends : '\r' ∉ ['\\', c] := by
      rintro hmem
      simp only [List.mem_cons, List.not_mem_nil, or_false] at hmem
      rcases hmem with hmem | rfl
      · cases hmem
      · cases hx
    have hother : c ≠ 'u' := by
      rintro rfl
      cases hx
    refine exists_isQuotedText_append ['\\', c] (fun t => flush high ++ x :: t) nofun hends ?_ h ih
    intro u
    rw [List.cons_append, List.singleton_append, string?, hx]
    rintro a b c d u rfl
    exact absurd rfl hother
  | case12 high x s hquote hshort hescape hlast hcontrol ih =>
    have hends : '\r' ∉ [x] := by
      rw [List.mem_singleton]
      rintro rfl
      exact hcontrol (by decide)
    have hbackslash : x ≠ '\\' := by
      rintro rfl
      cases s with
      | nil => exact hlast rfl rfl
      | cons c s => exact hescape c s rfl rfl
    refine exists_isQuotedText_append [x] (fun t => flush high ++ x :: t) nofun hends ?_ h ih
    intro u
    rw [List.singleton_append, string?, if_neg hcontrol]
    all_goals simp_all

theorem length_lt (hne : w ≠ []) (hends : '\r' ∉ w) (rest : List Char) :
    (unifyLineEnds rest).length < (unifyLineEnds (w ++ rest)).length := by
  rw [unifyLineEnds_append hends, List.length_append]
  have := List.length_pos_iff.mpr hne
  omega

theorem length_lt_of_scalar? {v : Value} (h : scalar? s = some (v, rest)) :
    (unifyLineEnds rest).length < (unifyLineEnds s).length := by
  have hword : ∀ {word : String} {t} {w : Value}, word.toList ≠ [] → '\r' ∉ word.toList →
      (after? word t).map (fun rest => (w, rest)) = some (v, rest) →
      (unifyLineEnds rest).length < (unifyLineEnds t).length := by
    intro word t w hne hends h
    obtain ⟨r, hr, heq⟩ := Option.map_eq_some_iff.mp h
    cases heq
    rw [after?_eq hr]
    exact length_lt hne hends rest
  have hnumber : ∀ {negative t}, number? negative t = some (v, rest) →
      (unifyLineEnds rest).length < (unifyLineEnds t).length := by
    intro negative t h
    obtain ⟨w, rfl, hne, hw⟩ := number?_eq h
    have hends : '\r' ∉ w := by
      intro hmem
      cases isWordChar_of_word hw _ (List.mem_append_right _ hmem)
    exact length_lt hne hends rest
  unfold scalar? at h
  split at h
  · exact hword (by decide) (by decide) h
  · exact hword (by decide) (by decide) h
  · exact hword (by decide) (by decide) h
  · exact hword (by decide) (by decide) h
  · exact hword (by decide) (by decide) h
  · have := hword (by decide) (by decide) h
    rw [unifyLineEnds_cons (by decide), List.length_cons]
    omega
  · have := hnumber h
    rw [unifyLineEnds_cons (by decide), List.length_cons]
    omega
  · exact hnumber h

/-- With enough fuel the text is read, also with the other line ends. -/
def ReadsOn {α : Type} (read : Nat → List Char → Option (α × List Char)) (n : Nat) : Prop :=
  ∀ {s a rest}, read n s = some (a, rest) →
    (unifyLineEnds rest).length < (unifyLineEnds s).length ∧
    ∀ m, (unifyLineEnds s).length < m + (unifyLineEnds rest).length →
      read m (unifyLineEnds s) = some (a, unifyLineEnds rest)

theorem readsOn_succ {α : Type} {read : Nat → List Char → Option (α × List Char)} {n : Nat}
    (h : ∀ {s a rest}, read (n + 1) s = some (a, rest) →
      (unifyLineEnds rest).length < (unifyLineEnds s).length ∧
      ∀ m, (unifyLineEnds s).length < m + 1 + (unifyLineEnds rest).length →
        read (m + 1) (unifyLineEnds s) = some (a, unifyLineEnds rest)) : ReadsOn read (n + 1) := by
  intro s a rest hread
  obtain ⟨hlt, hmore⟩ := h hread
  refine ⟨hlt, fun m hm => ?_⟩
  -- the rest is shorter, so there is some fuel
  obtain ⟨m, rfl⟩ : ∃ k, m = k + 1 := ⟨m - 1, by omega⟩
  exact hmore m hm

theorem length_skipSpace_le (s : List Char) :
    (unifyLineEnds (skipSpace s)).length ≤ (unifyLineEnds s).length := by
  rw [← skipSpace_unifyLineEnds]
  exact (List.dropWhile_sublist _).length_le

theorem readsOn_items {n : Nat} (hvalues : ReadsOn value? n) (hitems : ReadsOn items? n) :
    ReadsOn items? (n + 1) := by
  refine readsOn_succ fun {s vs rest} h => ?_
  rw [items?] at h
  obtain ⟨⟨v, u⟩, hv, h⟩ := Option.bind_eq_some_iff.mp h
  obtain ⟨hlt, hvalue⟩ := hvalues hv
  have hskip := skipSpace_unifyLineEnds u
  have hle := length_skipSpace_le u
  dsimp only at h
  split at h
  · next r hu =>
    cases h
    rw [hu, unifyLineEnds_cons (by decide)] at hskip
    rw [hu, unifyLineEnds_cons (by decide), List.length_cons] at hle
    refine ⟨by omega, fun m hm => ?_⟩
    rw [items?, hvalue m (by omega)]
    simp [hskip]
  · next t hu =>
    obtain ⟨⟨ws, r⟩, hws, h⟩ := Option.bind_eq_some_iff.mp h
    cases h
    rw [hu, unifyLineEnds_cons (by decide)] at hskip
    rw [hu, unifyLineEnds_cons (by decide), List.length_cons] at hle
    obtain ⟨hlt', hmore⟩ := hitems hws
    have hle' := length_skipSpace_le t
    dsimp only
    refine ⟨by omega, fun m hm => ?_⟩
    rw [items?, hvalue m (by omega)]
    simp [hskip, skipSpace_unifyLineEnds, hmore m (by omega)]
  · cases h

theorem readsOn_entries {n : Nat} (hvalues : ReadsOn value? n) (hentries : ReadsOn entries? n) :
    ReadsOn entries? (n + 1) := by
  refine readsOn_succ fun {s es rest} h => ?_
  rw [entries?.eq_def] at h
  dsimp only at h
  split at h
  · next t =>
    obtain ⟨⟨key, u⟩, hkey, hafter⟩ := Option.bind_eq_some_iff.mp h
    clear h
    obtain ⟨w, rfl, hne, hends, hread⟩ := exists_isQuotedText hkey
    have hquoted : unifyLineEnds ('"' :: (w ++ u)) = '"' :: (w ++ unifyLineEnds u) := by
      rw [unifyLineEnds_cons (by decide), unifyLineEnds_append hends]
    have hlength : (unifyLineEnds u).length < (unifyLineEnds ('"' :: (w ++ u))).length := by
      rw [hquoted, List.length_cons, List.length_append]
      omega
    have hskip := skipSpace_unifyLineEnds u
    have hle := length_skipSpace_le u
    dsimp only at hafter
    split at hafter
    · next u' hu =>
      obtain ⟨⟨v, x⟩, hv, h⟩ := Option.bind_eq_some_iff.mp hafter
      obtain ⟨hlt, hvalue⟩ := hvalues hv
      have hle' := length_skipSpace_le u'
      have hskip' := skipSpace_unifyLineEnds x
      have hle'' := length_skipSpace_le x
      rw [hu, unifyLineEnds_cons (by decide)] at hskip
      rw [hu, unifyLineEnds_cons (by decide), List.length_cons] at hle
      split at h
      · next r hx =>
        cases h
        rw [hx, unifyLineEnds_cons (by decide)] at hskip'
        rw [hx, unifyLineEnds_cons (by decide), List.length_cons] at hle''
        refine ⟨by omega, fun m hm => ?_⟩
        rw [hquoted, entries?, hread]
        simp [hskip, skipSpace_unifyLineEnds, hvalue m (by omega), hskip']
      · next t' hx =>
        obtain ⟨⟨ds, r⟩, hds, h⟩ := Option.bind_eq_some_iff.mp h
        cases h
        rw [hx, unifyLineEnds_cons (by decide)] at hskip'
        rw [hx, unifyLineEnds_cons (by decide), List.length_cons] at hle''
        obtain ⟨hlt', hmore⟩ := hentries hds
        have hle''' := length_skipSpace_le t'
        dsimp only
        refine ⟨by omega, fun m hm => ?_⟩
        rw [hquoted, entries?, hread]
        simp [hskip, skipSpace_unifyLineEnds, hvalue m (by omega), hskip', hmore m (by omega)]
      · cases h
    · cases hafter
  · cases h

theorem readsOn_inside {α : Type} {inside : Nat → List Char → Option (α × List Char)} {n : Nat}
    (hinside : ReadsOn inside n) {a : α} (h : inside n (skipSpace t) = some (a, rest)) :
    (unifyLineEnds rest).length < (unifyLineEnds t).length + 1 ∧
    ∀ m, (unifyLineEnds t).length + 1 < m + 1 + (unifyLineEnds rest).length →
      inside m (skipSpace (unifyLineEnds t)) = some (a, unifyLineEnds rest) := by
  have hle := length_skipSpace_le t
  obtain ⟨hlt, hread⟩ := hinside h
  refine ⟨by omega, fun m hm => ?_⟩
  rw [skipSpace_unifyLineEnds]
  exact hread m (by omega)

theorem readsOn_nothing {x : Char} (hx : x ≠ '\r') (h : skipSpace t = x :: rest) :
    (unifyLineEnds rest).length < (unifyLineEnds t).length + 1 ∧
      skipSpace (unifyLineEnds t) = x :: unifyLineEnds rest := by
  have hle := length_skipSpace_le t
  rw [h, unifyLineEnds_cons hx, List.length_cons] at hle
  rw [skipSpace_unifyLineEnds, h, unifyLineEnds_cons hx]
  exact ⟨by omega, rfl⟩

theorem not_nothing {x : Char} (hx : x ≠ '\n') (h : ∀ u, skipSpace t ≠ x :: u) (u : List Char) :
    skipSpace (unifyLineEnds t) ≠ x :: u := by
  intro hu
  rw [skipSpace_unifyLineEnds] at hu
  obtain ⟨u', hu', -⟩ := exists_of_unifyLineEnds hu hx
  exact h u' hu'

theorem readsOn_values {n : Nat} (hitems : ReadsOn items? n) (hentries : ReadsOn entries? n) :
    ReadsOn value? (n + 1) := by
  refine readsOn_succ fun {s v rest} h => ?_
  rw [value?.eq_def] at h
  dsimp only at h
  split at h
  · next t =>
    obtain ⟨⟨cs, r⟩, hcs, heq⟩ := Option.map_eq_some_iff.mp h
    cases heq
    obtain ⟨w, rfl, hne, hends, hread⟩ := exists_isQuotedText hcs
    rw [unifyLineEnds_cons (by decide), unifyLineEnds_append hends, List.length_cons,
      List.length_append]
    dsimp only
    refine ⟨by omega, fun m hm => ?_⟩
    rw [value?, hread]
    rfl
  · next t =>
    rw [unifyLineEnds_cons (by decide), List.length_cons]
    split at h
    · next r hempty =>
      cases h
      obtain ⟨hlt, hskip⟩ := readsOn_nothing (by decide) hempty
      refine ⟨hlt, fun m hm => ?_⟩
      simp only [value?, hskip]
    · next hmore =>
      obtain ⟨⟨vs, r⟩, hvs, heq⟩ := Option.map_eq_some_iff.mp h
      cases heq
      obtain ⟨hlt, hread⟩ := readsOn_inside hitems hvs
      dsimp only
      refine ⟨hlt, fun m hm => ?_⟩
      rw [value?]
      split
      · next u hu => exact absurd hu (not_nothing (by decide) hmore u)
      · rw [hread m hm]
        rfl
  · next t =>
    rw [unifyLineEnds_cons (by decide), List.length_cons]
    split at h
    · next r hempty =>
      cases h
      obtain ⟨hlt, hskip⟩ := readsOn_nothing (by decide) hempty
      refine ⟨hlt, fun m hm => ?_⟩
      simp only [value?, hskip]
    · next hmore =>
      obtain ⟨⟨es, r⟩, hes, heq⟩ := Option.map_eq_some_iff.mp h
      cases heq
      obtain ⟨hlt, hread⟩ := readsOn_inside hentries hes
      dsimp only
      refine ⟨hlt, fun m hm => ?_⟩
      rw [value?]
      split
      · next u hu => exact absurd hu (not_nothing (by decide) hmore u)
      · rw [hread m hm]
        rfl
  · next hquote hbracket hbrace =>
    -- unified, the text does not begin with a quote or a bracket either
    have hlt := length_lt_of_scalar? h
    refine ⟨hlt, fun m hm => ?_⟩
    rw [value?, scalar?_unifyLineEnds h]
    all_goals
      intro u hu
      obtain ⟨t, rfl, -⟩ := exists_of_unifyLineEnds hu (by decide)
      first
      | exact hquote _ rfl
      | exact hbracket _ rfl
      | exact hbrace _ rfl

theorem readsOn (n : Nat) : ReadsOn value? n ∧ ReadsOn items? n ∧ ReadsOn entries? n := by
  -- the readers call each other with one less fuel
  induction n with
  | zero => exact ⟨nofun, nofun, nofun⟩
  | succ n ih =>
    obtain ⟨hvalues, hitems, hentries⟩ := ih
    exact ⟨readsOn_values hitems hentries, readsOn_items hvalues hitems,
      readsOn_entries hvalues hentries⟩

theorem read?_unifyLineEnds {v : Value} (h : read? s = some v) : read? (unifyLineEnds s) = some v := by
  unfold read? at h ⊢
  split at h
  · next w rest hw =>
    split at h
    · next hrest =>
      cases h
      obtain ⟨-, hread⟩ := (readsOn _).1 hw
      have hle := length_skipSpace_le s
      rw [skipSpace_unifyLineEnds, hread _ (by omega)]
      rw [List.isEmpty_iff] at hrest
      simp only [skipSpace_unifyLineEnds, hrest]
      rfl
    · cases h
  · cases h

end BlockAudit.Json
