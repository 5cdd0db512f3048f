import BlockAudit.Proofs.Number.Binary
import BlockAudit.Proofs.Number.Numeral
import BlockAudit.Proofs.Text.Blank
import Mathlib.Tactic.IntervalCases

namespace BlockAudit.Number

variable {s t w : List Char} {c : Char}

def IsRun (s : List Char) : Prop := s ≠ [] ∧ ∀ c ∈ s, Text.isDecimal c = true

/-- Runs of decimal digits of any script, with one underscore between two runs. -/
inductive DigitPart : List Char → Prop
  | run {s : List Char} (h : IsRun s) : DigitPart s
  | grouped {s t : List Char} (h : IsRun s) (rest : DigitPart t) : DigitPart (s ++ '_' :: t)

inductive PointPart : List Char → Prop
  | whole {s : List Char} (h : DigitPart s) : PointPart s
  | trailing {s : List Char} (h : DigitPart s) : PointPart (s ++ ['.'])
  | leading {t : List Char} (h : DigitPart t) : PointPart ('.' :: t)
  | both {s t : List Char} (h : DigitPart s) (h' : DigitPart t) : PointPart (s ++ '.' :: t)

def IsSign (s : List Char) : Prop := s = [] ∨ s = ['+'] ∨ s = ['-']

inductive DecimalPart : List Char → Prop
  | point {s : List Char} (h : PointPart s) : DecimalPart s
  | power {s sign t : List Char} (h : PointPart s) (hsign : IsSign sign) (h' : DigitPart t) :
      DecimalPart (s ++ 'e' :: (sign ++ t))

def Unsigned (s : List Char) : Prop :=
  s = "inf".toList ∨ s = "infinity".toList ∨ DecimalPart s

/-- The texts of numbers, infinite ones among them. White space around does not count, nor does case. -/
def IsNumeral (s : List Char) : Prop :=
  ∃ before sign body after, s = before ++ (sign ++ body) ++ after ∧
    (∀ c ∈ before, isMargin c = true) ∧ (∀ c ∈ after, isMargin c = true) ∧ IsSign sign ∧
    Unsigned (body.map Char.toLower)

theorem decimalValue?_lt {d : Nat} (h : Text.decimalValue? c = some d) : d < 10 := by
  obtain ⟨z, hz, rfl⟩ := Option.map_eq_some_iff.mp h
  have hrange := List.find?_some hz
  rw [Bool.and_eq_true, decide_eq_true_iff, decide_eq_true_iff] at hrange
  omega

theorem isSome_digitIn?_iff : (digitIn? 10 c).isSome = true ↔ Text.isDecimal c = true := by
  unfold digitIn? Text.isDecimal
  cases hc : Text.decimalValue? c with
  | none =>
    -- A letter counts for ten or more.
    have hletter : ¬(if (0x61 ≤ Text.toSmallAscii c.toNat && Text.toSmallAscii c.toNat ≤ 0x7A) = true
        then Text.toSmallAscii c.toNat - 0x61 + 10 else 10) < 10 := by
      split <;> omega
    dsimp only
    rw [if_neg hletter]
  | some d =>
    dsimp only
    rw [if_pos (decimalValue?_lt hc)]

theorem isSome_mapM_iff {f : Char → Option Nat} :
    (s.mapM f).isSome = true ↔ ∀ c ∈ s, (f c).isSome = true := by
  induction s with
  | nil => simp
  | cons c s ih =>
    rw [List.mapM_cons, List.forall_mem_cons, ← ih]
    cases f c with
    | none => simp
    | some d => cases s.mapM f <;> simp

theorem isSome_digits?_iff_runs :
    (digits? 10 s).isSome = true ↔ ∀ g ∈ Text.fields '_' s, IsRun g := by
  have hruns : (Text.fields '_' s).all (!·.isEmpty) = true ↔ ∀ g ∈ Text.fields '_' s, g ≠ [] := by
    simp
  have hdigits : ((Text.fields '_' s).flatten.mapM (digitIn? 10)).isSome = true ↔
      ∀ g ∈ Text.fields '_' s, ∀ c ∈ g, Text.isDecimal c = true := by
    simp only [isSome_mapM_iff, isSome_digitIn?_iff, List.mem_flatten]
    exact ⟨fun h g hg c hc => h c ⟨g, hg, hc⟩, fun h c ⟨g, hg, hc⟩ => h g hg c hc⟩
  unfold digits? IsRun
  simp only [forall_and, ← hruns, ← hdigits]
  split
  · next h => simp [h]
  · next h => simp [h]

theorem isDecimal_ne {x : Char} (hx : Text.isDecimal x = false) (h : Text.isDecimal c = true) :
    x ≠ c := by
  rintro rfl
  rw [hx] at h
  cases h

theorem IsRun.not_mem {x : Char} (h : IsRun s) (hx : Text.isDecimal x = false) : x ∉ s :=
  fun hmem => isDecimal_ne hx (h.2 x hmem) rfl

theorem isSome_digits?_iff : (digits? 10 s).isSome = true ↔ DigitPart s := by
  rw [isSome_digits?_iff_runs]
  constructor
  · intro h
    -- The induction is on the length: what comes after an underscore is shorter.
    induction hlength : s.length using Nat.strongRecOn generalizing s with
    | ind n ih =>
      rcases Text.fields_cases '_' s with ⟨-, hfields⟩ | ⟨f, t, -, rfl, hfields⟩
      · rw [hfields] at h
        exact .run (List.forall_mem_singleton.mp h)
      · rw [hfields] at h
        obtain ⟨hf, ht⟩ := List.forall_mem_cons.mp h
        refine .grouped hf (ih t.length ?_ ht rfl)
        rw [← hlength, List.length_append, List.length_cons]
        omega
  · intro h
    induction h with
    | run h =>
      rw [Text.fields_of_not_mem (h.not_mem (by decide))]
      exact List.forall_mem_singleton.mpr h
    | grouped h _ ih =>
      rw [Text.fields_append_cons, Text.fields_of_not_mem (h.not_mem (by decide))]
      exact List.forall_mem_cons.mpr ⟨h, ih⟩

theorem DigitPart.exists_cons (h : DigitPart s) :
    ∃ c t, s = c :: t ∧ Text.isDecimal c = true := by
  have hrun {u : List Char} (h : IsRun u) (t : List Char) :
      ∃ c v, u ++ t = c :: v ∧ Text.isDecimal c = true := by
    obtain ⟨c, v, rfl⟩ := List.exists_cons_of_ne_nil h.1
    exact ⟨c, v ++ t, rfl, h.2 c List.mem_cons_self⟩
  cases h with
  | run h => simpa using hrun h []
  | grouped h _ => exact hrun h _

theorem DigitPart.isDecimal_or (h : DigitPart s) : ∀ c ∈ s, Text.isDecimal c = true ∨ c = '_' := by
  induction h with
  | run h => exact fun c hc => Or.inl (h.2 c hc)
  | grouped h _ ih =>
    intro c hc
    rcases List.mem_append.mp hc with hc | hc
    · exact Or.inl (h.2 c hc)
    · rcases List.mem_cons.mp hc with rfl | hc
      · exact Or.inr rfl
      · exact ih c hc

theorem DigitPart.not_mem {x : Char} (h : DigitPart s) (hx : Text.isDecimal x = false) (hbar : x ≠ '_') :
    x ∉ s := by
  intro hmem
  rcases h.isDecimal_or x hmem with hdecimal | hx'
  · exact isDecimal_ne hx hdecimal rfl
  · exact hbar hx'

theorem not_digitPart_nil : ¬DigitPart [] := by
  intro h
  obtain ⟨c, t, hnil, -⟩ := h.exists_cons
  cases hnil

theorem isSome_fixedPoint?_of_pair (h : Text.fields '.' s = [w, t]) :
    (fixedPoint? s).isSome = true ↔
      t = [] ∧ DigitPart w ∨ w = [] ∧ DigitPart t ∨ DigitPart w ∧ DigitPart t := by
  rw [fixedPoint?, h]
  cases t with
  | nil => simp [isSome_digits?_iff, not_digitPart_nil]
  | cons c t =>
    cases w with
    | nil => simp [isSome_digits?_iff, not_digitPart_nil]
    | cons d w =>
      rw [← isSome_digits?_iff, ← isSome_digits?_iff]
      cases hw : digits? 10 (d :: w) <;> cases ht : digits? 10 (c :: t) <;> simp [hw, ht]

theorem isSome_fixedPoint?_iff : (fixedPoint? s).isSome = true ↔ PointPart s := by
  have hpoint {u : List Char} (hu : DigitPart u) : '.' ∉ u := hu.not_mem (by decide) (by decide)
  constructor
  · intro h
    rcases Text.fields_cases '.' s with ⟨-, hfields⟩ | ⟨w, t, -, rfl, hfields⟩
    · rw [fixedPoint?, hfields, Option.isSome_map, isSome_digits?_iff] at h
      exact .whole h
    · rcases Text.fields_cases '.' t with ⟨-, hrest⟩ | ⟨f, u, -, rfl, hrest⟩
      · rw [hrest] at hfields
        rcases (isSome_fixedPoint?_of_pair hfields).mp h with ⟨rfl, hw⟩ | ⟨rfl, ht⟩ | ⟨hw, ht⟩
        · exact .trailing hw
        · exact .leading ht
        · exact .both hw ht
      · obtain ⟨v, vs, hv⟩ := List.exists_cons_of_ne_nil (Text.fields_ne_nil '.' u)
        rw [fixedPoint?, hfields, hrest, hv] at h
        cases w <;> cases f <;> cases h
  · intro h
    cases h with
    | whole h =>
      rw [fixedPoint?, Text.fields_of_not_mem (hpoint h), Option.isSome_map, isSome_digits?_iff]
      exact h
    | trailing h =>
      exact (isSome_fixedPoint?_of_pair (Text.fields_append (hpoint h) List.not_mem_nil)).mpr (Or.inl ⟨rfl, h⟩)
    | leading h =>
      have hfields := Text.fields_append List.not_mem_nil (hpoint h)
      exact (isSome_fixedPoint?_of_pair hfields).mpr (Or.inr (Or.inl ⟨rfl, h⟩))
    | both h h' =>
      have hfields := Text.fields_append (hpoint h) (hpoint h')
      exact (isSome_fixedPoint?_of_pair hfields).mpr (Or.inr (Or.inr ⟨h, h'⟩))

theorem splitSign_eq (s : List Char) :
    ∃ sign, IsSign sign ∧ s = sign ++ (splitSign s).2 := by
  unfold splitSign
  split
  · exact ⟨['-'], Or.inr (Or.inr rfl), rfl⟩
  · exact ⟨['+'], Or.inr (Or.inl rfl), rfl⟩
  · exact ⟨[], Or.inl rfl, rfl⟩

theorem splitSign_append (hs : IsSign s) (hplus : t.head? ≠ some '+') (hminus : t.head? ≠ some '-') :
    splitSign (s ++ t) = (s == ['-'], t) := by
  rcases hs with rfl | rfl | rfl
  · rw [List.nil_append]
    unfold splitSign
    split
    · exact absurd rfl hminus
    · exact absurd rfl hplus
    · rfl
  · rfl
  · rfl

theorem DigitPart.head?_append_ne {x : Char} (h : DigitPart s) (hx : Text.isDecimal x = false)
    (t : List Char) : (s ++ t).head? ≠ some x := by
  obtain ⟨c, u, rfl, hc⟩ := h.exists_cons
  exact fun he => isDecimal_ne hx hc (Option.some.inj he).symm

theorem DigitPart.head?_ne {x : Char} (h : DigitPart s) (hx : Text.isDecimal x = false) :
    s.head? ≠ some x := by
  simpa using h.head?_append_ne hx []

theorem isSome_exponent?_iff :
    (exponent? s).isSome = true ↔ ∃ sign t, s = sign ++ t ∧ IsSign sign ∧ DigitPart t := by
  have hread : (exponent? s).isSome = true ↔ DigitPart (splitSign s).2 := by
    rw [← isSome_digits?_iff]
    unfold exponent? natural?
    dsimp only
    cases digits? 10 (splitSign s).2 <;> exact Iff.rfl
  rw [hread]
  constructor
  · intro h
    obtain ⟨sign, hsign, hs⟩ := splitSign_eq s
    exact ⟨sign, _, hs, hsign, h⟩
  · rintro ⟨sign, t, rfl, hsign, ht⟩
    rwa [splitSign_append hsign (ht.head?_ne (by decide)) (ht.head?_ne (by decide))]

theorem PointPart.not_mem {x : Char} (h : PointPart s) (hx : Text.isDecimal x = false) (hbar : x ≠ '_')
    (hpoint : x ≠ '.') : x ∉ s := by
  cases h with
  | whole h => exact h.not_mem hx hbar
  | trailing h => simp [h.not_mem hx hbar, hpoint]
  | leading h => simp [h.not_mem hx hbar, hpoint]
  | both h h' => simp [h.not_mem hx hbar, h'.not_mem hx hbar, hpoint]

theorem IsSign.not_mem {x : Char} (h : IsSign s) (hplus : x ≠ '+') (hminus : x ≠ '-') : x ∉ s := by
  rcases h with rfl | rfl | rfl <;> simp [hplus, hminus]

theorem Binary.ofDecimal_ne_nan (negative : Bool) (digits : Nat) (power : Int) (k : Nat) :
    ofDecimal negative digits power ≠ nan k := by
  unfold ofDecimal
  split
  · nofun
  · split
    · nofun
    · split
      · nofun
      · rcases ofRatio_cases negative (digits * tenTo power.toNat) (tenTo (-power).toNat) with
          hx | ⟨m, e, hx⟩
        · rw [hx]
          nofun
        · rw [hx]
          nofun

def decimal? (negative : Bool) (s : List Char) : Option Binary :=
  match Text.fields 'e' s with
  | [point] => (fixedPoint? point).map fun (digits, places) =>
    .ofDecimal negative (ofDigits 10 digits) (-places)
  | [point, power] => do
    let (digits, places) ← fixedPoint? point
    let e ← exponent? power
    return .ofDecimal negative (ofDigits 10 digits) (e - places)
  | _ => none

theorem unsignedBinary?_eq (negative : Bool) (s : List Char) : unsignedBinary? negative s =
    if s = "inf".toList ∨ s = "infinity".toList then some (.infinite negative)
    else if s = "nan".toList then some (.nan 0)
    else decimal? negative s := by
  simp only [unsignedBinary?, Bool.or_eq_true, decide_eq_true_eq]
  rfl

theorem exists_decimal? (negative : Bool) (h : DecimalPart s) :
    ∃ digits power, decimal? negative s = some (.ofDecimal negative digits power) := by
  have hpower {u : List Char} (hu : PointPart u) : 'e' ∉ u :=
    hu.not_mem (by decide) (by decide) (by decide)
  cases h with
  | point h =>
    obtain ⟨⟨digits, places⟩, hpoint⟩ := Option.isSome_iff_exists.mp (isSome_fixedPoint?_iff.mpr h)
    refine ⟨ofDigits 10 digits, -places, ?_⟩
    rw [decimal?, Text.fields_of_not_mem (hpower h)]
    dsimp only
    rw [hpoint]
    rfl
  | @power w sign t h hsign h' =>
    obtain ⟨⟨digits, places⟩, hpoint⟩ := Option.isSome_iff_exists.mp (isSome_fixedPoint?_iff.mpr h)
    obtain ⟨e, he⟩ := Option.isSome_iff_exists.mp
      (isSome_exponent?_iff.mpr ⟨sign, t, rfl, hsign, h'⟩)
    have hrest : 'e' ∉ sign ++ t := by
      rw [List.mem_append, not_or]
      exact ⟨hsign.not_mem (by decide) (by decide), h'.not_mem (by decide) (by decide)⟩
    refine ⟨ofDigits 10 digits, e - places, ?_⟩
    rw [decimal?, Text.fields_append (hpower h) hrest]
    dsimp only
    rw [hpoint, he]
    rfl

theorem decimalPart_of_decimal? {negative : Bool} {x : Binary} (h : decimal? negative s = some x) :
    DecimalPart s ∧ ∃ digits power, x = .ofDecimal negative digits power := by
  rcases Text.fields_cases 'e' s with ⟨-, hfields⟩ | ⟨w, t, -, rfl, hfields⟩
  · rw [decimal?, hfields] at h
    obtain ⟨⟨digits, places⟩, hpoint, hx⟩ := Option.map_eq_some_iff.mp h
    refine ⟨.point (isSome_fixedPoint?_iff.mp (Option.isSome_of_eq_some hpoint)), _, _, hx.symm⟩
  · rcases Text.fields_cases 'e' t with ⟨-, hrest⟩ | ⟨f, u, -, rfl, hrest⟩
    · rw [decimal?, hfields, hrest] at h
      obtain ⟨⟨digits, places⟩, hpoint, h⟩ := Option.bind_eq_some_iff.mp h
      obtain ⟨e, he, hx⟩ := Option.bind_eq_some_iff.mp h
      obtain ⟨sign, d, rfl, hsign, hd⟩ := isSome_exponent?_iff.mp (Option.isSome_of_eq_some he)
      refine ⟨.power (isSome_fixedPoint?_iff.mp (Option.isSome_of_eq_some hpoint)) hsign hd, ?_⟩
      exact ⟨_, _, (Option.some.inj hx).symm⟩
    · obtain ⟨v, vs, hv⟩ := List.exists_cons_of_ne_nil (Text.fields_ne_nil 'e' u)
      rw [decimal?, hfields, hrest, hv] at h
      cases h

theorem DecimalPart.not_mem {x : Char} (h : DecimalPart s) (hx : Text.isDecimal x = false)
    (hothers : x ∉ ['_', '.', 'e', '+', '-']) : x ∉ s := by
  simp only [List.mem_cons, List.not_mem_nil, or_false, not_or] at hothers
  obtain ⟨hbar, hpoint, hpower, hplus, hminus⟩ := hothers
  cases h with
  | point h => exact h.not_mem hx hbar hpoint
  | power h hsign h' =>
    simp [h.not_mem hx hbar hpoint, hpower, hsign.not_mem hplus hminus, h'.not_mem hx hbar]

theorem unsignedBinary?_of_decimalPart (negative : Bool) (h : DecimalPart s) :
    unsignedBinary? negative s = decimal? negative s := by
  have hletter : 'n' ∉ s := h.not_mem (by decide) (by decide)
  have hword {w : String} (hw : 'n' ∈ w.toList) : s ≠ w.toList := by
    rintro rfl
    exact hletter hw
  rw [unsignedBinary?_eq, if_neg (not_or.mpr ⟨hword (by decide), hword (by decide)⟩),
    if_neg (hword (by decide))]

theorem exists_unsignedBinary?_iff (negative : Bool) :
    (∃ x, unsignedBinary? negative s = some x ∧ ∀ k, x ≠ .nan k) ↔ Unsigned s := by
  constructor
  · rintro ⟨x, hx, hnumber⟩
    rw [unsignedBinary?_eq] at hx
    split at hx
    · next h => exact h.imp_right Or.inl
    · split at hx
      · exact absurd (Option.some.inj hx).symm (hnumber 0)
      · exact Or.inr (Or.inr (decimalPart_of_decimal? hx).1)
  · rintro (rfl | rfl | h)
    · exact ⟨.infinite negative, rfl, nofun⟩
    · exact ⟨.infinite negative, rfl, nofun⟩
    · obtain ⟨digits, power, hx⟩ := exists_decimal? negative h
      refine ⟨_, ?_, Binary.ofDecimal_ne_nan negative digits power⟩
      rw [unsignedBinary?_of_decimalPart negative h, hx]

theorem PointPart.head?_append_ne {x : Char} (h : PointPart s) (hx : Text.isDecimal x = false)
    (hpoint : x ≠ '.') (t : List Char) : (s ++ t).head? ≠ some x := by
  cases h with
  | whole h => exact h.head?_append_ne hx t
  | trailing h =>
    rw [List.append_assoc]
    exact h.head?_append_ne hx _
  | leading h => exact fun he => hpoint (Option.some.inj he).symm
  | both h h' =>
    rw [List.append_assoc]
    exact h.head?_append_ne hx _

theorem Unsigned.head?_ne {x : Char} (h : Unsigned s) (hx : x = '+' ∨ x = '-') : s.head? ≠ some x := by
  have hdecimal : Text.isDecimal x = false := by
    rcases hx with rfl | rfl <;> decide
  have hpoint : x ≠ '.' := by
    rcases hx with rfl | rfl <;> decide
  rcases h with rfl | rfl | h
  · rcases hx with rfl | rfl <;> decide
  · rcases hx with rfl | rfl <;> decide
  · cases h with
    | point h => simpa using h.head?_append_ne hdecimal hpoint []
    | power h _ _ => exact h.head?_append_ne hdecimal hpoint _

theorem toLower_eq_self (h : ¬(0x41 ≤ c.toNat ∧ c.toNat ≤ 0x5A)) : c.toLower = c := dif_neg h

theorem smallAscii_eq (c : Char) : Char.ofNat (Text.toSmallAscii c.toNat) = c.toLower := by
  by_cases h : 0x41 ≤ c.toNat ∧ c.toNat ≤ 0x5A
  · obtain ⟨hlow, hhigh⟩ := h
    rw [← Char.ofNat_toNat c]
    generalize c.toNat = n at hlow hhigh
    interval_cases n <;> rfl
  · rw [toLower_eq_self h, Text.toSmallAscii, if_neg (by simpa using h), Char.ofNat_toNat]

theorem exists_blankRange (h : isMargin c = true) :
    ∃ r ∈ Text.blankRanges, r.1 ≤ c.toNat ∧ c.toNat ≤ r.2 := by
  obtain ⟨r, hr, hrange⟩ := List.any_eq_true.mp (Bool.and_eq_true_iff.mp h).1
  rw [Bool.and_eq_true, decide_eq_true_iff, decide_eq_true_iff] at hrange
  exact ⟨r, hr, hrange⟩

theorem isMargin_of_isDecimal (h : Text.isDecimal c = true) : isMargin c = false := by
  have hapart : ∀ z ∈ Text.decimalZeros, ∀ r ∈ Text.blankRanges, r.2 < z ∨ z + 10 ≤ r.1 := by
    decide
  obtain ⟨d, hd⟩ := Option.isSome_iff_exists.mp h
  obtain ⟨z, hz, -⟩ := Option.map_eq_some_iff.mp hd
  have hdigit := List.find?_some hz
  rw [Bool.and_eq_true, decide_eq_true_iff, decide_eq_true_iff] at hdigit
  by_contra hmargin
  obtain ⟨r, hr, hblank⟩ := exists_blankRange (Bool.not_eq_false _ ▸ hmargin)
  rcases hapart z (List.mem_of_find?_eq_some hz) r hr with hbelow | habove
  · omega
  · omega

theorem not_margin_of_any (h : s.any isMargin = false) : ∀ c ∈ s, isMargin c = false :=
  fun c hc => Bool.eq_false_iff.mpr (List.any_eq_false.mp h c hc)

theorem IsSign.not_margin (h : IsSign s) : ∀ c ∈ s, isMargin c = false := by
  rcases h with rfl | rfl | rfl <;> exact not_margin_of_any (by decide)

theorem isMargin_toLower (h : isMargin c = true) : isMargin c.toLower = true := by
  have hapart : ∀ r ∈ Text.blankRanges, r.2 < 0x41 ∨ 0x5A < r.1 := by
    decide
  obtain ⟨r, hr, hblank⟩ := exists_blankRange h
  have hnot : ¬(0x41 ≤ c.toNat ∧ c.toNat ≤ 0x5A) := by
    have hr := hapart r hr
    omega
  rwa [toLower_eq_self hnot]

theorem Unsigned.not_margin (h : Unsigned s) : ∀ c ∈ s, isMargin c = false := by
  rcases h with rfl | rfl | h
  · exact not_margin_of_any (by decide)
  · exact not_margin_of_any (by decide)
  · intro c hc
    by_cases hdecimal : Text.isDecimal c = true
    · exact isMargin_of_isDecimal hdecimal
    · have hothers : ∀ x ∈ ['_', '.', 'e', '+', '-'], isMargin x = false :=
        not_margin_of_any (by decide)
      by_contra hmargin
      exact h.not_mem (Bool.eq_false_iff.mpr hdecimal) (fun hx => hmargin (hothers c hx)) hc

theorem exists_margins (s : List Char) : ∃ before after, s = before ++ withoutMargins s ++ after ∧
    (∀ c ∈ before, isMargin c = true) ∧ ∀ c ∈ after, isMargin c = true := by
  refine ⟨s.takeWhile isMargin, ((s.dropWhile isMargin).reverse.takeWhile isMargin).reverse, ?_, ?_, ?_⟩
  · rw [withoutMargins, List.append_assoc, ← List.reverse_append, List.takeWhile_append_dropWhile,
      List.reverse_reverse, List.takeWhile_append_dropWhile]
  · exact fun c hc => List.mem_takeWhile_imp hc
  · exact fun c hc => List.mem_takeWhile_imp (List.mem_reverse.mp hc)

theorem withoutMargins_append {before after : List Char} (hbefore : ∀ c ∈ before, isMargin c = true)
    (hafter : ∀ c ∈ after, isMargin c = true) (hs : ∀ c ∈ s, isMargin c = false) :
    withoutMargins (before ++ s ++ after) = s := by
  have hstays {t : List Char} (ht : ∀ c ∈ t, isMargin c = false) : t.dropWhile isMargin = t :=
    Text.dropWhile_of_head? fun c hc => ht c (List.mem_of_mem_head? hc)
  have hstart : (before ++ s ++ after).dropWhile isMargin = s ++ after ∨
      s = [] ∧ (before ++ s ++ after).dropWhile isMargin = [] := by
    rw [List.append_assoc, List.dropWhile_append_of_pos hbefore]
    cases s with
    | nil => exact Or.inr ⟨rfl, List.dropWhile_eq_nil_iff.mpr hafter⟩
    | cons c s =>
      refine Or.inl (List.dropWhile_cons_of_neg ?_)
      simp [hs c List.mem_cons_self]
  rcases hstart with hstart | ⟨rfl, hstart⟩
  · have hreverse : ∀ c ∈ after.reverse, isMargin c = true := fun c hc =>
      hafter c (List.mem_reverse.mp hc)
    rw [withoutMargins, hstart, List.reverse_append, List.dropWhile_append_of_pos hreverse,
      hstays fun c hc => hs c (List.mem_reverse.mp hc), List.reverse_reverse]
  · rw [withoutMargins, hstart]
    rfl

theorem binary?_eq (s : List Char) : binary? s =
    unsignedBinary? (splitSign (withoutMargins s)).1 ((splitSign (withoutMargins s)).2.map Char.toLower) := by
  simp only [binary?, smallAscii_eq]

/-- What reads as a number is a numeral, and a numeral reads as a number. -/
theorem exists_binary?_iff : (∃ x, binary? s = some x ∧ ∀ k, x ≠ .nan k) ↔ IsNumeral s := by
  rw [binary?_eq, exists_unsignedBinary?_iff]
  constructor
  · intro h
    obtain ⟨before, after, hs, hbefore, hafter⟩ := exists_margins s
    obtain ⟨sign, hsign, hsplit⟩ := splitSign_eq (withoutMargins s)
    rw [hsplit] at hs
    exact ⟨before, sign, _, after, hs, hbefore, hafter, hsign, h⟩
  · rintro ⟨before, sign, body, after, rfl, hbefore, hafter, hsign, hbody⟩
    have hsolid : ∀ c ∈ sign ++ body, isMargin c = false := by
      intro c hc
      rcases List.mem_append.mp hc with hc | hc
      · exact hsign.not_margin c hc
      · by_contra hmargin
        have hsmall := hbody.not_margin _ (List.mem_map_of_mem hc)
        rw [isMargin_toLower (Bool.not_eq_false _ ▸ hmargin)] at hsmall
        cases hsmall
    have hhead {x : Char} (hx : x = '+' ∨ x = '-') : body.head? ≠ some x := by
      intro he
      have hlower : x.toLower = x := by
        rcases hx with rfl | rfl <;> rfl
      apply hbody.head?_ne hx
      rw [List.head?_map, he, Option.map_some, hlower]
    rw [withoutMargins_append hbefore hafter hsolid,
      splitSign_append hsign (hhead (Or.inl rfl)) (hhead (Or.inr rfl))]
    exact hbody

theorem Binary.ofDecimal_zero (negative : Bool) (digits : Nat) :
    ofDecimal negative digits 0 = ofRatio negative digits 1 := by
  by_cases hzero : digits = 0
  · rw [ofDecimal, if_pos hzero, ofRatio, if_pos hzero]
  · have hone : tenTo (0 : Int).toNat = 1 := rfl
    have hone' : tenTo (-0 : Int).toNat = 1 := rfl
    rw [ofDecimal, if_neg hzero, if_neg (by decide), if_neg (by omega), hone, hone', mul_one]

theorem binary?_of_isDigit (hsign : IsSign t) (hne : s ≠ []) (h : ∀ c ∈ s, c.isDigit = true) :
    binary? (t ++ s) = some (.ofRatio (t == ['-']) (Nat.ofDigitChars 10 s 0) 1) := by
  have hdecimal : ∀ c ∈ s, Text.isDecimal c = true := fun c hc => by
    rw [Text.isDecimal, decimalValue?_of_isDigit (h c hc)]
    rfl
  have hpart : DigitPart s := .run ⟨hne, hdecimal⟩
  have hsolid : ∀ c ∈ t ++ s, isMargin c = false := fun c hc =>
    (List.mem_append.mp hc).elim (hsign.not_margin c) fun hc => isMargin_of_isDecimal (hdecimal c hc)
  have hnothing : ∀ c ∈ ([] : List Char), isMargin c = true := List.forall_mem_nil _
  have htrimmed : withoutMargins (t ++ s) = t ++ s := by
    simpa using withoutMargins_append hnothing hnothing hsolid
  have hlower : s.map Char.toLower = s := by
    refine (List.map_congr_left fun c hc => toLower_eq_self ?_).trans s.map_id'
    have hdigit := h c hc
    rw [Char.isDigit, Bool.and_eq_true, decide_eq_true_iff, decide_eq_true_iff] at hdigit
    have hhigh : c.toNat ≤ 0x39 := hdigit.2
    omega
  have hpower : 'e' ∉ s := hpart.not_mem (by decide) (by decide)
  have hpoint : '.' ∉ s := hpart.not_mem (by decide) (by decide)
  rw [binary?_eq, htrimmed, splitSign_append hsign (hpart.head?_ne (by decide)) (hpart.head?_ne (by decide))]
  dsimp only
  rw [hlower, unsignedBinary?_of_decimalPart _ (.point (.whole hpart)), decimal?,
    Text.fields_of_not_mem hpower]
  dsimp only
  rw [fixedPoint?, Text.fields_of_not_mem hpoint]
  dsimp only
  rw [digits?_of_isDigit hne h, Option.map_some, Option.map_some]
  dsimp only
  rw [ofDigits_map, Nat.cast_zero, neg_zero, Binary.ofDecimal_zero]

end BlockAudit.Number
