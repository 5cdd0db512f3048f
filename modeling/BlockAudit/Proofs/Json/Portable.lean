import BlockAudit.Json.Read

namespace BlockAudit.Json

def isWordEnd (c : Char) : Bool := isSpace c || [',', ':', '[', ']', '\x7b', '\x7d'].contains c

def isNumberChar (c : Char) : Bool := isDigit c || ['+', '-', '.', 'e', 'E'].contains c

def isSignedPower (w : List Char) : Bool :=
  match w.dropWhile fun c => c != 'e' && c != 'E' with
  | [] => true
  | _ :: s => w.contains '.' && (s.head? == some '+' || s.head? == some '-')

/-- Not infinity, no-number, or a number whose exponent has no sign or comes without a fraction. -/
def isPortableWord (w : List Char) : Bool :=
  ["null", "true", "false"].any (·.toList == w) || (w.all isNumberChar && isSignedPower w)

def isParagraphBreak (c : Char) : Bool := c == '\u2028' || c == '\u2029'

def spaceAtBreak (x : Char) (s : List Char) : Bool :=
  (x == ' ' && s.head?.any isParagraphBreak) || (isParagraphBreak x && s.head? == some ' ')

def startsLow : List Char → Bool
  | '\\' :: 'u' :: a :: b :: c :: d :: _ => (codeUnit? a b c d).any isLowUnit
  | _ => false

mutual

def portableOutside (word : List Char) : List Char → Bool
  | [] => isPortableWord word
  | '"' :: s => isPortableWord word && portableInside s
  | c :: s =>
    if isWordEnd c then isPortableWord word && portableOutside [] s
    else portableOutside (word ++ [c]) s

/-- In quotes there are no pairs of escaped code units and no next-line characters, nor separators with
space beside them. -/
def portableInside : List Char → Bool
  | [] => true
  | '"' :: s => portableOutside [] s
  | '\\' :: 'u' :: a :: b :: c :: d :: s =>
    !((codeUnit? a b c d).any isHighUnit && startsLow s) && portableInside s
  | '\\' :: _ :: s => portableInside s
  | x :: s => x != '\u0085' && !spaceAtBreak x s && portableInside s

end

def isPortable (s : List Char) : Bool := portableOutside [] s

def unitChar (n : Nat) : Char := if isHighUnit n || isLowUnit n then '\uFFFD' else Char.ofNat n

def isQuotable (x : Char) : Bool :=
  x != '"' && x != '\\' && x != '\u0085' && 0x20 ≤ x.toNat

/-- The characters up to the closing quote mean a text; then comes the rest. -/
inductive Quoted : List Char → List Char → List Char → Prop
  | close {s : List Char} : Quoted ('"' :: s) [] s
  | unit {a b c d : Char} {n : Nat} {s cs rest : List Char} : codeUnit? a b c d = some n →
      Quoted s cs rest → Quoted ('\\' :: 'u' :: a :: b :: c :: d :: s) (unitChar n :: cs) rest
  | escape {c x : Char} {s cs rest : List Char} : escape? c = some x → Quoted s cs rest →
      Quoted ('\\' :: c :: s) (x :: cs) rest
  | char {x : Char} {s cs rest : List Char} : isQuotable x = true → spaceAtBreak x s = false →
      Quoted s cs rest → Quoted (x :: s) (x :: cs) rest

theorem unitChar_of_isHighUnit {n : Nat} (h : isHighUnit n = true) : unitChar n = '\uFFFD' := by
  rw [unitChar, h, Bool.true_or, if_pos rfl]

theorem startsLow_of_portable {a b c d : Char} {n : Nat} {s : List Char}
    (hn : codeUnit? a b c d = some n) (hhigh : isHighUnit n = true)
    (h : portableInside ('\\' :: 'u' :: a :: b :: c :: d :: s) = true) :
    startsLow s = false ∧ portableInside s = true := by
  rw [portableInside, hn, Option.any_some, hhigh] at h
  simpa using h

theorem portableInside_of_unit {a b c d : Char} {s : List Char}
    (h : portableInside ('\\' :: 'u' :: a :: b :: c :: d :: s) = true) :
    portableInside s = true := by
  rw [portableInside] at h
  exact (Bool.and_eq_true_iff.mp h).2

theorem quoted_of_string? {high : Option Nat} {t cs rest : List Char}
    (h : string? high t = some (cs, rest)) (hportable : portableInside t = true)
    (hhigh : high = none ∨ startsLow t = false) :
    ∃ cs', cs = flush high ++ cs' ∧ Quoted t cs' rest ∧ portableOutside [] rest = true := by
  fun_induction string? high t generalizing cs with
  | case1 | case3 | case9 | case10 | case11 => cases h
  | case2 high s =>
    cases h
    rw [portableInside] at hportable
    exact ⟨[], (List.append_nil _).symm, .close, hportable⟩
  | case4 high a b c d s n hn hunit ih =>
    obtain ⟨⟨t, rest'⟩, ht, heq⟩ := Option.map_eq_some_iff.mp h
    cases heq
    obtain ⟨hlow, hs⟩ := startsLow_of_portable hn hunit hportable
    obtain ⟨cs', rfl, hquoted, hrest⟩ := ih ht hs (Or.inr hlow)
    refine ⟨unitChar n :: cs', ?_, .unit hn hquoted, hrest⟩
    rw [unitChar_of_isHighUnit hunit]
    rfl
  | case5 a b c d s n hn hunit m hlow =>
    rcases hhigh with hhigh | hhigh
    · cases hhigh
    · rw [startsLow, hn, Option.any_some, hlow] at hhigh
      cases hhigh
  | case6 a b c d s n hn hunit m hlow ih =>
    obtain ⟨⟨t, rest'⟩, ht, heq⟩ := Option.map_eq_some_iff.mp h
    cases heq
    obtain ⟨_, rfl, hquoted, hrest⟩ := ih ht (portableInside_of_unit hportable) (Or.inl rfl)
    refine ⟨unitChar n :: t, ?_, .unit hn hquoted, hrest⟩
    simp [unitChar, hunit, hlow, flush]
  | case7 a b c d s n hn hunit x =>
    rename_i ih
    obtain ⟨⟨t, rest'⟩, ht, heq⟩ := Option.map_eq_some_iff.mp h
    cases heq
    obtain ⟨_, rfl, hquoted, hrest⟩ := ih ht (portableInside_of_unit hportable) (Or.inl rfl)
    refine ⟨unitChar n :: t, ?_, .unit hn hquoted, hrest⟩
    simp [unitChar, hunit, flush, x]
  | case8 high c s hshort x hx ih =>
    obtain ⟨⟨t, rest'⟩, ht, heq⟩ := Option.map_eq_some_iff.mp h
    cases heq
    rw [portableInside] at hportable
    · obtain ⟨_, rfl, hquoted, hrest⟩ := ih ht hportable (Or.inl rfl)
      exact ⟨x :: t, rfl, .escape hx hquoted, hrest⟩
    · exact hshort
  | case12 high x s hquote hshort hescape hlast hcontrol ih =>
    obtain ⟨⟨t, rest'⟩, ht, heq⟩ := Option.map_eq_some_iff.mp h
    cases heq
    rw [portableInside] at hportable
    · simp only [Bool.and_eq_true, bne_iff_ne, Bool.not_eq_true'] at hportable
      obtain ⟨⟨hnext, hbreak⟩, hs⟩ := hportable
      obtain ⟨_, rfl, hquoted, hrest⟩ := ih ht hs (Or.inl rfl)
      refine ⟨x :: t, rfl, .char ?_ hbreak hquoted, hrest⟩
      have hbackslash : x ≠ '\\' := by
        rintro rfl
        cases s with
        | nil => exact hlast rfl rfl
        | cons c s => exact hescape c s rfl rfl
      simpa [isQuotable, hnext, hbackslash, Nat.not_lt.mp hcontrol] using hquote
    all_goals assumption

end BlockAudit.Json
