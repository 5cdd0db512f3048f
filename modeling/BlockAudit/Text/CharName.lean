import BlockAudit.Text.NameTable
import BlockAudit.Text.Search

namespace BlockAudit.Text

namespace NameRun

def firstWords : Nat → List Char → List Char
  | 0, _ => []
  | n + 1, s =>
    let word := s.takeWhile (· ≠ ' ')
    word ++ ' ' :: firstWords n (s.drop (word.length + 1))

/-- A digit tells how many words are those of the name before. -/
def spelled (before : List Char) : List Char → List Char
  | [] => []
  | c :: s => if c.isDigit then firstWords (c.toNat - '0'.toNat) before ++ s else c :: s

def spelledAll (before : List Char) : List (List Char) → List (List Char)
  | [] => []
  | s :: ss => spelled before s :: spelledAll (spelled before s) ss

def find? (name : List Char) (r : NameRun) : Option Nat :=
  ((spelledAll [] (r.lines.flatMap (fields '|' ·.toList))).idxOf? name).map (r.first + ·)

end NameRun

/-- Names of characters in a row that end in a number of `width` digits. -/
structure NumberedRun where
  stem : String
  base : Nat
  width : Nat
  first : Nat
  last : Nat
  firstNumber : Nat

def numberedRuns : List NumberedRun :=
  [⟨"VARIATION SELECTOR-", 10, 2, 0xE0100, 0xE0152, 17⟩,
   ⟨"VARIATION SELECTOR-", 10, 3, 0xE0153, 0xE01EF, 100⟩,
   ⟨"TANGUT COMPONENT-", 10, 3, 0x18800, 0x18AFF, 1⟩,
   ⟨"KHITAN SMALL SCRIPT CHARACTER-", 16, 5, 0x18B00, 0x18CD5, 0x18B00⟩,
   ⟨"NUSHU CHARACTER-", 16, 5, 0x1B170, 0x1B2FB, 0x1B170⟩,
   ⟨"CJK COMPATIBILITY IDEOGRAPH-", 16, 4, 0xF900, 0xFA6D, 0xF900⟩,
   ⟨"CJK COMPATIBILITY IDEOGRAPH-", 16, 4, 0xFA70, 0xFAD9, 0xFA70⟩,
   ⟨"CJK COMPATIBILITY IDEOGRAPH-", 16, 5, 0x2F800, 0x2FA1D, 0x2F800⟩]

def unifiedRanges : List (Nat × Nat) :=
  [(0x3400, 0x4DBF), (0x4E00, 0x9FFF), (0x20000, 0x2A6DF), (0x2A700, 0x2B738), (0x2B740, 0x2B81D),
   (0x2B820, 0x2CEA1), (0x2CEB0, 0x2EBE0), (0x30000, 0x3134A)]

/-- Four digits may have a zero before them. -/
def unifiedRuns : List NumberedRun :=
  unifiedRanges.flatMap fun (first, last) =>
    [4, 5].map fun width => ⟨"CJK UNIFIED IDEOGRAPH-", 16, width, first, last, first⟩

def after? (stem : String) (name : List Char) : Option (List Char) :=
  if stem.toList.isPrefixOf name then some (name.drop stem.length) else none

def numberOf? (base : Nat) (digits : List Char) : Option Nat :=
  (digits.mapM fun c => ("0123456789ABCDEF".toList.take base).idxOf? c).map
    (·.foldl (fun n d => n * base + d) 0)

def NumberedRun.find? (name : List Char) (r : NumberedRun) : Option Nat := do
  let digits ← after? r.stem name
  guard (digits.length = r.width)
  let code := r.first + (← numberOf? r.base digits) - r.firstNumber
  guard (r.first ≤ code && code ≤ r.last)
  return code

def leads : List String :=
  ["G", "GG", "N", "D", "DD", "R", "M", "B", "BB", "S", "SS", "", "J", "JJ", "C", "K", "T", "P", "H"]

def vowels : List String :=
  ["A", "AE", "YA", "YAE", "EO", "E", "YEO", "YE", "O", "WA", "WAE", "OE", "YO", "U", "WEO", "WE",
   "WI", "YU", "EU", "YI", "I"]

def tails : List String :=
  ["", "G", "GG", "GS", "N", "NJ", "NH", "D", "L", "LG", "LM", "LB", "LS", "LT", "LP", "LH", "M",
   "B", "BS", "S", "SS", "NG", "J", "C", "K", "T", "P", "H"]

def longest? (parts : List String) (s : List Char) : Option (Nat × List Char) := do
  let found := parts.filter fun p => p.toList.isPrefixOf s
  let width ← (found.map String.length).max?
  let number ← parts.idxOf? (String.ofList (s.take width))
  return (number, s.drop width)

def syllable? (name : List Char) : Option Nat := do
  let letters ← after? "HANGUL SYLLABLE " name
  let (lead, s) ← longest? leads letters
  let (vowel, s) ← longest? vowels s
  let (tail, s) ← longest? tails s
  guard s.isEmpty
  return 0xAC00 + (lead * vowels.length + vowel) * tails.length + tail

/-- Names are read in any case, but for those of ideographs and syllables. -/
def codeOfName? (name : List Char) : Option Nat :=
  let capitals := name.map Char.toUpper
  let inCapitals := if name = capitals then unifiedRuns.findSome? (·.find? name) <|> syllable? name
    else none
  inCapitals <|> numberedRuns.findSome? (·.find? capitals) <|>
    nameRuns.findSome? (·.find? capitals) <|>
    (otherNames.find? fun e => e.2.toList == capitals).map (·.1)

end BlockAudit.Text
