import BlockAudit.Text.Range

namespace BlockAudit.Text

def blankRanges : List (Nat × Nat) :=
  [(0x9, 0xD), (0x1C, 0x20), (0x85, 0x85), (0xA0, 0xA0), (0x1680, 0x1680), (0x2000, 0x200A),
   (0x2028, 0x2029), (0x202F, 0x202F), (0x205F, 0x205F), (0x3000, 0x3000)]

def isBlank (c : Char) : Bool := inRanges blankRanges c.toNat

def stripStart (s : List Char) : List Char := s.dropWhile isBlank

def stripEnd (s : List Char) : List Char := (s.reverse.dropWhile isBlank).reverse

def strip (s : List Char) : List Char := stripEnd (stripStart s)

def stripped (s : String) : String := String.ofList (strip s.toList)

end BlockAudit.Text
