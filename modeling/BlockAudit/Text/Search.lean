namespace BlockAudit.Text

def fields (sep : Char) : List Char → List (List Char)
  | [] => [[]]
  | c :: s =>
    if c = sep then [] :: fields sep s
    else match fields sep s with
      | [] => [[c]]
      | f :: fs => (c :: f) :: fs

/-- Replaces the occurrences of `old` from left to right; `skip` characters of one are still to be
passed over. -/
def replaceFrom (old new : List Char) : Nat → List Char → List Char
  | _, [] => []
  | skip + 1, _ :: s => replaceFrom old new skip s
  | 0, c :: s =>
    if old.isPrefixOf (c :: s) then new ++ replaceFrom old new (old.length - 1) s
    else c :: replaceFrom old new 0 s

def replaceAll (old new s : List Char) : List Char := replaceFrom old new 0 s

def isInfix (part : List Char) : List Char → Bool
  | [] => part.isEmpty
  | c :: s => part.isPrefixOf (c :: s) || isInfix part s

/-- Lines end at a line feed, a carriage return or the two together; each end becomes a line feed. -/
def unifyLineEnds : List Char → List Char
  | [] => []
  | '\r' :: '\n' :: s => '\n' :: unifyLineEnds s
  | c :: s => (if c = '\r' then '\n' else c) :: unifyLineEnds s

def padStart (width : Nat) (pad : Char) (s : List Char) : List Char :=
  List.replicate (width - s.length) pad ++ s

def padEnd (width : Nat) (pad : Char) (s : List Char) : List Char :=
  s ++ List.replicate (width - s.length) pad

end BlockAudit.Text
