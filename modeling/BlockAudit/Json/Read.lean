import BlockAudit.Number.Numeral
import BlockAudit.Value.Equality
/-!
Reading JSON texts. Infinity and no-number are accepted as numbers; a key that comes again replaces
the value it had.
-/

namespace BlockAudit.Json

def isSpace (c : Char) : Bool := c == ' ' || c == '\t' || c == '\n' || c == '\r'

def skipSpace (s : List Char) : List Char := s.dropWhile isSpace

def isDigit (c : Char) : Bool := '0' ≤ c && c ≤ '9'

def codeUnit? (a b c d : Char) : Option Nat :=
  if [a, b, c, d].all fun x => x.toNat < 0x80 then
    ([a, b, c, d].mapM (Number.digitIn? 16)).map (Number.ofDigits 16)
  else none

def isHighUnit (n : Nat) : Bool := 0xD800 ≤ n && n < 0xDC00

def isLowUnit (n : Nat) : Bool := 0xDC00 ≤ n && n < 0xE000

def flush : Option Nat → List Char
  | some _ => ['\uFFFD']
  | none => []

def escape? : Char → Option Char
  | '"' => some '"'
  | '\\' => some '\\'
  | '/' => some '/'
  | 'b' => some '\x08'
  | 'f' => some '\x0c'
  | 'n' => some '\n'
  | 'r' => some '\r'
  | 't' => some '\t'
  | _ => none

/-- The characters up to the closing quote, and what follows it; a high unit may be waiting for its
low unit. -/
def string? : Option Nat → List Char → Option (List Char × List Char)
  | _, [] => none
  | high, '"' :: s => some (flush high, s)
  | high, '\\' :: 'u' :: a :: b :: c :: d :: s =>
    match codeUnit? a b c d with
    | none => none
    | some n =>
      if isHighUnit n then (string? (some n) s).map fun (t, rest) => (flush high ++ t, rest)
      else match high with
        | some m =>
          if isLowUnit n then
            let code := 0x10000 + (m - 0xD800) * 0x400 + (n - 0xDC00)
            (string? none s).map fun (t, rest) => (Char.ofNat code :: t, rest)
          else (string? none s).map fun (t, rest) => ('\uFFFD' :: Char.ofNat n :: t, rest)
        | none =>
          let c := if isLowUnit n then '\uFFFD' else Char.ofNat n
          (string? none s).map fun (t, rest) => (c :: t, rest)
  | high, '\\' :: c :: s =>
    match escape? c with
    | some d => (string? none s).map fun (t, rest) => (flush high ++ d :: t, rest)
    | none => none
  | _, ['\\'] => none
  | high, c :: s =>
    if c.toNat < 0x20 then none
    else (string? none s).map fun (t, rest) => (flush high ++ c :: t, rest)

def fraction (s : List Char) : List Char × List Char :=
  match s with
  | '.' :: t =>
    match t.span isDigit with
    | ([], _) => ([], s)
    | (digits, rest) => ('.' :: digits, rest)
  | _ => ([], s)

def signed : List Char → List Char × List Char
  | '+' :: s => (['+'], s)
  | '-' :: s => (['-'], s)
  | s => ([], s)

def exponent (s : List Char) : List Char × List Char :=
  match s with
  | c :: t =>
    if c = 'e' || c = 'E' then
      let (sign, u) := signed t
      match u.span isDigit with
      | ([], _) => ([], s)
      | (digits, rest) => (c :: sign ++ digits, rest)
    else ([], s)
  | [] => ([], s)

def whole? : List Char → Option (List Char × List Char)
  | '0' :: s => some (['0'], s)
  | c :: s =>
    if isDigit c then
      let (digits, rest) := s.span isDigit
      some (c :: digits, rest)
    else none
  | [] => none

def number? (negative : Bool) (s : List Char) : Option (Value × List Char) := do
  let (digits, s) ← whole? s
  let (places, s) := fraction s
  let (power, s) := exponent s
  if places.isEmpty && power.isEmpty then
    let n := (Number.natural? 10 digits).getD 0
    return (.int (if negative then -(n : Int) else n), s)
  let x ← Number.unsignedBinary? negative
    ((digits ++ places ++ power).map fun c => if c = 'E' then 'e' else c)
  return (.float x, s)

def after? (word : String) (s : List Char) : Option (List Char) :=
  if word.toList.isPrefixOf s then some (s.drop word.length) else none

def infinity? (negative : Bool) (s : List Char) : Option (Value × List Char) :=
  (after? "Infinity" s).map fun rest => (.float (.infinite negative), rest)

def scalar? (s : List Char) : Option (Value × List Char) :=
  match s with
  | 'n' :: _ => (after? "null" s).map fun rest => (.null, rest)
  | 't' :: _ => (after? "true" s).map fun rest => (.bool true, rest)
  | 'f' :: _ => (after? "false" s).map fun rest => (.bool false, rest)
  | 'N' :: _ => (after? "NaN" s).map fun rest => (.float (.nan 1), rest)
  | 'I' :: _ => infinity? false s
  | '-' :: 'I' :: t => infinity? true ('I' :: t)
  | '-' :: t => number? true t
  | _ => number? false s

mutual

def value? : Nat → List Char → Option (Value × List Char)
  | 0, _ => none
  | fuel + 1, s =>
    match s with
    | '"' :: t => (string? none t).map fun (cs, rest) => (.str (String.ofList cs), rest)
    | '[' :: t =>
      match skipSpace t with
      | ']' :: rest => some (.list [], rest)
      | u => (items? fuel u).map fun (vs, rest) => (.list vs, rest)
    | '\x7b' :: t =>
      match skipSpace t with
      | '\x7d' :: rest => some (.map [], rest)
      | u => (entries? fuel u).map fun (es, rest) => (.map (Value.ofEntries es), rest)
    | _ => scalar? s

def items? : Nat → List Char → Option (List Value × List Char)
  | 0, _ => none
  | fuel + 1, s => do
    let (v, s) ← value? fuel s
    match skipSpace s with
    | ']' :: rest => return ([v], rest)
    | ',' :: t =>
      let (vs, rest) ← items? fuel (skipSpace t)
      return (v :: vs, rest)
    | _ => none

def entries? : Nat → List Char → Option (List Entry × List Char)
  | 0, _ => none
  | fuel + 1, s =>
    match s with
    | '"' :: t => do
      let (key, s) ← string? none t
      match skipSpace s with
      | ':' :: u =>
        let (v, s) ← value? fuel (skipSpace u)
        let entry := (Value.str (String.ofList key), v)
        match skipSpace s with
        | '\x7d' :: rest => return ([entry], rest)
        | ',' :: u =>
          let (es, rest) ← entries? fuel (skipSpace u)
          return (entry :: es, rest)
        | _ => none
      | _ => none
    | _ => none

end

def read? (s : List Char) : Option Value :=
  match value? (s.length + 1) (skipSpace s) with
  | some (v, rest) => if (skipSpace rest).isEmpty then some v else none
  | none => none

end BlockAudit.Json
