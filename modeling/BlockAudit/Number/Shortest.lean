import BlockAudit.Number.Binary

namespace BlockAudit.Number

/-- `digits · 10 ^ exponent`. -/
structure Decimal where
  digits : Nat
  exponent : Int
deriving DecidableEq

/-- The order of `a · 10 ^ i` and `n · 2 ^ j`. -/
def compareScaled (a : Nat) (i : Int) (n : Nat) (j : Int) : Ordering :=
  compare (a * tenTo i.toNat * twoTo (-j).toNat) (n * twoTo j.toNat * tenTo (-i).toNat)

/-- The decimal lies among the reals that round to `m · 2 ^ e`. The gap below a power of two is half
the gap above it, and the ends of the interval belong to it when `m` is even. -/
def readsBack (m : Nat) (e : Int) (d : Decimal) : Bool :=
  let narrow := m == twoTo 52 && e > Binary.minExponent
  let low := compareScaled d.digits d.exponent (if narrow then 4 * m - 1 else 4 * m - 2) (e - 2)
  let high := compareScaled d.digits d.exponent (4 * m + 2) (e - 2)
  let closed := m % 2 == 0
  (low == .gt || (closed && low == .eq)) && (high == .lt || (closed && high == .eq))

/-- The least `k` with `m · 2 ^ e < 10 ^ k`, for a positive `m`. -/
def decimalScale (m : Nat) (e : Int) : Int :=
  let guess := ((m.log2 : Int) + e) * 30103 / 100000
  let steps := [guess - 1, guess, guess + 1, guess + 2]
  (steps.find? fun k => compareScaled 1 k m e == .gt).getD (guess + 3)

def onGrid? (m : Nat) (e : Int) (i : Int) : Option Decimal :=
  let num := m * twoTo e.toNat * tenTo (-i).toNat
  let den := twoTo (-e).toNat * tenTo i.toNat
  let below : Decimal := ⟨num / den, i⟩
  let above : Decimal := ⟨num / den + 1, i⟩
  let nearer := if roundQuotient num den = num / den then below else above
  if readsBack m e nearer then some nearer
  else if readsBack m e below then some below
  else if readsBack m e above then some above
  else none

def Decimal.trimmed (d : Decimal) : Decimal := go d.digits d
where
  go : Nat → Decimal → Decimal
    | 0, d => d
    | fuel + 1, d =>
      if d.digits % 10 = 0 && d.digits ≠ 0 then go (fuel / 10) ⟨d.digits / 10, d.exponent + 1⟩ else d

/-- The shortest decimal that reads back to `m · 2 ^ e`, for a positive `m`; seventeen digits are
always enough. -/
def shortest (m : Nat) (e : Int) : Decimal :=
  let k := decimalScale m e
  let found := (List.range 17).findSome? fun (n : Nat) => onGrid? m e (k - ((n : Int) + 1))
  (found.getD ⟨m * twoTo e.toNat * Nat.pow 5 (-e).toNat, -(-e).toNat⟩).trimmed

/-- Digits are written positionally for exponents of the leading digit from -4 to 15, with a point
and at least one digit on each side of it; otherwise with a signed exponent of at least two
digits. -/
def Decimal.written (d : Decimal) : List Char :=
  let digits := Nat.toDigits 10 d.digits
  let point : Int := digits.length + d.exponent
  if -4 < point && point ≤ 16 then
    if point ≤ 0 then '0' :: '.' :: List.replicate (-point).toNat '0' ++ digits
    else if digits.length ≤ point.toNat then
      digits ++ List.replicate (point.toNat - digits.length) '0' ++ ['.', '0']
    else digits.take point.toNat ++ '.' :: digits.drop point.toNat
  else
    let e := point - 1
    let tail := match digits with
      | [] => []
      | [c] => [c]
      | c :: cs => c :: '.' :: cs
    let width := Nat.toDigits 10 e.natAbs
    tail ++ 'e' :: (if e < 0 then '-' else '+') ::
      (List.replicate (2 - width.length) '0' ++ width)

def Binary.text : Binary → List Char
  | .nan _ => ['n', 'a', 'n']
  | .infinite s => (if s then ['-'] else []) ++ ['i', 'n', 'f']
  | .finite s m e =>
    (if s then ['-'] else []) ++ (if m = 0 then ['0', '.', '0'] else (shortest m e).written)

end BlockAudit.Number
