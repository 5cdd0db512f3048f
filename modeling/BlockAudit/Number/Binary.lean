/-!
Binary numbers of double precision. Operations are exact and round once, to the nearest number and
on a tie to the even one; no machine arithmetic is involved.
-/

namespace BlockAudit.Number

/-- A finite number is `mantissa · 2 ^ exponent` with a sign. The `mark` of a number that is none
tells apart where it came from. -/
inductive Binary where
  | finite (negative : Bool) (mantissa : Nat) (exponent : Int)
  | infinite (negative : Bool)
  | nan (mark : Nat)
deriving DecidableEq

def twoTo (n : Nat) : Nat := Nat.pow 2 n

def tenTo (n : Nat) : Nat := Nat.pow 10 n

def roundQuotient (num den : Nat) : Nat :=
  let q := num / den
  let r := num % den
  if 2 * r < den then q else if den < 2 * r then q + 1 else q + q % 2

namespace Binary

def minExponent : Int := -1074

def maxExponent : Int := 971

def zero : Binary := finite false 0 minExponent

def exact (n : Int) : Binary := finite (n < 0) n.natAbs 0

/-- The exponent at which `num / den` has an integer part of 53 binary digits. -/
def leadingExponent (num den : Nat) : Int :=
  let e := (num.log2 : Int) - den.log2 - 52
  if num * twoTo (-e).toNat < den * twoTo e.toNat * twoTo 52 then e - 1 else e

def ofRatio (negative : Bool) (num den : Nat) : Binary :=
  if num = 0 then finite negative 0 minExponent
  else
    let e := max (leadingExponent num den) minExponent
    let m := roundQuotient (num * twoTo (-e).toNat) (den * twoTo e.toNat)
    if m = twoTo 53 then
      if e + 1 > maxExponent then infinite negative else finite negative (twoTo 52) (e + 1)
    else if e > maxExponent then infinite negative
    else finite negative m e

def ofInt? (n : Int) : Option Binary :=
  match ofRatio (n < 0) n.natAbs 1 with
  | infinite _ => none
  | x => some x

/-- The number nearest to `digits · 10 ^ exponent`. Far outside the range no power is computed. -/
def ofDecimal (negative : Bool) (digits : Nat) (exponent : Int) : Binary :=
  if digits = 0 then finite negative 0 minExponent
  else if exponent > 400 then infinite negative
  else if exponent + digits.log2 / 3 + 1 < -400 then finite negative 0 minExponent
  else ofRatio negative (digits * tenTo exponent.toNat) (tenTo (-exponent).toNat)

def neg : Binary → Binary
  | finite s m e => finite (!s) m e
  | infinite s => infinite (!s)
  | nan k => nan k

def scaled (negative : Bool) (mantissa : Nat) (exponent low : Int) : Int :=
  let n : Int := (mantissa * twoTo (exponent - low).toNat : Nat)
  if negative then -n else n

def compare? : Binary → Binary → Option Ordering
  | nan _, _ => none
  | _, nan _ => none
  | infinite true, infinite true => some .eq
  | infinite false, infinite false => some .eq
  | infinite true, _ => some .lt
  | infinite false, _ => some .gt
  | _, infinite true => some .gt
  | _, infinite false => some .lt
  | finite s m e, finite t n f =>
    let low := min e f
    some (compare (scaled s m e low) (scaled t n f low))

def lt (x y : Binary) : Bool := compare? x y == some .lt

def eq (x y : Binary) : Bool := compare? x y == some .eq

def le (x y : Binary) : Bool := lt x y || eq x y

def isZero : Binary → Bool
  | finite _ m _ => m == 0
  | _ => false

/-- A sum of signed mantissas at one exponent, rounded. A zero sum is positive. -/
def ofScaled (n : Int) (exponent : Int) : Binary :=
  ofRatio (n < 0) (n.natAbs * twoTo exponent.toNat) (twoTo (-exponent).toNat)

def add : Binary → Binary → Binary
  | nan k, _ => nan k
  | _, nan k => nan k
  | infinite s, infinite t => if s = t then infinite s else nan 0
  | infinite s, _ => infinite s
  | _, infinite t => infinite t
  | finite s m e, finite t n f =>
    if m = 0 && n = 0 then finite (s && t) 0 minExponent
    else
      let low := min e f
      ofScaled (scaled s m e low + scaled t n f low) low

def mul : Binary → Binary → Binary
  | nan k, _ => nan k
  | _, nan k => nan k
  | infinite s, infinite t => infinite (s != t)
  | infinite s, finite t n _ => if n = 0 then nan 0 else infinite (s != t)
  | finite s m _, infinite t => if m = 0 then nan 0 else infinite (s != t)
  | finite s m e, finite t n f =>
    ofRatio (s != t) (m * n * twoTo (e + f).toNat) (twoTo (-(e + f)).toNat)

def truncate? : Binary → Option Int
  | finite s m e =>
    let n : Int := (m * twoTo e.toNat / twoTo (-e).toNat : Nat)
    some (if s then -n else n)
  | _ => none

end Binary
end BlockAudit.Number
