import SqlWire.Text.Numeral
/-!
# Binary floating point

Numbers of 64 bits as durations are given in: rounded to the nearest, ties to even, and written
with the fewest digits that read back. All arithmetic is exact.
-/
namespace SqlWire

/-- A binary floating-point number. A finite one is `mantissa * 2 ^ exponent`, with a mantissa of
53 bits unless the exponent is the least. -/
inductive Binary64 where
  | nan
  | infinite (negative : Bool)
  | finite (negative : Bool) (mantissa : Nat) (exponent : Int)
  deriving DecidableEq

namespace Binary64

/-! ## Rounding -/

/-- Mantissas are below this, and all but those of the least exponent at least half of it. -/
def mantissaBound : Nat := Nat.pow 2 53

def leastExponent : Int := -1074

def greatestExponent : Int := 971

/-- The integer nearest to `num / den`, the even one of two. -/
def roundDiv (num den : Nat) : Nat :=
  let q := num / den
  let twice := 2 * (num % den)
  if twice < den then q else if den < twice then q + 1 else q + q % 2

/-- `num / den` divided by `2 ^ e`, as a fraction. -/
def scaled (num den : Nat) (e : Int) : Nat × Nat :=
  if 0 ≤ e then (num, den * Nat.pow 2 e.toNat) else (num * Nat.pow 2 (-e).toNat, den)

/-- The exponent at which `num / den` has a mantissa of 53 bits, or the least. -/
def exponentOf (num den : Nat) : Int :=
  let e : Int := (num.log2 : Int) - (den.log2 : Int) - 52
  let (n, d) := scaled num den e
  max leastExponent (if n < d * (mantissaBound / 2) then e - 1 else e)

def ofRatio (negative : Bool) (num den : Nat) : Binary64 :=
  if num = 0 then .finite negative 0 leastExponent
  else
    let e := exponentOf num den
    let (n, d) := scaled num den e
    let m := roundDiv n d
    let (m, e) := if m = mantissaBound then (mantissaBound / 2, e + 1) else (m, e)
    if greatestExponent < e then .infinite negative else .finite negative m e

def digitCount (n : Nat) : Nat := (Nat.toDigits 10 n).length

/-- The number nearest to `digits * 10 ^ scale`. -/
def ofDecimal (negative : Bool) (digits : Nat) (scale : Int) : Binary64 :=
  let places : Int := digitCount digits + scale
  if digits = 0 ∨ places < -400 then .finite negative 0 leastExponent
  else if 400 < places then .infinite negative
  else if 0 ≤ scale then ofRatio negative (digits * Nat.pow 10 scale.toNat) 1
  else ofRatio negative digits (Nat.pow 10 (-scale).toNat)

def ofInt (n : Int) : Binary64 := ofDecimal (n < 0) n.natAbs 0

/-! ## Fewest digits -/

/-- The reals that round to a positive number, in quarters of its last place: from the first to the
second, and the ends belong to them if the mantissa is even. -/
def interval (m : Nat) (e : Int) : Nat × Nat :=
  (if m = mantissaBound / 2 ∧ leastExponent < e then 4 * m - 1 else 4 * m - 2, 4 * m + 2)

/-- A decimal `digits * 10 ^ scale`. -/
structure Decimal where
  digits : Nat
  scale : Int

/-- A decimal in quarters of the last place `2 ^ e`, as a fraction. -/
def Decimal.inQuarters (d : Decimal) (e : Int) : Nat × Nat :=
  let (n, k) : Nat × Nat :=
    if 0 ≤ d.scale then (d.digits * Nat.pow 10 d.scale.toNat, 1)
    else (d.digits, Nat.pow 10 (-d.scale).toNat)
  scaled n k (e - 2)

/-- The decimal rounds to the number. -/
def Decimal.roundsTo (d : Decimal) (m : Nat) (e : Int) : Bool :=
  let (n, k) := d.inQuarters e
  let (lo, hi) := interval m e
  if m % 2 = 0 then lo * k ≤ n ∧ n ≤ hi * k else lo * k < n ∧ n < hi * k

/-- How far a decimal is from the number, as a fraction of quarters. -/
def Decimal.distance (d : Decimal) (m : Nat) (e : Int) : Nat × Nat :=
  let (n, k) := d.inQuarters e
  (if n ≤ 4 * m * k then 4 * m * k - n else n - 4 * m * k, k)

/-- The number's two neighbours among the multiples of `10 ^ scale`. -/
def neighbours (m : Nat) (e scale : Int) : Decimal × Decimal :=
  let (n, k) := scaled m 1 (-e)
  let (n, k) :=
    if 0 ≤ scale then (n, k * Nat.pow 10 scale.toNat) else (n * Nat.pow 10 (-scale).toNat, k)
  (⟨n / k, scale⟩, ⟨n / k + 1, scale⟩)

/-- The multiple of `10 ^ scale` that rounds to the number: the nearer of two, then the even one. -/
def onGrid (m : Nat) (e scale : Int) : Option Decimal :=
  let (lo, hi) := neighbours m e scale
  match lo.roundsTo m e, hi.roundsTo m e with
  | false, false => none
  | true, false => some lo
  | false, true => some hi
  | true, true =>
    let (a, k) := lo.distance m e
    let (b, l) := hi.distance m e
    if a * l < b * k then some lo
    else if b * k < a * l then some hi
    else if lo.digits % 2 = 0 then some lo else some hi

/-- The power of ten of the number's first digit. -/
def leadingPower (m : Nat) (e : Int) : Int :=
  let (n, k) := scaled m 1 (-e)
  if k ≤ n then (digitCount (n / k) : Int) - 1
  else
    -- the first power that the number reaches, from above
    let guess : Int := -((digitCount (k / n) : Int) - 1)
    if k ≤ n * Nat.pow 10 (-guess).toNat then guess else guess - 1

/-- The decimal with the fewest digits that rounds to the number. -/
def shortest (m : Nat) (e : Int) : Decimal :=
  let lead := leadingPower m e
  ((List.range 17).findSome? fun (n : Nat) => onGrid m e (lead - n)).getD ⟨m, 0⟩

/-! ## Text -/

/-- Exponents from here on are not written, up to the next one. -/
def leastPlain : Int := -4

/-- From this exponent on it is written. -/
def plainBound : Int := 16

/-- Digits with a point behind the first `places`, zeros filling up. -/
def positional (ds : List Char) (places : Int) : List Char :=
  if places ≤ 0 then '0' :: '.' :: (List.replicate (-places).toNat '0' ++ ds)
  else
    let n := places.toNat
    let whole := ds.take n ++ List.replicate (n - ds.length) '0'
    whole ++ '.' :: (if ds.length ≤ n then ['0'] else ds.drop n)

/-- Digits with a point behind the first, and an exponent of at least two digits. -/
def scientific (ds : List Char) (exponent : Int) : List Char :=
  let mantissa := match ds with
    | [d] => [d]
    | d :: rest => d :: '.' :: rest
    | [] => []
  let digits := Nat.toDigits 10 exponent.natAbs
  mantissa ++ 'e' :: (if exponent < 0 then '-' else '+') :: ((if digits.length < 2 then ['0'] else []) ++ digits)

/-- The text of a positive finite number. -/
def magnitude (m : Nat) (e : Int) : List Char :=
  let d := shortest m e
  let all := Nat.toDigits 10 d.digits
  let ds := (all.reverse.dropWhile (· = '0')).reverse
  let exponent : Int := (all.length : Int) - 1 + d.scale
  if leastPlain ≤ exponent ∧ exponent < plainBound then positional ds (exponent + 1)
  else scientific ds exponent

/-- The text with the fewest digits that reads back as the number. -/
def shown : Binary64 → String
  | .nan => "nan"
  | .infinite negative => if negative then "-inf" else "inf"
  | .finite negative m e =>
    let body := if m = 0 then ['0', '.', '0'] else magnitude m e
    String.ofList (if negative then '-' :: body else body)

/-! ## Reading -/

/-- Digits with underscores between them, or none at all. -/
def optionalDigits (cs : List Char) : Option (List Nat) :=
  if cs.isEmpty then some [] else Text.digits? 10 cs

/-- Whole digits and digits behind a point, not both missing. -/
def mantissa? (cs : List Char) : Option (List Nat × List Nat) := do
  let whole ← optionalDigits (cs.takeWhile (· ≠ '.'))
  let part ← optionalDigits ((cs.dropWhile (· ≠ '.')).drop 1)
  if whole.isEmpty && part.isEmpty then none else some (whole, part)

def exponent? (cs : List Char) : Option Int := do
  let (negative, body) := Text.takeSign cs
  return Text.applySign negative (Text.ofDigits 10 (← Text.digits? 10 body))

def isExponentMark (c : Char) : Bool := c = 'e' || c = 'E'

/-- A decimal with an optional exponent. -/
def decimal? (negative : Bool) (cs : List Char) : Option Binary64 := do
  let (whole, part) ← mantissa? (cs.takeWhile (!isExponentMark ·))
  let exponent ← match cs.dropWhile (!isExponentMark ·) with
    | [] => some 0
    | _ :: rest => exponent? rest
  return ofDecimal negative (Text.ofDigits 10 (whole ++ part)) (exponent - part.length)

def smallAscii (c : Char) : Char := if 'A' ≤ c ∧ c ≤ 'Z' then Char.ofNat (c.toNat + 32) else c

/-- Reads a number with blanks around it: a decimal, an infinity, or no number at all. -/
def parse? (cs : List Char) : Option Binary64 :=
  let (negative, body) := Text.takeSign (Text.trimNumeral cs)
  let word := String.ofList (body.map smallAscii)
  if word = "inf" ∨ word = "infinity" then some (.infinite negative)
  else if word = "nan" then some .nan
  else decimal? negative body

end Binary64

end SqlWire
