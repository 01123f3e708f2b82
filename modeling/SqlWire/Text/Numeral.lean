import SqlWire.Text.Blank
import SqlWire.Text.Digit
/-!
# Integer numerals

Integers as people write them: blanks around, a sign, digits of any script, and single underscores
between digits. A hexadecimal numeral may begin with `0x`, its zero of any script too, and the digits
may then begin with an underscore.
-/
namespace SqlWire.Text

/-- The blanks allowed around a numeral: of the ASCII ones only the six usual. -/
def isNumeralBlank (c : Char) : Bool :=
  if c.toNat < 0x80 then c = ' ' || ('\t' ≤ c && c ≤ '\r') else isBlank c

def trimNumeral (cs : List Char) : List Char :=
  ((cs.dropWhile isNumeralBlank).reverse.dropWhile isNumeralBlank).reverse

/-- What a digit is worth: letters count on from ten. -/
def digitIn (base : Nat) (c : Char) : Option Nat :=
  let worth :=
    if 'a' ≤ c ∧ c ≤ 'z' then some (c.toNat - 'a'.toNat + 10)
    else if 'A' ≤ c ∧ c ≤ 'Z' then some (c.toNat - 'A'.toNat + 10)
    else digitValue? c
  worth.filter (· < base)

/-- The digits' worths, where each underscore stands between two digits. `ready` says that a digit
stands right before. -/
def digitsOnto (base : Nat) (done : List Nat) (ready : Bool) : List Char → Option (List Nat)
  | [] => if ready then some done.reverse else none
  | c :: rest =>
    if c = '_' then if ready then digitsOnto base done false rest else none
    else match digitIn base c with
      | some d => digitsOnto base (d :: done) true rest
      | none => none

/-- The worths of at least one digit. -/
def digits? (base : Nat) (cs : List Char) : Option (List Nat) := digitsOnto base [] false cs

/-- The number with these digits, highest first. -/
def ofDigits (base : Nat) (ds : List Nat) : Nat := ds.foldl (fun n d => n * base + d) 0

/-- Takes a sign off the front; `true` is minus. -/
def takeSign : List Char → Bool × List Char
  | '-' :: rest => (true, rest)
  | '+' :: rest => (false, rest)
  | cs => (false, cs)

def applySign (negative : Bool) (n : Nat) : Int := if negative then -(n : Int) else n

/-- Longer decimal numerals are refused. -/
def maxDecimalDigits : Nat := 4300

def decimal? (cs : List Char) : Option Int := do
  let (negative, body) := takeSign (trimNumeral cs)
  let ds ← digits? 10 body
  if ds.length ≤ maxDecimalDigits then some (applySign negative (ofDigits 10 ds)) else none

/-- Takes a zero of any script with `x`, and an underscore behind them, off the front. -/
def takeHexPrefix : List Char → List Char
  | zero :: x :: rest =>
    if digitValue? zero = some 0 && (x = 'x' || x = 'X') then
      match rest with
      | '_' :: digits => digits
      | digits => digits
    else zero :: x :: rest
  | cs => cs

def hexadecimal? (cs : List Char) : Option Int := do
  let (negative, body) := takeSign (trimNumeral cs)
  return applySign negative (ofDigits 16 (← digits? 16 (takeHexPrefix body)))

end SqlWire.Text
