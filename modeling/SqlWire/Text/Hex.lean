/-!
# Hexadecimal digits
-/
namespace SqlWire.Text

def hexDigits : List Char := ['0', '1', '2', '3', '4', '5', '6', '7', '8', '9', 'a', 'b', 'c', 'd', 'e', 'f']

def hexDigitsUpper : List Char := ['0', '1', '2', '3', '4', '5', '6', '7', '8', '9', 'A', 'B', 'C', 'D', 'E', 'F']

/-- The low `width` hexadecimal digits of a number, highest first, by a list of digits. -/
def hexOf (digits : List Char) : (width : Nat) → (n : Nat) → List Char
  | 0, _ => []
  | width + 1, n => hexOf digits width (n / 16) ++ [digits[n % 16]?.getD '0']

/-- How many hexadecimal digits a number takes, at least one. -/
def hexWidth (n : Nat) : Nat := Nat.log2 n / 4 + 1

/-- In small digits, with zeros in front up to `width`. -/
def hexPadded (width n : Nat) : List Char := hexOf hexDigits (max width (hexWidth n)) n

/-- In capital digits, with zeros in front up to `width`. -/
def hexPaddedUpper (width n : Nat) : List Char := hexOf hexDigitsUpper (max width (hexWidth n)) n

end SqlWire.Text
