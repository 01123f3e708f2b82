import SqlWire.Bytes
/-!
# UTF-8

Writing text as octets, and reading octets as text. Reading always succeeds: each longest piece
that could begin a character but does not finish one becomes a single replacement character. The
reader is a machine that takes one octet at a time.
-/
namespace SqlWire.Utf8

/-! ## Writing -/

def encodeChar (c : Char) : Bytes :=
  let n := c.toNat
  if n < 0x80 then [UInt8.ofNat n]
  else if n < 0x800 then [UInt8.ofNat (0xC0 + n / 0x40), UInt8.ofNat (0x80 + n % 0x40)]
  else if n < 0x10000 then
    [UInt8.ofNat (0xE0 + n / 0x1000), UInt8.ofNat (0x80 + n / 0x40 % 0x40),
      UInt8.ofNat (0x80 + n % 0x40)]
  else
    [UInt8.ofNat (0xF0 + n / 0x40000), UInt8.ofNat (0x80 + n / 0x1000 % 0x40),
      UInt8.ofNat (0x80 + n / 0x40 % 0x40), UInt8.ofNat (0x80 + n % 0x40)]

def encode (s : String) : Bytes := s.toList.flatMap encodeChar

/-! ## Reading -/

/-- Stands for octets that are no character. -/
def replacement : Char := '\uFFFD'

/-- Where the reader stands: between characters, or inside one with `tails` octets to come, the
next of them from `low` to `high`, and the scalar value read so far. -/
inductive State where
  | between
  | inside (tails low high scalar : Nat)

/-- The characters an octet finishes, newest first, and the state after it, from between
characters. -/
def first (b : Nat) : List Char × State :=
  if b < 0x80 then ([Char.ofNat b], .between)
  else if b < 0xC2 then ([replacement], .between)
  else if b < 0xE0 then ([], .inside 1 0x80 0xBF (b - 0xC0))
  else if b < 0xF0 then
    ([], .inside 2 (if b = 0xE0 then 0xA0 else 0x80) (if b = 0xED then 0x9F else 0xBF) (b - 0xE0))
  else if b < 0xF5 then
    ([], .inside 3 (if b = 0xF0 then 0x90 else 0x80) (if b = 0xF4 then 0x8F else 0xBF) (b - 0xF0))
  else ([replacement], .between)

/-- An octet that does not go on with the character begins the next one. -/
def step : State → Nat → List Char × State
  | .between, b => first b
  | .inside tails low high scalar, b =>
    if low ≤ b ∧ b ≤ high then
      if tails = 1 then ([Char.ofNat (scalar * 0x40 + (b - 0x80))], .between)
      else ([], .inside (tails - 1) 0x80 0xBF (scalar * 0x40 + (b - 0x80)))
    else ((first b).1 ++ [replacement], (first b).2)

/-- Reads octets on from a state, with the characters so far newest first. -/
def run (b : Bytes) (start : List Char × State) : List Char × State :=
  b.foldl (fun (done, state) octet =>
    let (found, next) := step state octet.toNat
    (found ++ done, next)) start

/-- A character cut short by the end is replaced too. -/
def close : List Char × State → List Char
  | (done, .between) => done.reverse
  | (done, .inside ..) => (replacement :: done).reverse

def decode (b : Bytes) : String := String.ofList (close (run b ([], .between)))

end SqlWire.Utf8
