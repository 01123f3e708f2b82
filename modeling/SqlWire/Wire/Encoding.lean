import SqlWire.Datum
import SqlWire.Wire.Marker
/-!
# Writing the basic data types

Length-encoded integers in their shortest form, and the four kinds of strings: behind their
length, up to a zero octet, of a fixed size, and up to the end of the packet. The octets of a datum are
found first, which may fail, and are then written as such a string.
-/
namespace SqlWire

inductive EncodeError where
  | negativeLength (value : Int)
  | octetRange (value : Int)
  | negativeSize (size : Int)
  | noPayload
  /-- UTF-8 has no octets for a text. -/
  | loneSurrogate (text : LooseText)

/-- The text of the error; those about ranges and surrogates have none. -/
def EncodeError.message : EncodeError → String
  | .negativeLength v => s!"Cannot build a negative length encoded int: {v}"
  | .octetRange _ => ""
  | .negativeSize _ => ""
  | .noPayload => "getPayload"
  | .loneSurrogate _ => ""

/-- The octets that the datum travels as. -/
def Datum.octets : Datum → Except EncodeError Bytes
  | .text (.plain s) => .ok (Utf8.encode s)
  | .text (.loose t) => .error (.loneSurrogate t)
  | .raw b => .ok b

/-- Lone surrogates are all that a datum may lack octets for. -/
theorem Datum.octets_cases (d : Datum) :
    (∃ b, d.octets = .ok b) ∨ ∃ t, d.octets = .error (.loneSurrogate t) := by
  match d with
  | .text (.plain s) => exact .inl ⟨_, rfl⟩
  | .text (.loose t) => exact .inr ⟨_, rfl⟩
  | .raw b => exact .inl ⟨_, rfl⟩

namespace Encoding

/-! ## Integers -/

/-- A size that is not negative. -/
def checkedSize (size : Int) : Except EncodeError Nat :=
  if 0 ≤ size then .ok size.toNat else .error (.negativeSize size)

/-- An integer in `size` octets, of which it keeps the low ones. -/
def fixedInt (size value : Int) : Except EncodeError Bytes := do
  return Bytes.ofInt (← checkedSize size) value

/-- The shortest length-encoded form; from `2 ^ 64` on only the low eight octets are kept. -/
def length (n : Nat) : Bytes :=
  if n < Marker.null.toNat then Bytes.ofInt 1 n
  else if n ≤ 0xFFFF then Marker.length2 :: Bytes.ofInt 2 n
  else if n ≤ 0xFFFFFF then Marker.length3 :: Bytes.ofInt 3 n
  else Marker.length8 :: Bytes.ofInt 8 n

/-- A length-encoded integer, which is not negative. -/
def lengthInt (value : Int) : Except EncodeError Bytes :=
  if value < 0 then .error (.negativeLength value) else .ok (length value.toNat)

def octet (value : Int) : Except EncodeError Bytes :=
  if 0 ≤ value ∧ value ≤ 0xFF then .ok [Bytes.lowOctet value] else .error (.octetRange value)

/-- `size` times the same octet. -/
def filler (size fill : Int) : Except EncodeError Bytes := do
  let n ← checkedSize size
  if n = 0 ∨ (0 ≤ fill ∧ fill ≤ 0xFF) then .ok (List.replicate n (Bytes.lowOctet fill))
  else .error (.octetRange fill)

def zeros (size : Nat) : Bytes := List.replicate size 0

/-! ## Strings -/

variable {α : Type} [Sendable α]

def counted (value : α) : Bytes :=
  let b := Sendable.octets value
  length b.length ++ b

/-- Behind its length, or the marker of an absent value. -/
def nullable : Option α → Bytes
  | none => [Marker.null]
  | some value => counted value

def terminated (value : α) : Bytes := Sendable.octets value ++ [0]

/-- The first `size` octets, filled up with zeros. -/
def padded (size : Nat) (value : α) : Bytes :=
  let b := (Sendable.octets value).take size
  b ++ zeros (size - b.length)

/-- Up to the end of the packet. -/
def toEnd (value : α) : Bytes := Sendable.octets value

end Encoding

end SqlWire
