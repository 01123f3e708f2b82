import SqlWire.Text.Hex
import SqlWire.Text.Utf8
import SqlWire.Wire.Marker
/-!
# Reading the basic data types

A cursor goes through one payload. Every read checks first that enough octets are left, and a read
that fails leaves the cursor where its last completed part ended.
-/
namespace SqlWire

inductive DecodeError where
  /-- The payload ends before the `needed` octets do. -/
  | tooShort (needed offset : Int) (size : Nat)
  | badPrefix (octet : UInt8) (offset : Int)
  | noOctet

/-- The text of the error; that there is no octet has none. -/
def DecodeError.message : DecodeError → String
  | .tooShort needed offset size =>
    s!"packet too short: {needed} bytes needed at offset {offset}, payload is {size} bytes"
  | .badPrefix octet offset =>
    s!"invalid length encoded int prefix 0x{String.ofList (Text.hexPadded 2 octet.toNat)} at offset {offset}"
  | .noOctet => ""

/-- A place in a payload of `size` octets, with the octets from there on. -/
structure Cursor where
  offset : Nat
  rest : Bytes
  size : Nat

namespace Cursor

/-- At an offset of a payload, which may lie beyond its end. -/
def atOffset (payload : Bytes) (offset : Nat) : Cursor := ⟨offset, payload.drop offset, payload.length⟩

def start (payload : Bytes) : Cursor := ⟨0, payload, payload.length⟩

def hasMore (c : Cursor) : Bool := c.offset < c.size

/-- Past the next `n` octets. -/
def advance (c : Cursor) (n : Nat) : Cursor := ⟨c.offset + n, c.rest.drop n, c.size⟩

def toEnd (c : Cursor) : Cursor := ⟨c.size, [], c.size⟩

end Cursor

abbrev Decoder := EStateM DecodeError Cursor

namespace Decoder

/-! ## Octets and integers -/

/-- Fails unless `n` octets are left. -/
def require (n : Nat) : Decoder Unit := fun c =>
  if c.offset + n ≤ c.size then .ok () c else .error (.tooShort n c.offset c.size) c

def octets (n : Nat) : Decoder Bytes := do
  require n
  modifyGet fun c => (c.rest.take n, c.advance n)

def skip (n : Nat) : Decoder Unit := do
  require n
  modify fun c => c.advance n

/-- The number in a non-empty octet string. -/
def number (b : Bytes) : Except DecodeError Nat :=
  if b.isEmpty then .error .noOctet else .ok b.value

/-- An integer of `n` octets. -/
def fixedInt (n : Nat) : Decoder Nat := do
  require n
  let c ← get
  match number (c.rest.take n) with
  | .ok v => set (c.advance n); return v
  | .error e => throw e

/-- The octet that stands next, without passing over it. -/
def peek : Decoder UInt8 := do
  match (← get).rest with
  | octet :: _ => return octet
  | [] => throw .noOctet

/-- A length-encoded integer, or nothing for the marker of an absent value. -/
def lengthInt : Decoder (Option Nat) := do
  require 1
  let lead ← peek
  if lead < Marker.null then some <$> fixedInt 1
  else if lead = Marker.null then skip 1; return none
  else match Marker.lengthOctets lead with
    | some n => skip 1; some <$> fixedInt n
    | none => throw (.badPrefix lead (← get).offset)

/-! ## Strings -/

def fixedText (n : Nat) : Decoder String := Utf8.decode <$> octets n

/-- Text behind its length, or nothing for the marker of an absent value. -/
def nullableText : Decoder (Option String) := do
  match ← lengthInt with
  | none => return none
  | some n => some <$> fixedText n

/-- Text up to a zero octet, or to the end if there is none. -/
def terminatedText : Decoder String := do
  let c ← get
  let b := c.rest.takeWhile (· ≠ 0)
  set (if b.length < c.rest.length then c.advance (b.length + 1) else c.toEnd)
  return Utf8.decode b

/-- Text up to the end of the payload, less one zero octet that ends it. -/
def textToEnd : Decoder String := do
  let c ← get
  set c.toEnd
  return Utf8.decode (if c.rest.getLast? = some 0 then c.rest.dropLast else c.rest)

def hasMore : Decoder Bool := return (← get).hasMore

/-- The octet stands next. -/
def isNext (octet : UInt8) : Decoder Bool := do
  if ← hasMore then return (← peek) == octet else return false

def hasAtLeast (n : Nat) : Decoder Bool := do
  let c ← get
  return c.offset + n ≤ c.size

/-- Reads a whole payload from its beginning. -/
def read {α : Type} (d : Decoder α) (payload : Bytes) : Except DecodeError α :=
  match d (Cursor.start payload) with
  | .ok a _ => .ok a
  | .error e _ => .error e

end Decoder

end SqlWire
