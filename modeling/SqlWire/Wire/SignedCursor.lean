import SqlWire.Wire.Cursor
/-!
# Reading at signed offsets

A cursor that may stand in front of its payload, and that goes backwards over a negative size. An
offset in front of the payload counts from the payload's end. Where neither offset nor size is
negative, a read is that of an ordinary cursor.
-/
namespace SqlWire

/-- A place in a payload, or in front of it. -/
structure SignedCursor where
  payload : Bytes
  offset : Int

namespace SignedCursor

/-- How many octets stand before an offset. -/
def before (c : SignedCursor) (offset : Int) : Nat :=
  (if offset < 0 then offset + c.payload.length else offset).toNat

/-- The octets between two offsets. -/
def slice (c : SignedCursor) (first last : Int) : Bytes :=
  (c.payload.take (c.before last)).drop (c.before first)

/-- The ordinary cursor at the same place. -/
def toCursor (c : SignedCursor) : Cursor := .atOffset c.payload (c.before c.offset)

end SignedCursor

/-- A read at a signed offset. -/
abbrev SignedDecoder := EStateM DecodeError SignedCursor

namespace SignedDecoder

/-- A read of an ordinary cursor. -/
def ofDecoder {α : Type} (d : Decoder α) : SignedDecoder α := fun c =>
  match d c.toCursor with
  | .ok a k => .ok a { c with offset := k.offset }
  | .error e k => .error e { c with offset := k.offset }

/-- Fails if the next `n` octets reach beyond the end. -/
def require (n : Int) : SignedDecoder Unit := fun c =>
  if c.offset + n ≤ c.payload.length then .ok () c
  else .error (.tooShort n c.offset c.payload.length) c

/-- A read of `n` octets: that of an ordinary cursor, or `other` if offset or size is negative. -/
def sized {α : Type} (n : Int) (d : Nat → Decoder α) (other : SignedDecoder α) : SignedDecoder α :=
  fun c => if 0 ≤ c.offset ∧ 0 ≤ n then ofDecoder (d n.toNat) c else other c

def skip (n : Int) : SignedDecoder Unit := sized n Decoder.skip do
  require n
  modify fun c => { c with offset := c.offset + n }

/-- The octets between the offset and that of `n` octets later. -/
def octets (n : Int) : SignedDecoder Bytes := sized n Decoder.octets do
  let c ← get
  skip n
  return c.slice c.offset (c.offset + n)

def fixedText (n : Int) : SignedDecoder String := Utf8.decode <$> octets n

def fixedInt (n : Int) : SignedDecoder Nat := sized n Decoder.fixedInt do
  let c ← get
  require n
  match Decoder.number (c.slice c.offset (c.offset + n)) with
  | .ok v => skip n; return v
  | .error e => throw e

/-- A length-encoded integer, or nothing for the marker of an absent value. An offset further in
front than the payload is long has no octet. -/
def lengthInt : SignedDecoder (Option Nat) := fun c =>
  if 0 ≤ c.offset then ofDecoder Decoder.lengthInt c
  else if c.offset + c.payload.length < 0 then .error .noOctet c
  else (do
    let lead := c.toCursor.rest.headD 0
    if lead < Marker.null then some <$> fixedInt 1
    else if lead = Marker.null then skip 1; return none
    else match Marker.lengthOctets lead with
      | some n => skip 1; some <$> fixedInt n
      | none => throw (.badPrefix lead c.offset) : SignedDecoder (Option Nat)) c

def nullableText : SignedDecoder (Option String) := fun c =>
  if 0 ≤ c.offset then ofDecoder Decoder.nullableText c
  else (do
    match ← lengthInt with
    | none => return none
    | some n => some <$> fixedText n : SignedDecoder (Option String)) c

def terminatedText : SignedDecoder String := ofDecoder Decoder.terminatedText

/-- Text up to the end of the payload, less one zero octet that ends it. In front of an empty payload
there is no last octet. -/
def textToEnd : SignedDecoder String := fun c =>
  if c.offset < 0 ∧ c.payload = [] then .error .noOctet c else ofDecoder Decoder.textToEnd c

def hasMore : SignedDecoder Bool := return (← get).offset < (← get).payload.length

end SignedDecoder

end SqlWire
