import SqlWire.Frame
import SqlWire.Text.Numeral
import SqlWire.Text.Split
/-!
# Hex dumps

A packet as lines of sixteen octets, in hexadecimal and as characters, and the reader of the
hexadecimal column.
-/
namespace SqlWire.HexDump

/-! ## Writing -/

def lineLength : Nat := 16

/-- An octet in the hexadecimal column; the eighth has a gap behind it. -/
def hexCell (place : Nat) (octet : UInt8) : List Char :=
  Text.hexPaddedUpper 2 octet.toNat ++ (if place = 7 then [' ', ' '] else [' '])

/-- An octet in the character column, a point if it is no visible ASCII. -/
def charCell (place : Nat) (octet : UInt8) : List Char :=
  let n := octet.toNat
  (if n < 32 ∨ 127 ≤ n then '.' else Char.ofNat n) :: (if place = 7 then [' '] else [])

/-- The cells of a line one after the other. -/
def cells (cell : Nat → UInt8 → List Char) (b : Bytes) : List Char :=
  (b.mapIdx cell).flatten

/-- The line of the octets that begin at an offset. -/
def line (offset : Nat) (b : Bytes) : List Char :=
  Text.hexPaddedUpper 8 offset ++ [' ', ' '] ++ cells hexCell b
    ++ List.replicate (3 * (lineLength - b.length)) ' ' ++ [' ', ' '] ++ cells charCell b ++ ['\n']

/-- The lines of the octets from an offset on, behind those that are `done`, newest first. -/
def linesOnto (done : List String) (offset : Nat) (b : Bytes) : List String :=
  if _h : b = [] then done.reverse
  else linesOnto (String.ofList (line offset (b.take lineLength)) :: done) (offset + lineLength)
    (b.drop lineLength)
termination_by b.length
decreasing_by
  have := List.length_pos_iff.2 ‹¬b = []›
  simp only [List.length_drop, lineLength]
  omega

/-- The line that names the packet, by its header and the first octet of its payload. -/
def title (packet : Bytes) : Except DecodeError String := do
  let lead := ((packet.drop Frame.headerLength).head?.map UInt8.toNat).getD 0
  let size ← Frame.size packet
  let sequence ← Frame.sequence packet
  return s!"Length: {size}, SequenceId: {sequence}, Header: {Marker.name lead}={lead} \n"

/-- The dump of a packet, which has a header. -/
def dump (packet : Bytes) : Except DecodeError String := do
  return String.join ((← title packet) :: linesOnto [] 0 packet)

/-! ## Reading -/

/-- Reads octets written in hexadecimal and set apart by spaces. -/
def parse (text : String) : Option Bytes :=
  ((Text.splitAt ' ' (Text.trim text.toList)).filter (!·.isEmpty)).mapM fun field => do
    let n ← Text.hexadecimal? field
    if 0 ≤ n ∧ n ≤ 0xFF then some (Bytes.lowOctet n) else none

end SqlWire.HexDump
