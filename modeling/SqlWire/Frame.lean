import SqlWire.Text.Quoted
import SqlWire.Wire.Cursor
/-!
# Frames

On the wire a packet is a header, three octets of length and one of sequence id, and the payload.
-/
namespace SqlWire

/-- A packet without a meaning yet. -/
structure Packet where
  sequence : Int
  payload : Bytes

namespace Packet

def shown (p : Packet) : String :=
  s!"RawPacket(sequenceId={p.sequence}, payload={quotedOctets p.payload})"

end Packet

namespace Frame

/-- The most octets that one packet holds. -/
def maxPayload : Nat := 0xFFFFFF

def headerLength : Nat := 4

def header (size : Nat) (sequence : Int) : Bytes := Bytes.ofInt 3 size ++ [Bytes.lowOctet sequence]

/-- The frame of a payload that fits one packet, or the length of one that does not. -/
def encode (payload : Bytes) (sequence : Int) : Except Nat Bytes :=
  let size := payload.length
  if maxPayload < size then .error size else .ok (header size sequence ++ payload)

def size (b : Bytes) : Except DecodeError Nat := Decoder.read (Decoder.fixedInt 3) b

def sequence (b : Bytes) : Except DecodeError Nat :=
  match Decoder.fixedInt 1 (Cursor.atOffset b 3) with
  | .ok n _ => .ok n
  | .error e _ => .error e

end Frame

end SqlWire
