import SqlWire.Wire.Cursor
import SqlWire.Wire.Encoding
/-!
# Reports

The three packets by which a server reports: success, an error, and the end of a list. Their
optional parts are read as far as they are there. The texts of a packet to send may be text or
octets; a packet that was read holds text.
-/
namespace SqlWire

variable {α β ε : Type}

/-! ## Success -/

structure OkPacket (α : Type) where
  affectedRows : Int
  lastInsertId : Int
  statusFlags : Int
  warnings : Int
  info : α

namespace OkPacket

/-- Nothing happened. -/
def initial : OkPacket String := ⟨0, 0, 0, 0, ""⟩

def mapText (f : α → β) (p : OkPacket α) : OkPacket β := { p with info := f p.info }

/-- What stands in front of the text. -/
def encodeNumbers (p : OkPacket α) : Except EncodeError Bytes := do
  let affected ← Encoding.lengthInt p.affectedRows
  let lastId ← Encoding.lengthInt p.lastInsertId
  return Marker.ok :: (affected ++ lastId ++ Bytes.ofInt 2 p.statusFlags ++ Bytes.ofInt 2 p.warnings)

def encode [Sendable α] (p : OkPacket α) : Except EncodeError Bytes := do
  return (← p.encodeNumbers) ++ Encoding.toEnd p.info

/-- A number that is absent, or the absent value, counts as zero. -/
def optionalNumber : Decoder Nat := do
  if ← Decoder.hasMore then return (← Decoder.lengthInt).getD 0
  else return 0

/-- The status, the warnings and the text are there if the first two are complete. -/
def decode : Decoder (OkPacket String) := do
  Decoder.skip 1
  let affected ← optionalNumber
  let lastId ← optionalNumber
  if ← Decoder.hasAtLeast 4 then
    let status ← Decoder.fixedInt 2
    let warnings ← Decoder.fixedInt 2
    return ⟨affected, lastId, status, warnings, ← Decoder.textToEnd⟩
  else return { initial with affectedRows := affected, lastInsertId := lastId }

end OkPacket

/-! ## An error -/

structure ErrPacket (α : Type) where
  errorCode : Int
  sqlState : α
  errorMessage : α

namespace ErrPacket

/-- The state of an error that names none. -/
def generalState : String := "HY000"

def initial : ErrPacket String := ⟨0, generalState, ""⟩

def mapText (f : α → β) (p : ErrPacket α) : ErrPacket β :=
  ⟨p.errorCode, f p.sqlState, f p.errorMessage⟩

/-- The packet with its texts replaced one after another, or the first failure at that. -/
def traverse (f : α → Except ε β) (p : ErrPacket α) : Except ε (ErrPacket β) := do
  return ⟨p.errorCode, ← f p.sqlState, ← f p.errorMessage⟩

/-- Stands before the state. -/
def stateMark : UInt8 := 0x23

def encode [Sendable α] (p : ErrPacket α) : Bytes :=
  Marker.err :: (Bytes.ofInt 2 p.errorCode ++ stateMark :: Encoding.padded 5 p.sqlState
    ++ Encoding.toEnd p.errorMessage)

/-- Servers leave out the state of errors from before the login. -/
def decode : Decoder (ErrPacket String) := do
  Decoder.skip 1
  let code ← if ← Decoder.hasMore then Decoder.fixedInt 2 else pure 0
  let state ←
    if ← Decoder.isNext stateMark then do
      Decoder.skip 1
      Decoder.fixedText 5
    else pure generalState
  return ⟨code, state, ← Decoder.textToEnd⟩

end ErrPacket

/-! ## The end of a list -/

/-- No more packets of this kind follow. -/
structure EofPacket where
  warnings : Int
  statusFlags : Int

namespace EofPacket

def initial : EofPacket := ⟨0, 0⟩

def encode (p : EofPacket) : Bytes :=
  Marker.eof :: (Bytes.ofInt 2 p.warnings ++ Bytes.ofInt 2 p.statusFlags)

def decode : Decoder EofPacket := do
  Decoder.skip 1
  if ← Decoder.hasAtLeast (Marker.eofMaxLength - 1) then
    let warnings ← Decoder.fixedInt 2
    let status ← Decoder.fixedInt 2
    return ⟨warnings, status⟩
  else return initial

end EofPacket

end SqlWire
