import SqlWire.Message.Column
import SqlWire.Message.Greeting
import SqlWire.Message.Login
import SqlWire.Message.Report
/-!
# Messages

Everything that can be sent as the payload of a packet.
-/
namespace SqlWire

/-- A statement for the server to run. -/
def statementPayload {α : Type} [Sendable α] (sql : α) : Bytes :=
  Marker.query :: Encoding.toEnd sql

def decodeStatement : Decoder String := do
  Decoder.skip 1
  Decoder.textToEnd

inductive Message where
  | ok (p : OkPacket Datum)
  | err (p : ErrPacket Datum)
  | eof (p : EofPacket)
  | statement (sql : Datum)
  | column (p : ColumnPacket Datum)
  | greeting (g : Greeting Datum)
  | login (p : LoginPacket Datum)
  | row (values : List (Option Datum))
  | octets (payload : Bytes)
  | blank

namespace Message

/-- The payload of a message; a blank message has none, and one with a text that has no octets neither. -/
def payload : Message → Except EncodeError Bytes
  | .ok p => do return (← p.encodeNumbers) ++ Encoding.toEnd (← p.info.octets)
  | .err p => do return (← p.traverse Datum.octets).encode
  | .eof p => return p.encode
  | .statement sql => do return statementPayload (← sql.octets)
  | .column p => do return (← p.traverse Datum.octets).encode
  | .greeting g => do return (← g.traverse Datum.octets).encode
  | .login p => do return (← p.traverse Datum.octets).encode
  | .row values => do return Row.encode (← Row.traverse Datum.octets values)
  | .octets b => return b
  | .blank => throw .noPayload

section Statement

variable {sql : Datum}

theorem payload_statement {query : Bytes} (h : sql.octets = .ok query) :
    (statement sql).payload = .ok (statementPayload query) := by
  simp only [payload, h]
  rfl

theorem payload_statement_error {e : EncodeError} (h : sql.octets = .error e) :
    (statement sql).payload = .error e := by
  simp only [payload, h]
  rfl

end Statement

end Message

end SqlWire
