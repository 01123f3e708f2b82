import SqlWire.Frame
import SqlWire.Transport
import SqlWire.Wire.Encoding
/-!
# Failures

Everything that can go wrong between client and server, by its cause, and the classes that callers
tell apart.
-/
namespace SqlWire

structure ServerReport where
  errno : Int
  sqlState : String
  message : String

def ServerReport.shown (r : ServerReport) : String := s!"({r.errno}, {r.sqlState}) {r.message}"

/-! ## Classes -/

inductive ErrorClass where
  | transport
  /-- The peer sent what it must not send here. -/
  | protocol
  /-- The server reported an error. -/
  | server
  | handshake
  | query
  /-- The client cannot do this. -/
  | unsupported
  deriving DecidableEq

namespace ErrorClass

def name : ErrorClass → String
  | .transport => "TransportError"
  | .protocol => "ProtocolError"
  | .server => "ServerError"
  | .handshake => "HandshakeError"
  | .query => "QueryError"
  | .unsupported => "UnsupportedOperation"

/-- The classes that all failures belong to, the nearest first. -/
def general : List String := ["DatabaseError", "Error", "MySQLError", "Exception"]

/-- The names of the class and of those it belongs to, the nearest first. -/
def lineage (c : ErrorClass) : List String :=
  match c with
  | .transport => c.name :: "OperationalError" :: general
  | .protocol => c.name :: "InternalError" :: general
  | .server => c.name :: general
  | .handshake => c.name :: server.name :: general
  | .query => c.name :: server.name :: general
  | .unsupported => c.name :: "NotSupportedError" :: general

end ErrorClass

/-! ## Causes -/

/-- Why an address cannot even be tried. -/
inductive DialError where
  /-- The time limit is no number or below zero, or the host holds what no name does. -/
  | badValue
  /-- The port or the time limit is too large. -/
  | outOfRange
  /-- The host cannot be written as a name of the network. -/
  | badHost
  deriving DecidableEq

inductive Failure where
  | endOfStream (got wanted : Nat)
  | readFailed (reason : String)
  | writeFailed (reason : String)
  | unreachable (host : String) (port : Int) (reason : String)
  | undialable (e : DialError)
  | closed
  | malformed (e : DecodeError)
  | outOfOrder (received expected : Int)
  | badColumnCount (payload : Bytes)
  | noEof (columns : Nat) (payload : Bytes)
  | tooLong (size : Nat)
  | updateRefused (sql : String)
  | unsendable (e : EncodeError)
  | loginRefused (report : ServerReport)
  | queryRefused (report : ServerReport)

namespace Failure

/-- The class of a failure; that a message cannot be encoded, an address not be tried, or an octet not
be read where there is none, is none of the server's doing and has none. -/
def errorClass? : Failure → Option ErrorClass
  | .endOfStream .. | .readFailed _ | .writeFailed _ | .unreachable .. | .closed => some .transport
  | .malformed .noOctet => none
  | .malformed _ | .outOfOrder .. | .badColumnCount _ | .noEof .. => some .protocol
  | .tooLong _ | .updateRefused _ => some .unsupported
  | .unsendable _ | .undialable _ => none
  | .loginRefused _ => some .handshake
  | .queryRefused _ => some .query

def message : Failure → String
  | .endOfStream got wanted => s!"unexpected end of stream: {got} of {wanted} bytes read"
  | .readFailed reason => s!"read failed: {reason}"
  | .writeFailed reason => s!"write failed: {reason}"
  | .unreachable host port reason => s!"Can't connect to {host}:{port}: {reason}"
  | .closed => "Connection is closed"
  | .malformed e => e.message
  | .outOfOrder received expected => s!"packet sequence id {received} received, {expected} expected"
  | .badColumnCount payload => s!"invalid column count in query response: {quotedOctets payload}"
  | .noEof columns payload =>
    s!"EOF expected after {columns} column definitions, got {quotedOctets payload}"
  | .tooLong size => s!"payload of {size} bytes needs a multi-packet continuation"
  | .updateRefused sql => s!"Updates are not supported: {sql}"
  | .unsendable e => e.message
  | .undialable _ => ""
  | .loginRefused report => report.shown
  | .queryRefused report => report.shown

/-- The failure of a read that the transport could not do. -/
def ofRead : ReadFault → Failure
  | .ended got wanted => .endOfStream got wanted
  | .failed reason => .readFailed reason

/-- After such a failure client and server no longer agree on where they are. -/
def breaksStream (f : Failure) : Bool :=
  f.errorClass? = some .transport || f.errorClass? = some .protocol

end Failure

end SqlWire
