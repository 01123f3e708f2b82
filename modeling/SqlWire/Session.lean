import SqlWire.Failure
import SqlWire.HexDump
import SqlWire.Journal
import SqlWire.Message
/-!
# Sessions

Packets over a transport, with the sequence id that the next one is to carry. Every packet of a
command cycle, sent or received, takes the next id, modulo 256.
-/
namespace SqlWire

/-- A stream of packets. -/
structure Session where
  /-- The id of the next packet. -/
  sequence : Int
  transport : Transport
  journal : Journal

abbrev Exchange := EStateM Failure Session

namespace Session

def succId (id : Int) : Int := (id + 1) % 256

def start (transport : Transport) (journal : Journal) : Session := ⟨0, transport, journal⟩

/-! ## The journal -/

def note (level : Level) (message : String) : Exchange Unit :=
  modify fun s => { s with journal := s.journal.note level message }

/-- Notes the hex dump of a frame, if the journal keeps records of that level. -/
def noteDump (frame : Bytes) : Exchange Unit := fun s =>
  if s.journal.keeps Level.debug then
    match HexDump.dump frame with
    | .ok text => note Level.debug text s
    | .error e => .error (.malformed e) s
  else .ok () s

/-! ## Packets -/

def reset : Exchange Unit := modify fun s => { s with sequence := 0 }

def takeId : Exchange Int :=
  modifyGet fun s => (s.sequence, { s with sequence := succId s.sequence })

/-- The next packet, whatever its id. -/
def receiveAny : Exchange Packet := fun s =>
  match s.transport.readPacket with
  | .error e t => .error (.ofRead e) { s with transport := t }
  | .ok p t =>
    match noteDump (Frame.header p.payload.length p.sequence ++ p.payload)
      { s with transport := t } with
    | .ok () s => .ok p s
    | .error e s => .error e s

/-- The next packet, which must carry the next id. -/
def receive : Exchange Packet := do
  let p ← receiveAny
  let expected ← takeId
  if p.sequence = expected then return p else throw (.outOfOrder p.sequence expected)

/-- The first packet of a connection, whose id is taken over. -/
def receiveGreeting : Exchange Packet := do
  let p ← receiveAny
  modify fun s => { s with sequence := succId p.sequence }
  return p

/-- Hands a frame to the transport. -/
def transmit (frame : Bytes) : Exchange Unit := fun s =>
  match s.transport.write frame with
  | .ok () t => .ok () { s with transport := t }
  | .error reason t => .error (.writeFailed reason) { s with transport := t }

/-- What was to be written, if it could be. -/
def writable {α : Type} : Except EncodeError α → Exchange α
  | .ok a => pure a
  | .error e => throw (.unsendable e)

/-- Sends a message in a packet with the next id, and returns the id. -/
def send (m : Message) : Exchange Int := do
  let id := (← get).sequence
  match m.payload with
  | .error e => throw (.unsendable e)
  | .ok payload =>
    match Frame.encode payload id with
    | .error size => throw (.tooLong size)
    | .ok frame =>
      noteDump frame
      transmit frame
      takeId

/-- Reads a packet's payload as what it must be. -/
def parse {α : Type} (d : Decoder α) (payload : Bytes) : Exchange α :=
  match d.read payload with
  | .ok a => pure a
  | .error e => throw (.malformed e)

/-- The server's error in a payload. -/
def parseReport (payload : Bytes) : Exchange ServerReport := do
  let e ← parse ErrPacket.decode payload
  return ⟨e.errorCode, e.sqlState, e.errorMessage⟩

/-- How a server's error is noted. -/
def reportLine (r : ServerReport) : String := s!"{r.errno} {r.sqlState} {r.message}"

/-! ## How much a receive takes -/

theorem transport_of_noteDump {frame : Bytes} {u : Unit} {s s' : Session}
    (h : noteDump frame s = .ok u s') : s'.transport = s.transport := by
  unfold noteDump at h
  split at h
  · split at h
    · cases h; rfl
    · cases h
  · cases h; rfl

theorem length_of_receiveAny {p : Packet} {s s' : Session} (h : receiveAny s = .ok p s') :
    s'.transport.incoming.length < s.transport.incoming.length := by
  unfold receiveAny at h
  split at h
  · cases h
  · rename_i q t hread
    have hlen := Transport.length_of_readPacket hread
    split at h
    · rename_i s1 hdump
      cases h
      rw [transport_of_noteDump hdump]
      exact Nat.lt_of_lt_of_le (Nat.lt_add_of_pos_right (by decide)) hlen
    · cases h

theorem length_of_receive {p : Packet} {s s' : Session} (h : receive s = .ok p s') :
    s'.transport.incoming.length < s.transport.incoming.length := by
  obtain ⟨q, s1, h1, h⟩ := Stateful.bind_eq_ok.1 h
  obtain ⟨id, s2, h2, h⟩ := Stateful.bind_eq_ok.1 h
  have hlen := length_of_receiveAny h1
  cases h2
  split at h
  · cases h; exact hlen
  · cases h

end Session

end SqlWire
