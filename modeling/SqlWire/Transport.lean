import SqlWire.Frame
import SqlWire.Stateful
/-!
# The transport

The octets exchanged with the peer, as a value: what the peer sends, in what pieces it arrives,
where reading or writing starts to fail, and what has been sent. `length_of_readPacket` says that a
packet is never read from less than its own octets.
-/
namespace SqlWire

/-- Why a read from the transport came to nothing. -/
inductive ReadFault where
  /-- The stream ended after `got` of the `wanted` octets. -/
  | ended (got wanted : Nat)
  | failed (reason : String)

/-- A byte stream to and from the peer. -/
structure Transport where
  /-- What the peer sends and has not been read. -/
  incoming : Bytes
  consumed : Nat
  /-- How many octets the read with this number offers when so many are asked for. -/
  offers : (number asked : Nat) → Nat
  reads : Nat
  /-- Reads fail once so many octets have been read. -/
  readFault : Option (Nat × String)
  /-- Writes fail once so many packets have been written. -/
  writeFault : Option (Nat × String)
  closeFault : Option String
  /-- What has been written, packet by packet, newest first. -/
  sent : List Bytes

namespace Transport

/-- A peer that sends these octets, each read getting all that it asks for, without failures. -/
def ofPeer (incoming : Bytes) : Transport :=
  ⟨incoming, 0, fun _ asked => asked, 0, none, none, none, []⟩

def sentOctets (t : Transport) : Bytes := t.sent.reverse.flatten

/-! ## Writing -/

/-- Writes one packet; a write that fails delivers nothing. -/
def write (packet : Bytes) : EStateM String Transport Unit := fun t =>
  match t.writeFault with
  | some (limit, reason) =>
    if limit ≤ t.sent.length then .error reason t
    else .ok () { t with sent := packet :: t.sent }
  | none => .ok () { t with sent := packet :: t.sent }

/-! ## Reading -/

/-- How many octets a read of `asked` octets may deliver: at least one and none beyond the point
where reads fail. -/
def share (t : Transport) (asked : Nat) : Nat :=
  let offered := min asked (max 1 (t.offers t.reads asked))
  match t.readFault with
  | some (limit, _) => min offered (limit - t.consumed)
  | none => offered

/-- Takes what a read of `asked` octets delivers, nothing at the end of the stream. -/
def deliver (t : Transport) (asked : Nat) : Bytes × Transport :=
  let piece := t.incoming.take (t.share asked)
  (piece, { t with
    incoming := t.incoming.drop (t.share asked)
    consumed := t.consumed + piece.length
    reads := t.reads + 1 })

def read (asked : Nat) : EStateM String Transport Bytes := fun t =>
  match t.readFault with
  | some (limit, reason) =>
    if limit ≤ t.consumed then .error reason t
    else .ok (t.deliver asked).1 (t.deliver asked).2
  | none => .ok (t.deliver asked).1 (t.deliver asked).2

/-- Reads until `wanted` octets are there, behind `got` of them in `done`, newest first. -/
def readOnto (done : Bytes) (got wanted : Nat) : EStateM ReadFault Transport Bytes := fun t =>
  if got < wanted then
    match read (wanted - got) t with
    | .error reason t => .error (.failed reason) t
    | .ok [] t => .error (.ended got wanted) t
    | .ok (x :: piece) t =>
      readOnto (List.reverseAux piece (x :: done)) (got + (piece.length + 1)) wanted t
  else .ok done.reverse t
termination_by wanted - got

def readExactly (wanted : Nat) : EStateM ReadFault Transport Bytes := readOnto [] 0 wanted

def readPacket : EStateM ReadFault Transport Packet := do
  let header ← readExactly Frame.headerLength
  let payload ← readExactly (Bytes.value (header.take 3))
  return ⟨(Bytes.value (header.drop 3) : Nat), payload⟩

/-! ## How much a read takes -/

theorem length_deliver (t : Transport) (asked : Nat) :
    (t.deliver asked).2.incoming.length + (t.deliver asked).1.length = t.incoming.length := by
  simp only [deliver, List.length_drop, List.length_take]
  omega

theorem length_of_read {asked : Nat} {t t' : Transport} {b : Bytes} (h : read asked t = .ok b t') :
    t'.incoming.length + b.length = t.incoming.length := by
  unfold read at h
  split at h
  · split at h
    · cases h
    · cases h; exact t.length_deliver asked
  · cases h; exact t.length_deliver asked

theorem length_of_readOnto {done b : Bytes} {got wanted : Nat} {t t' : Transport}
    (h : readOnto done got wanted t = .ok b t') :
    t'.incoming.length + (wanted - got) ≤ t.incoming.length := by
  fun_induction readOnto done got wanted t with
  | case1 done got t hlt reason t1 hr => cases h
  | case2 done got t hlt t1 hr => cases h
  | case3 done got t hlt x piece t1 hr ih =>
    have h1 := ih h
    have h2 := length_of_read hr
    simp only [List.length_cons] at h2
    omega
  | case4 done got t hge =>
    cases h
    omega

theorem length_of_readExactly {b : Bytes} {wanted : Nat} {t t' : Transport}
    (h : readExactly wanted t = .ok b t') : t'.incoming.length + wanted ≤ t.incoming.length := by
  simpa using length_of_readOnto h

theorem length_of_readPacket {p : Packet} {t t' : Transport} (h : readPacket t = .ok p t') :
    t'.incoming.length + Frame.headerLength ≤ t.incoming.length := by
  obtain ⟨header, t1, h1, h⟩ := Stateful.bind_eq_ok.1 h
  obtain ⟨payload, t2, h2, h⟩ := Stateful.bind_eq_ok.1 h
  cases h
  have := length_of_readExactly h1
  have := length_of_readExactly h2
  omega

/-! ## All packets -/

/-- Reads packets behind those that are `done`, newest first, until the peer's octets are used up,
or with `pastEnd` until a read fails. -/
def readAllOnto (pastEnd : Bool) (done : List Packet) (t : Transport) :
    List Packet × Option ReadFault :=
  match _h : readPacket t with
  | .error e _ => (done.reverse, some e)
  | .ok p t =>
    if t.incoming.isEmpty && !pastEnd then ((p :: done).reverse, none)
    else readAllOnto pastEnd (p :: done) t
termination_by t.incoming.length
decreasing_by
  have := length_of_readPacket ‹_›
  simp only [Frame.headerLength] at this
  omega

/-- The packets that the peer sends, and the fault that ended the reading. At least one read is
tried. -/
def readAll (t : Transport) (pastEnd : Bool) : List Packet × Option ReadFault :=
  readAllOnto pastEnd [] t

end Transport

end SqlWire
