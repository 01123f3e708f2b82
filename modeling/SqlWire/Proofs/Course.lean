import SqlWire.Proofs.Delimited
/-!
# The course of one run

What an exchange does from one session, on a transport that may fail at any point. Reads get what
arrives before the stream ends or breaks, so a packet is received just where its frame arrives, and
a message is sent just where it fits one packet and the transport still writes.
-/
namespace SqlWire

open Stateful

namespace Transport

variable {t : Transport}

/-- The octets that arrive before the stream ends or reads fail. -/
def arriving (t : Transport) : Bytes := t.incoming.take t.reach

@[simp] theorem length_arriving (t : Transport) : t.arriving.length = t.reach := by
  have hle := t.reach_le
  simp only [arriving, List.length_take]
  omega

/-- What comes first of what arrives comes first of all there is. -/
theorem incoming_of_arriving {b rest : Bytes} (h : t.arriving = b ++ rest) :
    t.incoming = b ++ (rest ++ t.incoming.drop t.reach) := by
  rw [← List.append_assoc, ← h, arriving, List.take_append_drop]

theorem length_le_reach {b rest : Bytes} (h : t.arriving = b ++ rest) : b.length ≤ t.reach := by
  have hlen := congrArg List.length h
  rw [length_arriving, List.length_append] at hlen
  omega

/-! ## Writing -/

/-- The next packet gets through. -/
def Writable (t : Transport) : Prop :=
  ∀ limit reason, t.writeFault = some (limit, reason) → t.sent.length < limit

theorem write_of_writable (h : t.Writable) (packet : Bytes) :
    t.write packet = .ok () { t with sent := packet :: t.sent } := by
  unfold write
  split
  · next limit reason hf =>
    have hlt := h limit reason hf
    rw [if_neg (by omega)]
  · rfl

/-- A write that fails delivers nothing. -/
theorem write_of_not_writable (h : ¬ t.Writable) (packet : Bytes) :
    ∃ reason, t.write packet = .error reason t := by
  cases hf : t.writeFault with
  | none => exact absurd (fun _ _ he => by rw [hf] at he; cases he) h
  | some fault =>
    obtain ⟨limit, reason⟩ := fault
    have hle : limit ≤ t.sent.length := by
      refine Nat.le_of_not_lt fun hlt => h fun limit' reason' he => ?_
      rw [hf] at he
      cases he
      exact hlt
    exact ⟨reason, by simp only [write, hf]; rw [if_pos hle]⟩

end Transport

namespace Session

variable {α β : Type} {x : Exchange α} {f : α → Exchange β} {s s' : Session} {b b' rest : Bytes}
  {ps ps' : List Bytes} {id id' : Int} {a : α}

/-- What was taken of the octets that arrive leaves the others. -/
theorem Moves.arriving_eq (h : Moves s b ps s') (hb : s.transport.arriving = b ++ rest) :
    s'.transport.arriving = rest := by
  have hle := Transport.length_le_reach hb
  have hlen := congrArg List.length h.incoming
  have hreach : s'.transport.reach = s.transport.reach - b.length := by
    rw [List.length_append] at hlen
    cases hf : s.transport.readFault with
    | none => simp only [Transport.reach, h.readFault, hf] at hle ⊢; omega
    | some fault => simp only [Transport.reach, h.readFault, hf, h.consumed] at hle ⊢; omega
  rw [Transport.arriving, h.incoming, List.take_append, List.take_of_length_le hle] at hb
  rw [Transport.arriving, hreach]
  exact List.append_cancel_left hb

/-- Reading does not change whether the next packet gets through. -/
theorem Moves.writable_iff (h : Moves s b [] s') : s'.transport.Writable ↔ s.transport.Writable := by
  simp [Transport.Writable, h.writeFault, h.sent]

/-- From `s` the exchange ends as `r` after taking the octets `taken` and writing `packets`, with
`id'` next. -/
structure Course (x : Exchange α) (s : Session) (r : Except Failure α) (taken : Bytes)
    (packets : List Bytes) (id' : Int) : Prop where
  outcome_eq : outcome (x s) = r
  moves : Moves s taken packets (final (x s))
  sequence : (final (x s)).sequence = id'

namespace Course

theorem of_eq {y : Exchange α} {r : Except Failure α} (h : x s = y s) (hy : Course y s r b ps id) :
    Course x s r b ps id := by
  constructor
  · rw [h]
    exact hy.outcome_eq
  · rw [h]
    exact hy.moves
  · rw [h]
    exact hy.sequence

/-! ## Steps in a row -/

theorem bind {r : Except Failure β} (hx : Course x s (.ok a) b ps id)
    (hf : Course (f a) (final (x s)) r b' ps' id') : Course (x >>= f) s r (b ++ b') (ps ++ ps') id' := by
  have h : (x >>= f) s = f a (final (x s)) := bind_of_ok hx.outcome_eq
  constructor
  · rw [h]
    exact hf.outcome_eq
  · rw [h]
    exact hx.moves.trans hf.moves
  · rw [h]
    exact hf.sequence

theorem bind_error {e : Failure} (hx : Course x s (.error e) b ps id) :
    Course (x >>= f) s (.error e) b ps id := by
  have h : (x >>= f) s = .error e (final (x s)) := bind_of_error hx.outcome_eq
  constructor
  · rw [h]
    rfl
  · rw [h]
    exact hx.moves
  · rw [h]
    exact hx.sequence

/-- A first step that takes, writes and counts nothing. -/
theorem silent_bind {r : Except Failure β} (hx : Course x s (.ok a) [] [] s.sequence)
    (hf : ∀ s', Moves s [] [] s' → s'.sequence = s.sequence → Course (f a) s' r b ps id) :
    Course (x >>= f) s r b ps id :=
  hx.bind (hf _ hx.moves hx.sequence)

/-- A second step that takes and writes nothing. -/
theorem bind_silent {r : Except Failure β} (hx : Course x s (.ok a) b ps id)
    (hf : ∀ s', s'.sequence = id → Course (f a) s' r [] [] id') : Course (x >>= f) s r b ps id' := by
  have h := hx.bind (hf _ hx.sequence)
  rwa [List.append_nil, List.append_nil] at h

/-- What is made of a value changes nothing else. -/
theorem map {r : Except Failure α} (hx : Course x s r b ps id) (g : α → β) :
    Course (x >>= fun a => pure (g a)) s (r.map g) b ps id := by
  obtain ⟨ho, hf⟩ := bind_pure (x := x) (s := s) g
  constructor
  · rw [ho, hx.outcome_eq]
  · rw [hf]
    exact hx.moves
  · rw [hf]
    exact hx.sequence

end Course

/-! ## Steps that only look -/

theorem course_pure (a : α) : Course (pure a) s (.ok a) [] [] s.sequence :=
  ⟨rfl, .of_transport_eq rfl, rfl⟩

theorem course_throw (e : Failure) : Course (throw e : Exchange α) s (.error e) [] [] s.sequence :=
  ⟨rfl, .of_transport_eq rfl, rfl⟩

theorem course_note (level : Level) (message : String) :
    Course (note level message) s (.ok ()) [] [] s.sequence :=
  ⟨rfl, .of_transport_eq rfl, rfl⟩

theorem course_parse (d : Decoder α) (payload : Bytes) :
    Course (parse d payload) s (parsed d payload) [] [] s.sequence := by
  unfold parse parsed
  cases d.read payload with
  | ok a => exact course_pure a
  | error e => exact course_throw _

theorem course_noteDump (p : Packet) : Course (noteDump p.frame) s (.ok ()) [] [] s.sequence := by
  obtain ⟨j, h⟩ := noteDump_of_frame p.headerLength_le_frame s
  constructor
  · rw [h]
    rfl
  · rw [h]
    exact .of_transport_eq rfl
  · rw [h]
    rfl

/-! ## Errors of the server -/

/-- The error that a payload reports, or why it cannot be read as one. -/
def reportedAs (wrap : ServerReport → Failure) (payload : Bytes) : Failure :=
  match ErrPacket.decode.read payload with
  | .ok e => wrap ⟨e.errorCode, e.sqlState, e.errorMessage⟩
  | .error e => .malformed e

/-- The error is noted, and thrown. -/
theorem course_reported (payload : Bytes) (wrap : ServerReport → Failure) (line : ServerReport → String) :
    Course (parseReport payload >>= fun r => note Level.warning (line r) >>= fun _ => throw (wrap r) :
      Exchange α) s (.error (reportedAs wrap payload)) [] [] s.sequence := by
  have hparse := course_parse (s := s) ErrPacket.decode payload
  unfold parsed at hparse
  unfold reportedAs
  cases h : ErrPacket.decode.read payload with
  | error e =>
    rw [h] at hparse
    exact hparse.bind_error.bind_error
  | ok e =>
    rw [h] at hparse
    refine (hparse.bind_silent fun s1 hid => hid ▸ course_pure _).silent_bind fun s1 _ hid => ?_
    rw [← hid]
    refine (course_note _ _).silent_bind fun s2 _ hid => ?_
    rw [← hid]
    exact course_throw _

/-! ## Receiving -/

/-- Octets that end inside a frame are taken, and the transport is why there is no packet. -/
theorem course_receiveAny_of_short (h : Frame.Short s.transport.arriving) :
    ∃ e : Failure, e.errorClass? = some .transport ∧
      Course receiveAny s (.error e) s.transport.arriving [] s.sequence := by
  obtain ⟨got, wanted, r, hread⟩ := Transport.readPacket_of_short h
  have hreceive : receiveAny s = .error (.ofRead (s.transport.shortage got wanted))
      { s with transport := s.transport.past s.transport.reach r } := by
    unfold receiveAny
    simp only [hread]
  refine ⟨.ofRead (s.transport.shortage got wanted), ?_, ?_⟩
  · cases s.transport.shortage got wanted <;> rfl
  · refine ⟨by rw [hreceive]; rfl, ?_, by rw [hreceive]; rfl⟩
    rw [hreceive]
    refine ⟨(List.take_append_drop _ _).symm, ?_, rfl, rfl, rfl⟩
    rw [Transport.length_arriving]
    rfl

theorem course_receiveAny {p : Packet} (hp : p.Fits) (hb : s.transport.arriving = p.frame ++ rest) :
    Course receiveAny s (.ok p) p.frame [] s.sequence := by
  have hin := Transport.incoming_of_arriving hb
  obtain ⟨r, j, h⟩ := receiveAny_of_frame hp hin (Transport.length_le_reach hb)
  refine ⟨by rw [h]; rfl, ?_, by rw [h]; rfl⟩
  rw [h]
  refine ⟨?_, rfl, rfl, rfl, rfl⟩
  simp only [final_ok, Transport.past]
  rw [hin, List.drop_left]

theorem course_takeId : Course takeId s (.ok s.sequence) [] [] (succId s.sequence) :=
  ⟨rfl, .of_transport_eq rfl, rfl⟩

/-- The next id is compared with that of the packet, and is gone either way. -/
theorem course_receive {p : Packet} (hp : p.Fits) (hb : s.transport.arriving = p.frame ++ rest) :
    Course receive s
      (if p.sequence = s.sequence then .ok p else .error (.outOfOrder p.sequence s.sequence))
      p.frame [] (succId s.sequence) := by
  refine (course_receiveAny hp hb).bind_silent fun s1 hid => ?_
  rw [← hid]
  refine course_takeId.bind_silent fun s2 hid' => ?_
  rw [← hid']
  split
  · exact course_pure p
  · exact course_throw _

/-! ## Sending -/

theorem course_transmit (hw : s.transport.Writable) (frame : Bytes) :
    Course (transmit frame) s (.ok ()) [] [frame] s.sequence := by
  have h : transmit frame s =
      .ok () { s with transport := { s.transport with sent := frame :: s.transport.sent } } := by
    unfold transmit
    simp only [Transport.write_of_writable hw]
  refine ⟨by rw [h]; rfl, ?_, by rw [h]; rfl⟩
  rw [h]
  exact ⟨rfl, rfl, rfl, rfl, rfl⟩

theorem course_transmit_error (hw : ¬ s.transport.Writable) (frame : Bytes) :
    ∃ reason, Course (transmit frame) s (.error (.writeFailed reason)) [] [] s.sequence := by
  obtain ⟨reason, hwrite⟩ := Transport.write_of_not_writable hw frame
  have h : transmit frame s = .error (.writeFailed reason) s := by
    unfold transmit
    simp only [hwrite]
  refine ⟨reason, by rw [h]; rfl, ?_, by rw [h]; rfl⟩
  rw [h]
  exact .of_transport_eq rfl

section Send

variable {m : Message} {payload : Bytes} (hm : m.payload = .ok payload)
include hm

/-- What is done with a payload that fits one packet. -/
theorem send_of_fits (hfit : payload.length ≤ Frame.maxPayload) :
    send m s = (do
      noteDump (Packet.mk s.sequence payload).frame
      transmit (Packet.mk s.sequence payload).frame
      takeId : Exchange Int) s := by
  have hframe : Frame.encode payload s.sequence = .ok (Packet.mk s.sequence payload).frame :=
    if_neg (Nat.not_lt.2 hfit)
  rw [send_eq hm, hframe]

theorem course_send (hfit : payload.length ≤ Frame.maxPayload) (hw : s.transport.Writable) :
    Course (send m) s (.ok s.sequence) [] [(Packet.mk s.sequence payload).frame]
      (succId s.sequence) := by
  refine .of_eq (send_of_fits hm hfit) ((course_noteDump _).silent_bind fun s1 hm1 hid1 => ?_)
  rw [← hid1]
  refine (course_transmit (hm1.writable_iff.2 hw) _).bind_silent fun s2 hid2 => ?_
  rw [← hid2]
  exact course_takeId

theorem course_send_of_not_writable (hfit : payload.length ≤ Frame.maxPayload)
    (hw : ¬ s.transport.Writable) :
    ∃ reason, Course (send m) s (.error (.writeFailed reason)) [] [] s.sequence := by
  have hdump := course_noteDump (s := s) (Packet.mk s.sequence payload)
  obtain ⟨reason, hwrite⟩ := course_transmit_error (fun h => hw (hdump.moves.writable_iff.1 h))
    (Packet.mk s.sequence payload).frame
  rw [hdump.sequence] at hwrite
  exact ⟨reason, .of_eq (send_of_fits hm hfit) (hdump.bind hwrite.bind_error)⟩

end Send

/-- A message that is too long for one packet leaves everything as it is. -/
theorem send_tooLong {m : Message} {payload : Bytes} (hm : m.payload = .ok payload)
    (h : Frame.maxPayload < payload.length) : send m s = .error (.tooLong payload.length) s := by
  rw [send_eq hm, show Frame.encode payload s.sequence = .error payload.length from if_pos h]
  rfl

theorem course_send_tooLong {m : Message} {payload : Bytes} (hm : m.payload = .ok payload)
    (h : Frame.maxPayload < payload.length) :
    Course (send m) s (.error (.tooLong payload.length)) [] [] s.sequence :=
  .of_eq (send_tooLong hm h) (course_throw _)

theorem course_send_unsendable {m : Message} {e : EncodeError} (hm : m.payload = .error e) :
    Course (send m) s (.error (.unsendable e)) [] [] s.sequence :=
  .of_eq (send_of_payload m s _ hm) (course_throw _)

/-- Whatever comes of it, sending takes nothing. -/
theorem exists_course_send (m : Message) (s : Session) :
    ∃ r packets id, Course (send m) s r [] packets id := by
  cases hm : m.payload with
  | error e => exact ⟨_, _, _, course_send_unsendable hm⟩
  | ok payload =>
    by_cases hfit : payload.length ≤ Frame.maxPayload
    · by_cases hw : s.transport.Writable
      · exact ⟨_, _, _, course_send hm hfit hw⟩
      · obtain ⟨reason, hc⟩ := course_send_of_not_writable hm hfit hw
        exact ⟨_, _, _, hc⟩
    · exact ⟨_, _, _, course_send_tooLong hm (Nat.lt_of_not_le hfit)⟩

end Session

end SqlWire
