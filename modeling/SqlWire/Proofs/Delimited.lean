import SqlWire.Proofs.Framing
import SqlWire.Session
/-!
# How an exchange goes

On a transport that does not fail, an exchange is settled by the id that is next and the octets to
come: it takes some first part of them that decides all it does (`Takes`), or it takes them all and
misses more (`Starves`). An exchange with just these two ways is `Delimited`. Steps in a row are
delimited if each of them is, and every step of a session is.
-/
namespace SqlWire.Session

open Stateful

variable {α β : Type}

/-! ## Sessions -/

/-- The transport does not fail. -/
structure Reliable (s : Session) : Prop where
  reads : s.transport.readFault = none
  writes : s.transport.writeFault = none

/-- The session is reliable, the next id is `id`, and the octets to come are `b`. -/
structure At (s : Session) (id : Int) (b : Bytes) : Prop extends Reliable s where
  sequence : s.sequence = id
  incoming : s.transport.incoming = b

/-- Between `s` and `s'` the octets `taken` were read and the `packets` were written. -/
structure Moves (s : Session) (taken : Bytes) (packets : List Bytes) (s' : Session) : Prop where
  incoming : s.transport.incoming = taken ++ s'.transport.incoming
  consumed : s'.transport.consumed = s.transport.consumed + taken.length
  sent : s'.transport.sent = packets.reverse ++ s.transport.sent
  readFault : s'.transport.readFault = s.transport.readFault
  writeFault : s'.transport.writeFault = s.transport.writeFault

theorem Moves.of_transport_eq {s s' : Session} (h : s'.transport = s.transport) : Moves s [] [] s' := by
  constructor <;> simp [h]

theorem Moves.trans {s s1 s2 : Session} {b b' : Bytes} {ps ps' : List Bytes} (h : Moves s b ps s1)
    (h' : Moves s1 b' ps' s2) : Moves s (b ++ b') (ps ++ ps') s2 where
  incoming := by rw [h.incoming, h'.incoming, List.append_assoc]
  consumed := by rw [h'.consumed, h.consumed, List.length_append, Nat.add_assoc]
  sent := by rw [h'.sent, h.sent, List.reverse_append, List.append_assoc]
  readFault := h'.readFault.trans h.readFault
  writeFault := h'.writeFault.trans h.writeFault

theorem Moves.reliable {s s' : Session} {b : Bytes} {ps : List Bytes} (h : Moves s b ps s')
    (hs : s.Reliable) : s'.Reliable :=
  ⟨h.readFault.trans hs.reads, h.writeFault.trans hs.writes⟩

/-- What was taken and what is left make up what there was. -/
theorem Moves.incoming_eq {s s' : Session} {b rest : Bytes} {ps : List Bytes} (h : Moves s b ps s')
    (hb : s.transport.incoming = b ++ rest) : s'.transport.incoming = rest :=
  List.append_cancel_left (h.incoming.symm.trans hb)

/-- A session that is reliable, at an id, with these octets to come. -/
def probe (id : Int) (b : Bytes) : Session := ⟨id, .ofPeer b, .fresh 0⟩

theorem probe_at (id : Int) (b : Bytes) : (probe id b).At id b := ⟨⟨rfl, rfl⟩, rfl, rfl⟩

/-! ## Two ways to go -/

/-- With just the octets `b` to come, the exchange takes them all and misses more. -/
def Starves (x : Exchange α) (id : Int) (b : Bytes) : Prop :=
  ∀ s : Session, s.At id b → ∃ got wanted packets,
    outcome (x s) = .error (.endOfStream got wanted) ∧ Moves s b packets (final (x s))

/-- With the octets `taken` to come first, the exchange takes just these, writes `packets`, ends as
`r` and leaves `id'` next; any smaller part of them is too little. -/
structure Takes (x : Exchange α) (id : Int) (taken : Bytes) (r : Except Failure α)
    (packets : List Bytes) (id' : Int) : Prop where
  ends : ∀ (s : Session) (rest : Bytes), s.At id (taken ++ rest) →
    outcome (x s) = r ∧ Moves s taken packets (final (x s)) ∧ (final (x s)).sequence = id'
  starves : ∀ c : Bytes, c <+: taken → c ≠ taken → Starves x id c

/-- The octets `b` to come are too few, or some first part of them decides. -/
def DelimitedAt (x : Exchange α) (id : Int) (b : Bytes) : Prop :=
  Starves x id b ∨ ∃ taken rest r packets id', b = taken ++ rest ∧ Takes x id taken r packets id'

/-- At every id and with any octets to come, the exchange goes one of the two ways. -/
def Delimited (x : Exchange α) : Prop := ∀ id b, DelimitedAt x id b

/-- Where the exchange ends, the rest of the octets to come is just what was not taken. -/
theorem Takes.final_at {x : Exchange α} {id id' : Int} {b rest : Bytes} {r : Except Failure α}
    {ps : List Bytes} (h : Takes x id b r ps id') {s : Session} (hs : s.At id (b ++ rest)) :
    (final (x s)).At id' rest := by
  obtain ⟨-, hm, hid⟩ := h.ends s rest hs
  exact ⟨hm.reliable hs.toReliable, hid, hm.incoming_eq hs.incoming⟩

/-- A step that reads nothing. -/
theorem Takes.of_silent {x : Exchange α} {id id' : Int} {r : Except Failure α} {ps : List Bytes}
    (h : ∀ s : Session, s.Reliable → s.sequence = id →
      outcome (x s) = r ∧ Moves s [] ps (final (x s)) ∧ (final (x s)).sequence = id') :
    Takes x id [] r ps id' where
  ends s _ hs := h s hs.toReliable hs.sequence
  starves _ hc hne := absurd (List.prefix_nil.1 hc) hne

theorem delimited_of_silent {x : Exchange α}
    (h : ∀ id, ∃ r ps id', Takes x id [] r ps id') : Delimited x := by
  intro id b
  obtain ⟨r, ps, id', ht⟩ := h id
  exact .inr ⟨[], b, r, ps, id', rfl, ht⟩

/-- What one run on a reliable session shows holds of every such run. -/
theorem Delimited.takes_of_run {x : Exchange α} (hx : Delimited x) {s : Session} (hs : s.Reliable)
    (hr : ∀ got wanted, outcome (x s) ≠ .error (.endOfStream got wanted)) :
    ∃ taken ps, Moves s taken ps (final (x s)) ∧
      Takes x s.sequence taken (outcome (x s)) ps (final (x s)).sequence := by
  rcases hx s.sequence s.transport.incoming with h | ⟨taken, rest, r, ps, id', hb, ht⟩
  · obtain ⟨got, wanted, _, he, -⟩ := h s ⟨hs, rfl, rfl⟩
    exact absurd he (hr got wanted)
  · obtain ⟨ho, hm, hid⟩ := ht.ends s rest ⟨hs, rfl, hb⟩
    rw [ho, hid]
    exact ⟨taken, ps, hm, ht⟩

/-! ## Steps in a row -/

section Bind

variable {x : Exchange α} {f : α → Exchange β} {id id1 id2 : Int} {b b' : Bytes}
  {ps ps' : List Bytes} {a : α}

theorem Starves.bind (h : Starves x id b) : Starves (x >>= f) id b := by
  intro s hs
  obtain ⟨got, wanted, ps, ho, hm⟩ := h s hs
  rw [bind_of_error ho]
  exact ⟨got, wanted, ps, rfl, hm⟩

theorem Takes.bind_starves (hx : Takes x id b (.ok a) ps id1) (hf : Starves (f a) id1 b') :
    Starves (x >>= f) id (b ++ b') := by
  intro s hs
  obtain ⟨ho, hm, -⟩ := hx.ends s b' hs
  obtain ⟨got, wanted, ps', ho', hm'⟩ := hf _ (hx.final_at hs)
  rw [bind_of_ok ho]
  exact ⟨got, wanted, ps ++ ps', ho', hm.trans hm'⟩

theorem Takes.bind {r : Except Failure β} (hx : Takes x id b (.ok a) ps id1)
    (hf : Takes (f a) id1 b' r ps' id2) : Takes (x >>= f) id (b ++ b') r (ps ++ ps') id2 where
  ends s rest hs := by
    rw [List.append_assoc] at hs
    obtain ⟨ho, hm, -⟩ := hx.ends s _ hs
    obtain ⟨ho', hm', hid'⟩ := hf.ends _ rest (hx.final_at hs)
    rw [bind_of_ok ho]
    exact ⟨ho', hm.trans hm', hid'⟩
  starves c hc hne := by
    -- the cut falls behind what the first step takes, or inside it
    by_cases hb : b <+: c
    · obtain ⟨d, rfl⟩ := hb
      have hd : d <+: b' := (List.prefix_append_right_inj b).1 hc
      exact hx.bind_starves (hf.starves d hd fun h => hne (by rw [h]))
    · have hcb : c <+: b :=
        (List.prefix_or_prefix_of_prefix hc (List.prefix_append b b')).resolve_right hb
      exact (hx.starves c hcb fun h => hb (h ▸ List.prefix_refl b)).bind

theorem Takes.bind_error {e : Failure} (hx : Takes x id b (.error e) ps id1) :
    Takes (x >>= f) id b (.error e) ps id1 where
  ends s rest hs := by
    obtain ⟨ho, hm, hid⟩ := hx.ends s rest hs
    rw [bind_of_error ho]
    exact ⟨rfl, hm, hid⟩
  starves c hc hne := (hx.starves c hc hne).bind

/-- The second step has to be delimited only on what the first may leave. -/
theorem DelimitedAt.bind (hx : DelimitedAt x id b)
    (hf : ∀ a taken rest ps id1, b = taken ++ rest → Takes x id taken (.ok a) ps id1 →
      DelimitedAt (f a) id1 rest) : DelimitedAt (x >>= f) id b := by
  rcases hx with h | ⟨taken, rest, r, ps, id1, rfl, ht⟩
  · exact .inl h.bind
  · cases r with
    | error e => exact .inr ⟨taken, rest, .error e, ps, id1, rfl, ht.bind_error⟩
    | ok a =>
      rcases hf a taken rest ps id1 rfl ht with h | ⟨taken', rest', r, ps', id2, rfl, ht'⟩
      · exact .inl (ht.bind_starves h)
      · exact .inr ⟨taken ++ taken', rest', r, ps ++ ps', id2,
          (List.append_assoc ..).symm, ht.bind ht'⟩

theorem Delimited.bind (hx : Delimited x) (hf : ∀ a, Delimited (f a)) : Delimited (x >>= f) :=
  fun id b => (hx id b).bind fun a _ rest _ id1 _ _ => hf a id1 rest

end Bind

/-! ## Steps that read nothing -/

section Silent

variable {id : Int}

theorem takes_pure (a : α) : Takes (pure a) id [] (.ok a) [] id :=
  .of_silent fun _ _ hid => ⟨rfl, .of_transport_eq rfl, hid⟩

theorem takes_throw (e : Failure) : Takes (throw e : Exchange α) id [] (.error e) [] id :=
  .of_silent fun _ _ hid => ⟨rfl, .of_transport_eq rfl, hid⟩

theorem takes_note (level : Level) (message : String) :
    Takes (note level message) id [] (.ok ()) [] id :=
  .of_silent fun _ _ hid => ⟨rfl, .of_transport_eq rfl, hid⟩

theorem takes_reset : Takes reset id [] (.ok ()) [] 0 :=
  .of_silent fun _ _ _ => ⟨rfl, .of_transport_eq rfl, rfl⟩

theorem takes_takeId : Takes takeId id [] (.ok id) [] (succId id) :=
  .of_silent fun _ _ hid => ⟨by rw [← hid]; rfl, .of_transport_eq rfl, by rw [← hid]; rfl⟩

/-- What a payload is read as. -/
def parsed (d : Decoder α) (payload : Bytes) : Except Failure α :=
  (d.read payload).mapError .malformed

theorem takes_parse (d : Decoder α) (payload : Bytes) :
    Takes (parse d payload) id [] (parsed d payload) [] id := by
  unfold parse parsed
  cases d.read payload with
  | ok a => exact takes_pure a
  | error e => exact takes_throw _

theorem delimited_pure (a : α) : Delimited (pure a) :=
  delimited_of_silent fun _ => ⟨_, _, _, takes_pure a⟩

theorem delimited_throw (e : Failure) : Delimited (throw e : Exchange α) :=
  delimited_of_silent fun _ => ⟨_, _, _, takes_throw e⟩

theorem delimited_note (level : Level) (message : String) : Delimited (note level message) :=
  delimited_of_silent fun _ => ⟨_, _, _, takes_note level message⟩

theorem delimited_parse (d : Decoder α) (payload : Bytes) : Delimited (parse d payload) :=
  delimited_of_silent fun _ => ⟨_, _, _, takes_parse d payload⟩

end Silent

/-! ## Receiving -/

/-- Every frame can be dumped, whatever the journal keeps. -/
theorem noteDump_of_frame {frame : Bytes} (h : Frame.headerLength ≤ frame.length) (s : Session) :
    ∃ j, noteDump frame s = .ok () { s with journal := j } := by
  obtain ⟨text, ht⟩ := HexDump.exists_dump h
  unfold noteDump
  split
  · rw [ht]
    exact ⟨_, rfl⟩
  · exact ⟨s.journal, rfl⟩

/-- A whole frame is taken and its packet received. -/
theorem receiveAny_of_frame {p : Packet} (hp : p.Fits) {rest : Bytes} {s : Session}
    (h : s.transport.incoming = p.frame ++ rest) (hr : p.frame.length ≤ s.transport.reach) :
    ∃ r j, receiveAny s =
      .ok p { s with transport := s.transport.past p.frame.length r, journal := j } := by
  obtain ⟨r, hread⟩ := Transport.readPacket_of_frame hp h hr
  obtain ⟨j, hdump⟩ := noteDump_of_frame p.headerLength_le_frame
    { s with transport := s.transport.past p.frame.length r }
  refine ⟨r, j, ?_⟩
  unfold receiveAny
  simp only [hread]
  rw [show Frame.header p.payload.length p.sequence ++ p.payload = p.frame from rfl, hdump]

theorem At.reach_eq {s : Session} {id : Int} {b : Bytes} (hs : s.At id b) :
    s.transport.reach = b.length := by
  simp [Transport.reach, hs.reads, hs.incoming]

theorem starves_receiveAny {id : Int} {b : Bytes} (hb : Frame.Short b) :
    Starves receiveAny id b := by
  intro s hs
  have hr := hs.reach_eq
  obtain ⟨got, wanted, r, hread⟩ := Transport.readPacket_of_short (t := s.transport)
    (by rwa [hr, hs.incoming, List.take_length])
  have hshort : s.transport.shortage got wanted = .ended got wanted := by
    simp [Transport.shortage, hs.reads]
  rw [hshort, hr] at hread
  unfold receiveAny
  simp only [hread]
  refine ⟨got, wanted, [], rfl, ⟨?_, rfl, rfl, rfl, rfl⟩⟩
  simp [Transport.past, hs.incoming]

theorem takes_receiveAny {id : Int} {p : Packet} (hp : p.Fits) :
    Takes receiveAny id p.frame (.ok p) [] id where
  ends s rest hs := by
    obtain ⟨r, j, h⟩ := receiveAny_of_frame hp hs.incoming (by rw [hs.reach_eq]; simp)
    rw [h]
    refine ⟨rfl, ⟨?_, rfl, rfl, rfl, rfl⟩, hs.sequence⟩
    simp only [final_ok, Transport.past]
    rw [hs.incoming, List.drop_left]
  starves c hc hne := starves_receiveAny (Frame.short_of_prefix hp hc hne)

theorem delimited_receiveAny : Delimited receiveAny := by
  intro id b
  rcases Frame.frame_or_short b with h | ⟨p, rest, hp, rfl⟩
  · exact .inl (starves_receiveAny h)
  · exact .inr ⟨p.frame, rest, _, _, _, rfl, takes_receiveAny hp⟩

/-- The id that is next is taken, whether the packet carries it or not. -/
theorem takes_receive {id : Int} {p : Packet} (hp : p.Fits) :
    Takes receive id p.frame
      (if p.sequence = id then .ok p else .error (.outOfOrder p.sequence id)) [] (succId id) := by
  have hcheck : Takes (if p.sequence = id then pure p else throw (.outOfOrder p.sequence id) : Exchange Packet)
      (succId id) [] (if p.sequence = id then .ok p else .error (.outOfOrder p.sequence id)) []
      (succId id) := by
    split
    · exact takes_pure p
    · exact takes_throw _
  have hany : Takes receiveAny id p.frame (.ok p) [] id := takes_receiveAny hp
  have h := hany.bind
    (f := fun p => takeId >>= fun expected =>
      if p.sequence = expected then pure p else throw (.outOfOrder p.sequence expected))
    (takes_takeId.bind hcheck)
  simp only [List.append_nil] at h
  exact h

theorem delimited_receiveGreeting : Delimited receiveGreeting :=
  delimited_receiveAny.bind fun p =>
    (delimited_of_silent fun _ => ⟨.ok (), [], succId p.sequence,
      .of_silent fun _ _ _ => ⟨rfl, .of_transport_eq rfl, rfl⟩⟩).bind fun _ => delimited_pure p

/-! ## Sending -/

theorem takes_noteDump {id : Int} (p : Packet) : Takes (noteDump p.frame) id [] (.ok ()) [] id :=
  .of_silent fun s _ hid => by
    obtain ⟨j, h⟩ := noteDump_of_frame p.headerLength_le_frame s
    rw [h]
    exact ⟨rfl, .of_transport_eq rfl, hid⟩

theorem takes_transmit {id : Int} (frame : Bytes) :
    Takes (transmit frame) id [] (.ok ()) [frame] id :=
  .of_silent fun s hs hid => by
    have h : s.transport.write frame =
        .ok () { s.transport with sent := frame :: s.transport.sent } := by
      simp [Transport.write, hs.writes]
    unfold transmit
    simp only [h]
    exact ⟨rfl, ⟨rfl, rfl, rfl, rfl, rfl⟩, hid⟩

theorem send_of_payload (m : Message) (s : Session) : ∀ r, m.payload = r →
    send m s = (match r with
      | .error e => throw (.unsendable e)
      | .ok payload =>
        match Frame.encode payload s.sequence with
        | .error size => throw (.tooLong size)
        | .ok frame => do
          noteDump frame
          transmit frame
          takeId : Exchange Int) s := by
  rintro _ rfl
  rfl

/-- What is done with a message that has a payload. -/
theorem send_eq {m : Message} {payload : Bytes} (hm : m.payload = .ok payload) (s : Session) :
    send m s = (match Frame.encode payload s.sequence with
      | .error size => throw (.tooLong size)
      | .ok frame => do
        noteDump frame
        transmit frame
        takeId : Exchange Int) s :=
  send_of_payload m s _ hm

/-- A payload that fits one packet is sent in the frame of the next id. -/
theorem takes_send {id : Int} {m : Message} {payload : Bytes} (hm : m.payload = .ok payload)
    (hfit : payload.length ≤ Frame.maxPayload) :
    Takes (send m) id [] (.ok id) [(Packet.mk id payload).frame] (succId id) := by
  refine .of_silent fun s hs hid => ?_
  have hframe : Frame.encode payload s.sequence = .ok (Packet.mk id payload).frame := by
    rw [hid]
    exact if_neg (by omega)
  rw [send_eq hm, hframe]
  exact ((takes_noteDump _).bind ((takes_transmit _).bind takes_takeId)).ends s _ ⟨hs, hid, rfl⟩

/-- The statement travels as these octets, and fits one packet. -/
structure StatementFits (sql : Datum) (query : Bytes) : Prop where
  octets_eq : sql.octets = .ok query
  length_le : (statementPayload query).length ≤ Frame.maxPayload

theorem StatementFits.payload_eq {sql : Datum} {query : Bytes} (h : StatementFits sql query) :
    (Message.statement sql).payload = .ok (statementPayload query) :=
  Message.payload_statement h.octets_eq

theorem takes_send_tooLong {id : Int} {m : Message} {payload : Bytes} (hm : m.payload = .ok payload)
    (hlong : Frame.maxPayload < payload.length) :
    Takes (send m) id [] (.error (.tooLong payload.length)) [] id := by
  refine .of_silent fun s hs hid => ?_
  rw [send_eq hm, show Frame.encode payload s.sequence = .error payload.length from if_pos hlong]
  exact ⟨rfl, .of_transport_eq rfl, hid⟩

theorem takes_send_unsendable {id : Int} {m : Message} {e : EncodeError}
    (hm : m.payload = .error e) : Takes (send m) id [] (.error (.unsendable e)) [] id := by
  refine .of_silent fun s hs hid => ?_
  rw [send_of_payload m s _ hm]
  exact ⟨rfl, .of_transport_eq rfl, hid⟩

theorem delimited_send (m : Message) : Delimited (send m) := by
  refine delimited_of_silent fun id => ?_
  cases hm : m.payload with
  | error e => exact ⟨_, _, _, takes_send_unsendable hm⟩
  | ok payload =>
    by_cases hfit : payload.length ≤ Frame.maxPayload
    · exact ⟨_, _, _, takes_send hm hfit⟩
    · exact ⟨_, _, _, takes_send_tooLong hm (Nat.lt_of_not_le hfit)⟩

end SqlWire.Session
