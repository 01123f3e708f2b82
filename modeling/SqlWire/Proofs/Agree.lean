import SqlWire.Proofs.Course
import SqlWire.Proofs.Login
import SqlWire.Proofs.Steps
import SqlWire.Proofs.Stream
/-!
# Two runs side by side

Two sessions agree within some leeway if the same octets come and the same faults lie ahead, and what they
sent and noted so far differs no more than the leeway allows. How the octets are cut into pieces on the way
does not matter, as `readExactly` gathers the pieces before anything looks at them. No exchange tells such
sessions apart (`agree_execute`, `agree_authenticate`), and behind it they agree as before.
-/
namespace SqlWire

open Stateful

/-- What two runs may differ in: what they sent, though not how many packets, and what they noted. What both
send and note later is the same. -/
structure Leeway where
  sent : List Bytes → List Bytes → Prop
  noted : Journal → Journal → Prop
  length_eq : ∀ {ps qs : List Bytes}, sent ps qs → ps.length = qs.length
  cons : ∀ {ps qs : List Bytes} (p : Bytes), sent ps qs → sent (p :: ps) (p :: qs)
  note : ∀ {j j' : Journal} (level : Level) (message : String), noted j j' →
    noted (j.note level message) (j'.note level message)

/-- No leeway. -/
def Leeway.none : Leeway where
  sent := Eq
  noted := Eq
  length_eq := congrArg List.length
  cons p := congrArg (p :: ·)
  note level message := congrArg fun j : Journal => j.note level message

/-- Whatever was noted. -/
def Leeway.anyJournal : Leeway where
  sent := Eq
  noted _ _ := True
  length_eq := congrArg List.length
  cons p := congrArg (p :: ·)
  note _ _ _ := trivial

variable {L : Leeway}

namespace Transport

/-- What comes and what fails is the same, and what was sent is within the leeway; how many octets each read
gets is not in it. -/
structure Agree (L : Leeway) (t t' : Transport) : Prop where
  incoming : t.incoming = t'.incoming
  consumed : t.consumed = t'.consumed
  readFault : t.readFault = t'.readFault
  writeFault : t.writeFault = t'.writeFault
  closeFault : t.closeFault = t'.closeFault
  sent : L.sent t.sent t'.sent

variable {t t' : Transport}

/-! ## Reading -/

theorem Agree.reach_eq (h : t.Agree L t') : t.reach = t'.reach := by
  simp only [reach, h.incoming, h.consumed, h.readFault]

theorem Agree.shortage_eq (h : t.Agree L t') (got wanted : Nat) :
    t.shortage got wanted = t'.shortage got wanted := by
  simp only [shortage, h.incoming, h.consumed, h.readFault]

theorem Agree.past (h : t.Agree L t') (n r r' : Nat) : (t.past n r).Agree L (t'.past n r') where
  incoming := by simp only [Transport.past, h.incoming]
  consumed := by simp only [Transport.past, h.consumed]
  readFault := h.readFault
  writeFault := h.writeFault
  closeFault := h.closeFault
  sent := h.sent

theorem agree_readExactly (wanted : Nat) : Respects (Agree L) (readExactly wanted) := by
  intro t t' h
  by_cases hle : wanted ≤ t.reach
  · obtain ⟨r, hread⟩ := readExactly_of_le hle
    obtain ⟨r', hread'⟩ := readExactly_of_le (h.reach_eq ▸ hle)
    rw [hread, hread', h.incoming]
    exact ⟨rfl, h.past wanted r r'⟩
  · obtain ⟨r, hread⟩ := readExactly_of_lt (Nat.lt_of_not_le hle)
    obtain ⟨r', hread'⟩ := readExactly_of_lt (h.reach_eq ▸ Nat.lt_of_not_le hle)
    rw [hread, hread', ← h.reach_eq, h.shortage_eq]
    exact ⟨rfl, h.past t.reach r r'⟩

theorem agree_readPacket : Respects (Agree L) readPacket := by
  refine (agree_readExactly Frame.headerLength).bind fun header => ?_
  exact (agree_readExactly _).bind fun payload => respects_pure _

/-! ## Writing -/

/-- Each side writes a packet of its own, and what is sent then is within the leeway: both get through or
neither does. -/
theorem Agree.write {packet packet' : Bytes} (h : t.Agree L t')
    (hsent : L.sent (packet :: t.sent) (packet' :: t'.sent)) :
    outcome (t.write packet) = outcome (t'.write packet') ∧
      (final (t.write packet)).Agree L (final (t'.write packet')) := by
  unfold Transport.write
  rw [← h.writeFault, ← L.length_eq h.sent]
  split
  · split
    · exact ⟨rfl, h⟩
    · exact ⟨rfl, h.incoming, h.consumed, h.readFault, rfl, h.closeFault, hsent⟩
  · exact ⟨rfl, h.incoming, h.consumed, h.readFault, rfl, h.closeFault, hsent⟩

end Transport

namespace Session

/-- The next id is the same, and transports and journals agree within the leeway. -/
structure Agree (L : Leeway) (s s' : Session) : Prop where
  sequence : s.sequence = s'.sequence
  transport : s.transport.Agree L s'.transport
  journal : L.noted s.journal s'.journal

variable {s s' : Session}

/-- Sessions that agree without leeway agree within any that allows what is the same. -/
theorem Agree.of_none (h : s.Agree .none s') (hsent : ∀ ps, L.sent ps ps) (hnoted : ∀ j, L.noted j j) :
    s.Agree L s' := by
  have hs : s.transport.sent = s'.transport.sent := h.transport.sent
  have hj : s.journal = s'.journal := h.journal
  obtain ⟨hincoming, hconsumed, hreadFault, hwriteFault, hcloseFault, -⟩ := h.transport
  exact ⟨h.sequence, ⟨hincoming, hconsumed, hreadFault, hwriteFault, hcloseFault, hs ▸ hsent _⟩,
    hj ▸ hnoted _⟩

/-! ## Steps that leave the transport -/

theorem agree_note (level : Level) (message : String) : Respects (Agree L) (note level message) := by
  intro s s' h
  exact ⟨rfl, h.sequence, h.transport, L.note level message h.journal⟩

theorem agree_takeId : Respects (Agree L) takeId := by
  intro s s' h
  exact ⟨congrArg Except.ok h.sequence, congrArg succId h.sequence, h.transport, h.journal⟩

theorem agree_reset : Respects (Agree L) reset := by
  intro s s' h
  exact ⟨rfl, rfl, h.transport, h.journal⟩

theorem agree_disturb (readFault writeFault : Option (Nat × String)) :
    Respects (Agree L) (disturb readFault writeFault) := by
  intro s s' h
  obtain ⟨hincoming, hconsumed, -, -, hcloseFault, hsent⟩ := h.transport
  exact ⟨rfl, h.sequence, ⟨hincoming, hconsumed, rfl, rfl, hcloseFault, hsent⟩, h.journal⟩

/-- To dump a frame is to note a text. -/
theorem noteDump_eq_note (p : Packet) :
    ∃ text, HexDump.dump p.frame = .ok text ∧ noteDump p.frame = note Level.debug text := by
  obtain ⟨text, htext⟩ := p.exists_dump
  refine ⟨text, htext, funext fun s => ?_⟩
  unfold noteDump
  split
  · rw [htext]
  · next hkeeps =>
    have hnote : s.journal.note Level.debug text = s.journal := if_neg hkeeps
    show _ = EStateM.Result.ok () { s with journal := s.journal.note Level.debug text }
    rw [hnote]

/-! ## Receiving and sending -/

theorem agree_receiveAny : Respects (Agree L) receiveAny := by
  intro s s' h
  unfold receiveAny
  rcases (Transport.agree_readPacket (L := L)).cases h.transport with
    ⟨p, t, t', ht, ht', hread⟩ | ⟨e, t, t', ht, ht', hread⟩
  · obtain ⟨text, -, hdump⟩ := noteDump_eq_note p
    simp only [ht, ht', show Frame.header p.payload.length p.sequence ++ p.payload = p.frame from rfl, hdump]
    exact ⟨rfl, h.sequence, hread, L.note _ _ h.journal⟩
  · simp only [ht, ht']
    exact ⟨rfl, h.sequence, hread, h.journal⟩

theorem Agree.transmit {frame frame' : Bytes} (h : s.Agree L s')
    (hsent : L.sent (frame :: s.transport.sent) (frame' :: s'.transport.sent)) :
    outcome (transmit frame s) = outcome (transmit frame' s') ∧
      (final (transmit frame s)).Agree L (final (transmit frame' s')) := by
  obtain ⟨ho, hfinal⟩ := h.transport.write hsent
  unfold Session.transmit
  cases hw : s.transport.write frame with
  | ok _ t =>
    cases hw' : s'.transport.write frame' with
    | ok _ t' =>
      rw [hw, hw'] at hfinal
      exact ⟨rfl, h.sequence, hfinal, h.journal⟩
    | error _ _ =>
      rw [hw, hw'] at ho
      cases ho
  | error reason t =>
    cases hw' : s'.transport.write frame' with
    | ok _ _ =>
      rw [hw, hw'] at ho
      cases ho
    | error _ t' =>
      rw [hw, hw'] at ho hfinal
      cases ho
      exact ⟨rfl, h.sequence, hfinal, h.journal⟩

/-- Each side sends a message of its own. The payloads have the same length, and what is dumped and sent
then is within the leeway. -/
theorem Agree.send {m m' : Message} {payload payload' : Bytes} (h : s.Agree L s')
    (hm : m.payload = .ok payload) (hm' : m'.payload = .ok payload')
    (hlength : payload'.length = payload.length)
    (hnoted : ∀ text text', HexDump.dump (Packet.mk s.sequence payload).frame = .ok text →
      HexDump.dump (Packet.mk s.sequence payload').frame = .ok text' →
      L.noted (s.journal.note Level.debug text) (s'.journal.note Level.debug text'))
    (hsent : L.sent ((Packet.mk s.sequence payload).frame :: s.transport.sent)
      ((Packet.mk s.sequence payload').frame :: s'.transport.sent)) :
    outcome (send m s) = outcome (send m' s') ∧ (final (send m s)).Agree L (final (send m' s')) := by
  by_cases hfit : payload.length ≤ Frame.maxPayload
  · rw [send_of_fits hm hfit, send_of_fits hm' (hlength ▸ hfit), ← h.sequence]
    obtain ⟨text, htext, hdump⟩ := noteDump_eq_note ⟨s.sequence, payload⟩
    obtain ⟨text', htext', hdump'⟩ := noteDump_eq_note ⟨s.sequence, payload'⟩
    rw [hdump, hdump']
    -- behind the dumps each side has its own text
    have hnext : Agree L { s with journal := s.journal.note Level.debug text }
        { s' with journal := s'.journal.note Level.debug text' } :=
      ⟨h.sequence, h.transport, hnoted text text' htext htext'⟩
    exact bind_related (hnext.transmit hsent) fun _ _ => agree_takeId _
  · have hlong := Nat.lt_of_not_le hfit
    rw [send_tooLong hm hlong, send_tooLong hm' (hlength ▸ hlong), hlength]
    exact ⟨rfl, h⟩

theorem agree_send (m : Message) : Respects (Agree L) (send m) := by
  intro s s' h
  cases hm : m.payload with
  | error e =>
    rw [send_of_payload m s _ hm, send_of_payload m s' _ hm]
    exact respects_throw _ s s' h
  | ok payload =>
    refine h.send hm hm rfl (fun text text' htext htext' => ?_) (L.cons _ h.transport.sent)
    cases htext.symm.trans htext'
    exact L.note _ _ h.journal

/-! ## Whole exchanges -/

theorem closed_agree : Closed (fun _ => True) (fun x => Respects (Agree L) x) :=
  .of_runs trivial (Q := fun x s => RespectsAt (Agree L) x s) (fun a s => respects_pure a s)
    (fun _ _ s => respects_throw _ s) RespectsAt.bind (fun {level message} _ s => agree_note level message s)
    agree_takeId agree_receiveAny

theorem agree_receiveGreeting : Respects (Agree L) receiveGreeting := by
  refine agree_receiveAny.bind fun p => ?_
  have hset : Respects (Agree L)
      (modify fun s => { s with sequence := succId p.sequence } : Exchange Unit) := by
    intro s s' h
    exact ⟨rfl, rfl, h.transport, h.journal⟩
  exact hset.bind fun _ => respects_pure p

theorem agree_run (step : Step) : Respects (Agree L) step.run := by
  cases step with
  | receive => exact (closed_agree.receive trivial).bind fun p => respects_pure _
  | receiveGreeting => exact agree_receiveGreeting.bind fun p => respects_pure _
  | send m => exact (agree_send m).bind fun id => respects_pure _
  | reset => exact agree_reset.bind fun _ => respects_pure _
  | disturb readFault writeFault =>
    exact (agree_disturb readFault writeFault).bind fun _ => respects_pure _

theorem agree_execute (sql : Datum) : Respects (Agree L) (execute sql) :=
  closed_agree.execute trivial trivial agree_reset (agree_send _)

theorem agree_sendLogin (c : Credentials) (nonce : Bytes) : Respects (Agree L) (sendLogin c nonce) := by
  rcases sendLogin_cases c nonce with ⟨login, h⟩ | ⟨e, h⟩
  · rw [h]
    exact agree_send _
  · rw [h]
    exact respects_throw _

theorem agree_authenticate (c : Credentials) : Respects (Agree L) (authenticate c) :=
  closed_agree.authenticate trivial trivial c agree_receiveGreeting fun g => agree_sendLogin c g.nonce

end Session

end SqlWire
