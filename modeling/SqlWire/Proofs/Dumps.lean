import SqlWire.Proofs.Agree
import SqlWire.Proofs.PacketList
import SqlWire.Proofs.Refusal
/-!
# Dumps

A journal that keeps records for debugging holds a dump of each packet that an exchange handles, in their
order: each packet that is read, before its id is looked at, and each that is handed to the transport,
before it can fail to write (`dumps_execute`, `dumps_authenticate`).
-/
namespace SqlWire

open Stateful

/-! ## Journals -/

theorem LogRecord.isDump_dump {b : Bytes} {text : String} (h : HexDump.dump b = .ok text) :
    isDump ⟨Level.debug, text⟩ = true := by
  unfold HexDump.dump HexDump.title at h
  cases hsize : Frame.size b with
  | error e =>
    rw [hsize] at h
    cases h
  | ok size =>
    cases hid : Frame.sequence b with
    | error e =>
      rw [hsize, hid] at h
      cases h
    | ok id =>
      rw [hsize, hid] at h
      cases h
      simp [isDump, ToString.toString, List.isPrefixOf]

/-- The texts of the dumps, oldest first. -/
def Journal.dumps (j : Journal) : List String :=
  (j.records.filter LogRecord.isDump).reverse.map LogRecord.message

/-- Behind `j` the dumps of these packets were noted, and no others. -/
structure Dumps (j : Journal) (packets : List Packet) (j' : Journal) : Prop where
  threshold : j'.threshold = j.threshold
  dumps : j.keeps Level.debug = true →
    j'.dumps.map Except.ok = j.dumps.map Except.ok ++ packets.map fun p => HexDump.dump p.frame

namespace Dumps

variable {j j' j'' : Journal} {ps qs : List Packet}

theorem refl (j : Journal) : Dumps j [] j := ⟨rfl, fun _ => (List.append_nil _).symm⟩

theorem trans (h : Dumps j ps j') (h' : Dumps j' qs j'') : Dumps j (ps ++ qs) j'' where
  threshold := h'.threshold.trans h.threshold
  dumps hkeeps := by
    have hkeeps' : j'.keeps Level.debug = true := by
      unfold Journal.keeps at hkeeps ⊢
      rwa [h.threshold]
    rw [h'.dumps hkeeps', h.dumps hkeeps, List.map_append, List.append_assoc]

theorem note {level : Level} {message : String} (j : Journal)
    (h : LogRecord.isDump ⟨level, message⟩ = false) : Dumps j [] (j.note level message) := by
  unfold Journal.note
  split
  · exact ⟨rfl, fun _ => by simp [Journal.dumps, h]⟩
  · exact refl j

theorem note_dump {p : Packet} {text : String} (j : Journal) (h : HexDump.dump p.frame = .ok text) :
    Dumps j [p] (j.note Level.debug text) := by
  unfold Journal.note
  split
  · exact ⟨rfl, fun _ => by simp [Journal.dumps, LogRecord.isDump_dump h, h]⟩
  · next hkeeps => exact ⟨rfl, fun hkeeps' => absurd hkeeps' hkeeps⟩

end Dumps

namespace Session

variable {α β : Type} {x : Exchange α} {f : α → Exchange β} {s s' : Session} {ps qs : List Packet}
  {cut : Bytes} {packets : List Bytes}

/-! ## Which packets were read -/

/-- The packets whose frames were taken between two sessions. -/
def packetsRead (s s' : Session) : List Packet :=
  (Transport.readToEnd
    (.ofPeer (s.transport.incoming.take (s'.transport.consumed - s.transport.consumed)))).1

theorem packetsRead_of_moves (h : Moves s (ps.flatMap Packet.frame ++ cut) packets s')
    (hfits : ∀ p ∈ ps, p.Fits) (hcut : Frame.Short cut) : packetsRead s s' = ps := by
  have htaken : s.transport.incoming.take (s'.transport.consumed - s.transport.consumed) =
      ps.flatMap Packet.frame ++ cut := by
    rw [h.consumed, Nat.add_sub_cancel_left, h.incoming, List.take_left]
  obtain ⟨fault, hread, -⟩ := Transport.readToEnd_of_frames (t := .ofPeer (ps.flatMap Packet.frame ++ cut))
    rfl hfits rfl hcut
  rw [packetsRead, htaken, hread]

theorem packetsRead_of_frame {p : Packet} (h : Moves s p.frame packets s') (hp : p.Fits) :
    packetsRead s s' = [p] := by
  have hm : Moves s ([p].flatMap Packet.frame ++ []) packets s' := by simpa using h
  exact packetsRead_of_moves hm (by simpa using hp) Frame.short_nil

theorem Reads.packetsRead_eq (h : Reads x s ps cut) : packetsRead s (final (x s)) = ps := by
  obtain ⟨packets, hm⟩ := h.moves
  exact packetsRead_of_moves hm h.fits h.short

/-! ## Reading -/

/-- The packet that a read gets, if it gets one. -/
def arrived (s : Session) : List Packet :=
  match s.transport.readPacket with
  | .ok p _ => [p]
  | .error _ _ => []

theorem dumps_receiveAny (s : Session) : Dumps s.journal (arrived s) (final (receiveAny s)).journal := by
  unfold receiveAny arrived
  cases hread : s.transport.readPacket with
  | error e t => exact .refl _
  | ok p t =>
    obtain ⟨text, htext, hdump⟩ := noteDump_eq_note p
    simp only [show Frame.header p.payload.length p.sequence ++ p.payload = p.frame from rfl, hdump]
    exact .note_dump _ htext

/-- What both steps dump, if the second dumps nothing where it is not reached. -/
theorem dumps_bind (hx : Dumps s.journal ps (final (x s)).journal)
    (hf : ∀ a, outcome (x s) = .ok a → Dumps (final (x s)).journal qs (final (f a (final (x s)))).journal)
    (he : ∀ e, outcome (x s) = .error e → qs = []) :
    Dumps s.journal (ps ++ qs) (final ((x >>= f) s)).journal := by
  cases ho : outcome (x s) with
  | ok a =>
    rw [bind_of_ok ho]
    exact hx.trans (hf a ho)
  | error e =>
    rw [bind_of_error ho, he e ho, List.append_nil]
    exact hx

/-- What a run reads is dumped. -/
def Watched (x : Exchange α) (s : Session) : Prop :=
  ∃ ps cut, Reads x s ps cut ∧ Dumps s.journal ps (final (x s)).journal

theorem watched_receiveAny (s : Session) : Watched receiveAny s := by
  have hdumps := dumps_receiveAny s
  rcases Frame.frame_or_short s.transport.arriving with h | ⟨p, rest, hp, h⟩
  · obtain ⟨got, wanted, r, hread⟩ := Transport.readPacket_of_short h
    rw [arrived, hread] at hdumps
    exact ⟨_, _, reads_receiveAny_of_short h, hdumps⟩
  · obtain ⟨r, hread⟩ := Transport.readPacket_of_frame hp (Transport.incoming_of_arriving h)
      (Transport.length_le_reach h)
    rw [arrived, hread] at hdumps
    exact ⟨_, _, reads_receiveAny hp h, hdumps⟩

theorem closed_watched : Closed (fun _ => True) (fun x => ∀ s, Watched x s) :=
  .of_runs trivial (fun a _ => ⟨_, _, .of_course (course_pure a), .refl _⟩)
    (fun _ _ _ => ⟨_, _, .of_course (course_throw _), .refl _⟩)
    (fun {_ _ x _ s} hx hf => by
      obtain ⟨ps, cut, hreads, hdumps⟩ := hx
      cases ho : outcome (x s) with
      | ok a =>
        obtain ⟨qs, cut', hreads', hdumps'⟩ := hf a ho
        refine ⟨_, _, hreads.bind ho hreads', ?_⟩
        rw [bind_of_ok ho]
        exact hdumps.trans hdumps'
      | error e =>
        refine ⟨_, _, hreads.bind_error ho, ?_⟩
        rw [bind_of_error ho]
        exact hdumps)
    (fun {level message} h s => ⟨_, _, .of_course (course_note level message), .note s.journal h⟩)
    (fun _ => ⟨_, _, .of_course course_takeId, .refl _⟩) watched_receiveAny

/-! ## Sending -/

/-- The packet of a message under an id, if the message fits one. -/
def handed (m : Message) (id : Int) : List Packet :=
  match m.payload with
  | .ok payload => if payload.length ≤ Frame.maxPayload then [⟨id, payload⟩] else []
  | .error _ => []

theorem journal_transmit (frame : Bytes) (s : Session) : (final (transmit frame s)).journal = s.journal := by
  unfold transmit
  split <;> rfl

/-- Steps that note nothing may follow. -/
theorem journal_bind (hf : ∀ a s, (final (f a s)).journal = s.journal) (s : Session) :
    (final ((x >>= f) s)).journal = (final (x s)).journal := by
  cases h : outcome (x s) with
  | ok a => rw [bind_of_ok h, hf]
  | error e =>
    rw [bind_of_error h]
    rfl

/-- The packet is dumped before it is written, so it does not matter if it can be. -/
theorem dumps_send (m : Message) (s : Session) :
    Dumps s.journal (handed m s.sequence) (final (send m s)).journal := by
  unfold handed
  cases hm : m.payload with
  | error e =>
    rw [send_of_payload m s _ hm]
    exact .refl _
  | ok payload =>
    by_cases hfit : payload.length ≤ Frame.maxPayload
    · obtain ⟨text, htext, hdump⟩ := noteDump_eq_note ⟨s.sequence, payload⟩
      have hsend : (final (send m s)).journal = s.journal.note Level.debug text := by
        rw [send_of_fits hm hfit, hdump]
        show (final ((transmit _ >>= fun _ => takeId) _)).journal = _
        rw [journal_bind fun _ _ => rfl, journal_transmit]
      simp only [if_pos hfit, hsend]
      exact .note_dump _ htext
    · simp only [if_neg hfit, send_tooLong hm (Nat.lt_of_not_le hfit)]
      exact .refl _

/-! ## Runs of steps -/

/-- The packets that a step handles: one that arrives, or one that is to be sent. -/
def Step.handled (step : Step) (s : Session) : List Packet :=
  match step with
  | .receive | .receiveGreeting => arrived s
  | .send m => handed m s.sequence
  | .reset | .disturb .. => []

/-- The packets that a run of steps handles, one step after another. -/
def handledBySteps : List Step → Session → List Packet
  | [], _ => []
  | step :: steps, s => step.handled s ++ handledBySteps steps (final (step.run s))

theorem arrived_of_receiveAny {p : Packet} (h : receiveAny s = .ok p s') : arrived s = [p] := by
  unfold receiveAny at h
  unfold arrived
  cases hread : s.transport.readPacket with
  | error e t =>
    rw [hread] at h
    cases h
  | ok q t =>
    simp only [hread] at h
    split at h
    · cases h
      rfl
    · cases h

theorem handed_of_ok {m : Message} {id : Int} (h : send m s = .ok id s') :
    ∃ payload, m.payload = .ok payload ∧ handed m s.sequence = [⟨id, payload⟩] := by
  cases hm : m.payload with
  | error e =>
    rw [send_of_payload m s _ hm] at h
    cases h
  | ok payload =>
    by_cases hfit : payload.length ≤ Frame.maxPayload
    · by_cases hw : s.transport.Writable
      · have ho := (course_send hm hfit hw).outcome_eq
        rw [h] at ho
        cases ho
        exact ⟨payload, rfl, by simp only [handed, hm, if_pos hfit]⟩
      · obtain ⟨reason, hcourse⟩ := course_send_of_not_writable hm hfit hw
        have ho := hcourse.outcome_eq
        rw [h] at ho
        cases ho
    · rw [send_tooLong hm (Nat.lt_of_not_le hfit)] at h
      cases h

/-- A step that returns a packet has handled just this one. -/
theorem Step.handled_of_ok {step : Step} {p : Packet} (h : step.run s = .ok (some p) s') :
    step.handled s = [p] := by
  cases step with
  | receive =>
    obtain ⟨q, s1, hq, hreturn⟩ := bind_eq_ok.1 h
    cases hreturn
    obtain ⟨q, s1, hany, hcheck⟩ := bind_eq_ok.1 hq
    obtain ⟨id, s2, -, hcheck⟩ := bind_eq_ok.1 hcheck
    split at hcheck
    · cases hcheck
      exact arrived_of_receiveAny hany
    · cases hcheck
  | receiveGreeting =>
    obtain ⟨q, s1, hq, hreturn⟩ := bind_eq_ok.1 h
    cases hreturn
    obtain ⟨q, s1, hany, hset⟩ := bind_eq_ok.1 hq
    cases hset
    exact arrived_of_receiveAny hany
  | send m =>
    obtain ⟨id, s1, hsend, hreturn⟩ := bind_eq_ok.1 h
    obtain ⟨payload, hm, hhanded⟩ := handed_of_ok hsend
    have hpacket : EStateM.Result.ok (m.payload.toOption.map (Packet.mk id)) s1 =
        (.ok (some p) s' : EStateM.Result Failure Session _) := hreturn
    rw [hm] at hpacket
    cases hpacket
    exact hhanded
  | reset | disturb => cases h

theorem dumps_run (step : Step) (s : Session) :
    Dumps s.journal (step.handled s) (final (step.run s)).journal := by
  cases step with
  | receive =>
    -- the id is looked at behind the dump
    have hcheck : ∀ p s, (final ((takeId >>= fun expected =>
        if p.sequence = expected then pure p else throw (.outOfOrder p.sequence expected) :
          Exchange Packet) s)).journal = s.journal := by
      intro p s
      show (final ((if p.sequence = s.sequence then pure p else throw _ : Exchange Packet) _)).journal = _
      split <;> rfl
    have hreceive : (final (Step.run .receive s)).journal = (final (receiveAny s)).journal := by
      show (final ((receive >>= fun p => pure (some p)) s)).journal = _
      rw [journal_bind fun _ _ => rfl]
      exact journal_bind hcheck s
    rw [hreceive]
    exact dumps_receiveAny s
  | receiveGreeting =>
    have hreceive : (final (Step.run .receiveGreeting s)).journal = (final (receiveAny s)).journal := by
      show (final ((receiveGreeting >>= fun p => pure (some p)) s)).journal = _
      rw [journal_bind fun _ _ => rfl]
      exact journal_bind (fun _ _ => rfl) s
    rw [hreceive]
    exact dumps_receiveAny s
  | send m =>
    have hsend : (final (Step.run (.send m) s)).journal = (final (send m s)).journal :=
      journal_bind (fun _ _ => rfl) s
    rw [hsend]
    exact dumps_send m s
  | reset | disturb readFault writeFault => exact .refl _

theorem dumps_perform (steps : List Step) (s : Session) :
    Dumps s.journal (handledBySteps steps s) (perform steps s).2.journal := by
  induction steps generalizing s with
  | nil => exact .refl _
  | cons step steps ih => exact (dumps_run step s).trans (ih (final (step.run s)))

/-! ## Statements -/

/-- The packets that a statement handles: its own, if it fits one, and those of the answer. -/
def handledByStatement (sql : Datum) (s : Session) : List Packet :=
  handed (.statement sql) 0 ++ packetsRead s (final (execute sql s))

theorem dumps_request (sql : Datum) (s : Session) :
    Dumps s.journal (handed (.statement sql) 0) (final (request sql s)).journal := by
  have hsend := dumps_bind (f := fun _ => note Level.debug s!"query: {sql.shown}")
    (dumps_send (.statement sql) { s with sequence := 0 })
    (fun _ _ => .note _ (LogRecord.isDump_query sql)) fun _ _ => rfl
  rwa [List.append_nil] at hsend

theorem reads_request (sql : Datum) (s : Session) : Reads (request sql) s [] [] := by
  have hreset : Course reset s (.ok ()) [] [] 0 := ⟨rfl, .of_transport_eq rfl, rfl⟩
  obtain ⟨r, packets, id, hsend⟩ := exists_course_send (.statement sql) (final (reset s))
  cases r with
  | ok id' => exact .of_course (hreset.bind (hsend.bind_silent fun s1 hid => hid ▸ course_note _ _))
  | error e => exact .of_course (hreset.bind hsend.bind_error)

theorem dumps_execute (sql : Datum) (s : Session) :
    Dumps s.journal (handledByStatement sql s) (final (execute sql s)).journal := by
  have hrequest := dumps_request sql s
  have hreads := reads_request sql s
  unfold handledByStatement
  rw [execute_eq]
  cases ho : outcome (request sql s) with
  | ok u =>
    obtain ⟨ps, cut, hanswer, hdumps⟩ := closed_watched.answer trivial trivial (final (request sql s))
    rw [(hreads.bind ho hanswer).packetsRead_eq, bind_of_ok ho]
    exact hrequest.trans hdumps
  | error e =>
    rw [(hreads.bind_error ho).packetsRead_eq, bind_of_error ho, List.append_nil]
    exact hrequest

/-! ## Logins -/

/-- The login that answers a nonce, if there are octets for it and they fit one packet. -/
def handedLogin (c : Credentials) (nonce : Bytes) (id : Int) : List Packet :=
  match c.payload nonce with
  | .ok login => handed (.octets login) id
  | .error _ => []

theorem dumps_sendLogin (c : Credentials) (nonce : Bytes) (s : Session) :
    Dumps s.journal (handedLogin c nonce s.sequence) (final (sendLogin c nonce s)).journal ∧
      Reads (sendLogin c nonce) s [] [] := by
  unfold handedLogin
  cases h : c.payload nonce with
  | ok login =>
    obtain ⟨r, packets, id, hcourse⟩ := exists_course_send (.octets login) s
    rw [sendLogin_of_payload h]
    exact ⟨dumps_send (.octets login) s, .of_course hcourse⟩
  | error e =>
    rw [sendLogin_of_error h]
    exact ⟨.refl _, .of_course (course_throw _)⟩

/-- The login that answers a greeting, if it is one. -/
def loginFor (c : Credentials) (greeting : Packet) : List Packet :=
  match Marker.isErr greeting.payload, Greeting.decode.read greeting.payload with
  | false, .ok g => handedLogin c g.nonce (succId greeting.sequence)
  | _, _ => []

/-- The packets of a login in turn, from those that it reads: the login stands behind the greeting. -/
def inTurn (c : Credentials) : List Packet → List Packet
  | [] => []
  | greeting :: answers => greeting :: (loginFor c greeting ++ answers)

/-- The packets that a login handles. -/
def handledByLogin (c : Credentials) (s : Session) : List Packet :=
  inTurn c (packetsRead s (final (authenticate c s)))

theorem watched_welcome (s : Session) : Watched welcome s :=
  closed_watched.welcome trivial trivial (closed_watched.bind watched_receiveAny fun p =>
    closed_watched.bind (fun _ => ⟨_, _, .of_course ⟨rfl, .of_transport_eq rfl, rfl⟩, .refl _⟩) fun _ =>
      closed_watched.pure p) s

/-- Without a greeting there is no login to stand behind it. -/
theorem inTurn_or_greeted (c : Credentials) (s : Session) :
    (∃ e, outcome (welcome s) = .error e ∧
      inTurn c (packetsRead s (final (welcome s))) = packetsRead s (final (welcome s))) ∨
    ∃ p g rest, Greeted s p g rest := by
  rcases Frame.frame_or_short s.transport.arriving with hshort | ⟨p, rest, hp, hb⟩
  · obtain ⟨e, -, h⟩ := course_welcome_of_short hshort
    have hread : packetsRead s (final (welcome s)) = [] :=
      packetsRead_of_moves h.moves (by rintro _ ⟨⟩) hshort
    exact .inl ⟨e, h.outcome_eq, by rw [hread]; rfl⟩
  cases herr : Marker.isErr p.payload with
  | true =>
    have h := course_welcome_of_err hp hb herr
    refine .inl ⟨_, h.outcome_eq, ?_⟩
    rw [packetsRead_of_frame h.moves hp]
    simp [inTurn, loginFor, herr]
  | false =>
    cases hread : Greeting.decode.read p.payload with
    | ok g => exact .inr ⟨p, g, rest, hp, hb, herr, hread⟩
    | error e =>
      have h := course_welcome_of_unreadable hp hb herr hread
      refine .inl ⟨_, h.outcome_eq, ?_⟩
      rw [packetsRead_of_frame h.moves hp]
      simp [inTurn, loginFor, herr, hread]

/-- Behind a greeting comes the login, and the answer to it if it was written. -/
theorem dumps_signIn {c : Credentials} {p : Packet} {g : Greeting String} {rest : Bytes}
    (hg : Greeted s p g rest) :
    ∃ answers cut, Reads (signIn c g) (final (welcome s)) answers cut ∧
      Dumps (final (welcome s)).journal (loginFor c p ++ answers)
        (final (signIn c g (final (welcome s)))).journal := by
  have hlogin : loginFor c p = handedLogin c g.nonce (final (welcome s)).sequence := by
    simp only [loginFor, hg.notErr, hg.read, (course_welcome hg).sequence]
  obtain ⟨hdumps, hsend⟩ := dumps_sendLogin c g.nonce (final (welcome s))
  rw [hlogin]
  unfold signIn
  cases ho : outcome (sendLogin c g.nonce (final (welcome s))) with
  | ok id =>
    obtain ⟨answers, cut, hreads, hanswers⟩ :=
      closed_watched.awaitVerdict trivial trivial c.username g (final (sendLogin _ _ (final (welcome s))))
    refine ⟨answers, cut, hsend.bind ho hreads, ?_⟩
    rw [bind_of_ok ho]
    exact hdumps.trans hanswers
  | error e =>
    refine ⟨[], [], hsend.bind_error ho, ?_⟩
    rw [bind_of_error ho, List.append_nil]
    exact hdumps

theorem dumps_authenticate (c : Credentials) (s : Session) :
    Dumps s.journal (handledByLogin c s) (final (authenticate c s)).journal := by
  obtain ⟨ps, cut, hreads, hdumps⟩ := watched_welcome s
  unfold handledByLogin
  rw [authenticate_eq]
  rcases inTurn_or_greeted c s with ⟨e, ho, hturn⟩ | ⟨p, g, rest, hg⟩
  · rw [hreads.packetsRead_eq] at hturn
    rw [(hreads.bind_error ho).packetsRead_eq, hturn, bind_of_error ho]
    exact hdumps
  · have hcourse := course_welcome hg
    obtain ⟨answers, cut', hreads', hdumps'⟩ := dumps_signIn (c := c) hg
    have hps := hreads.packetsRead_eq
    rw [packetsRead_of_frame hcourse.moves hg.fits] at hps
    subst hps
    rw [(hreads.bind hcourse.outcome_eq hreads').packetsRead_eq, bind_of_ok hcourse.outcome_eq]
    exact hdumps.trans hdumps'

end Session

end SqlWire
