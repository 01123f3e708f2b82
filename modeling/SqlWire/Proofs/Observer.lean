import SqlWire.Proofs.Dumps
import SqlWire.Proofs.Pieces
import SqlWire.Proofs.Twins
/-!
# The journal only observes

What is noted, and from which level on, changes nothing else: runs that differ in their journals end alike
and leave alike what they leave. The dumps of packets, which only a journal for debugging keeps, cannot
fail, and each packet is dumped once (`journal_observes`).
-/
namespace SqlWire

open Stateful

namespace Connection

variable {α β : Type} {c : Connection}

/-! ## What calls dump -/

/-- The action dumps nothing. -/
def Quiet (x : Action α) : Prop := ∀ c, Dumps c.session.journal [] (final (x c)).session.journal

theorem quiet_note {level : Level} {message : String} (h : LogRecord.isDump ⟨level, message⟩ = false) :
    Quiet (note level message) :=
  fun c => .note c.session.journal h

theorem Quiet.bind {x : Action α} {f : α → Action β} (hx : Quiet x) (hf : ∀ a, Quiet (f a)) :
    Quiet (x >>= f) := by
  intro c
  cases ho : outcome (x c) with
  | ok a =>
    rw [bind_of_ok ho]
    exact (hx c).trans (hf a _)
  | error e =>
    rw [bind_of_error ho]
    exact hx c

theorem quiet_close : Quiet close := by
  have hclose : ∀ closed fault, Quiet (closeBy closed fault) := by
    intro closed fault
    unfold closeBy
    split
    · exact fun c => .refl _
    · split
      · exact fun c => .refl _
      · have hnote : ∀ reason : String,
            LogRecord.isDump ⟨Level.debug, s!"Ignore error on close: {reason}"⟩ = false := fun reason =>
          LogRecord.isDump_of_head (c := 'I') (by simp [ToString.toString]) (by decide)
        exact (quiet_note (hnote _)).bind fun _ c => .refl _
  intro c
  rw [close_eq]
  exact hclose _ _ c

theorem quiet_closing (f : Failure) : Quiet (closing f : Action α) :=
  quiet_close.bind fun _ _ => .refl _

theorem quiet_settle (f : Failure) : Quiet (settle f : Action α) := by
  intro c
  unfold settle
  split
  · have hsettle : Quiet (note Level.error
        s!"Connection to {c.settings.host}:{c.settings.port} is broken, closing it" >>= fun _ =>
          closing f : Action α) :=
      (quiet_note rfl).bind fun _ => quiet_closing f
    exact hsettle c
  · exact .refl _

theorem dumps_query (sql : Datum) (c : Connection) : Dumps c.session.journal
    (if c.isClosed then [] else Session.handledByStatement sql c.session)
    (final (query sql c)).session.journal := by
  cases hc : c.isClosed with
  | true =>
    rw [query_of_closed hc]
    exact .refl _
  | false =>
    have hdumps := Session.dumps_execute sql c.session
    rw [query_of_open hc]
    cases hx : Session.execute sql c.session with
    | ok r s =>
      rw [hx] at hdumps
      exact hdumps
    | error f s =>
      rw [hx] at hdumps
      have h := hdumps.trans (quiet_settle (α := QueryResult String) f { c with session := s })
      rwa [List.append_nil] at h

/-- The packets that a call handles: those of its statement, if the connection is open. -/
def handledByCall (next : Call) (c : Connection) : List Packet :=
  match next.statement? with
  | some sql => if c.isClosed then [] else Session.handledByStatement sql c.session
  | none => []

/-- The packets that a run of calls handles, one call after another. -/
def handledByCalls : List Call → Connection → List Packet
  | [], _ => []
  | next :: calls, c => handledByCall next c ++ handledByCalls calls (final (call next c))

theorem dumps_call (next : Call) (c : Connection) :
    Dumps c.session.journal (handledByCall next c) (final (call next c)).session.journal := by
  unfold handledByCall
  cases h : next.statement? with
  | some sql =>
    obtain ⟨g, l, l', -, hf⟩ := call_statement h c
    rw [hf]
    exact dumps_query sql { c with lastResult := l }
  | none =>
    cases next with
    | query | executeQuery | execute => cases h
    | executeUpdate | enter => exact .refl _
    | close | leave => exact (quiet_close.bind fun _ _ => .refl _) c

theorem dumps_converse (calls : List Call) (c : Connection) :
    Dumps c.session.journal (handledByCalls calls c) (converse calls c).2.session.journal := by
  induction calls generalizing c with
  | nil => exact .refl _
  | cons next calls ih => exact (dumps_call next c).trans (ih (final (call next c)))

theorem dumps_login (c : Connection) : Dumps c.session.journal
    (Session.handledByLogin (credentials c.settings) c.session) (final (login c)).session.journal := by
  have hdumps := Session.dumps_authenticate (credentials c.settings) c.session
  rw [login_eq]
  cases hx : Session.authenticate (credentials c.settings) c.session with
  | ok g s =>
    rw [hx] at hdumps
    exact hdumps
  | error f s =>
    rw [hx] at hdumps
    have h := hdumps.trans (quiet_closing (α := Greeting String) f
      { c with socket := true, file := true, stream := true, session := s })
    rwa [List.append_nil] at h

/-- The packets that opening a connection handles: those of its login, if it comes to one. -/
def handledByOpening (start : Action (Greeting String)) (c : Connection) : List Packet :=
  Session.inTurn (credentials c.settings) (Session.packetsRead c.session (final (start c)).session)

theorem handledByOpening_login (c : Connection) :
    handledByOpening login c = Session.handledByLogin (credentials c.settings) c.session := by
  simp only [handledByOpening, Session.handledByLogin, Session.packetsRead, transport_of_login]

theorem dumps_start {start : Action (Greeting String)} (hstart : Starts start) (c : Connection) :
    Dumps c.session.journal (handledByOpening start c) (final (start c)).session.journal := by
  cases hstart with
  | socket =>
    rw [handledByOpening_login]
    exact dumps_login c
  | dialed fault =>
    -- that it is dialed is noted, and no dump
    let j := c.session.journal.note Level.info s!"Connect to {c.settings.host}:{c.settings.port}"
    have hdial : Dumps c.session.journal [] j := .note _ rfl
    cases fault with
    | none =>
      obtain ⟨dials, timeouts, hconnect⟩ : ∃ dials timeouts,
          connect none c = login { c.journaled j with dials, timeouts } := ⟨_, _, rfl⟩
      have hlogin := dumps_login { c.journaled j with dials, timeouts }
      rw [← handledByOpening_login, handledByOpening, ← hconnect] at hlogin
      exact hdial.trans hlogin
    | some e =>
      have hsession : (final (connect (some e) c)).session = (c.journaled j).session := by
        cases e <;> rfl
      have hmoves : Session.Moves c.session (([] : List Packet).flatMap Packet.frame ++ []) []
          (final (connect (some e) c)).session := .of_transport_eq (by rw [hsession]; rfl)
      have hnone := Session.packetsRead_of_moves hmoves (by rintro _ ⟨⟩) Frame.short_nil
      rw [handledByOpening, hnone, hsession]
      exact hdial

/-! ## What nothing but the journal shows -/

/-- The connections are as good as the same, whatever the journals hold. -/
structure Alike (c c' : Connection) : Prop where
  isClosed : c.isClosed = c'.isClosed
  greeting : c.greeting = c'.greeting
  lastResult : c.lastResult = c'.lastResult
  session : c.session.Alike c'.session

theorem Twin.alike {c c' : Connection} (h : Twin .anyJournal c c') : c.Alike c' := by
  obtain ⟨password, s, h⟩ := h
  exact ⟨rfl, rfl, rfl, h⟩

/-- From its opening on, the connection goes the way that it would go with another journal, and its own one
holds what it handles. -/
structure Observed (start : Action (Greeting String)) (c : Connection) (j : Journal) : Prop where
  opening : outcome (start c) = outcome (start (c.journaled j))
  replies : ∀ calls,
    (converse calls (final (start c))).1 = (converse calls (final (start (c.journaled j)))).1
  alike : ∀ calls,
    (converse calls (final (start c))).2.Alike (converse calls (final (start (c.journaled j)))).2
  dumps : ∀ calls, Dumps c.session.journal
    (handledByOpening start c ++ handledByCalls calls (final (start c)))
    (converse calls (final (start c))).2.session.journal

theorem observed_of_starts {start : Action (Greeting String)} (hstart : Starts start) (settings : Settings)
    (transport : Transport) (j j' : Journal) : (idle settings transport j).Observed start j' := by
  have hagree : (Session.start transport j).Agree .anyJournal (Session.start transport j') :=
    ⟨rfl, ⟨rfl, rfl, rfl, rfl, rfl, rfl⟩, trivial⟩
  obtain ⟨L, rfl, ho, htwin⟩ := start_related hstart settings.password (P := (· = .anyJournal)) hagree
    fun s s' h => ⟨_, rfl, h, Session.agree_authenticate _ s s' h⟩
  exact {
    opening := ho
    replies calls := (twin_converse calls htwin).1
    alike calls := (twin_converse calls htwin).2.alike
    dumps calls := (dumps_start hstart _).trans (dumps_converse calls _) }

end Connection

/-- The run goes the way that it would go with another journal, and its own one holds what it handles. -/
structure Session.Observed (s : Session) (j : Journal) : Prop where
  replies : ∀ steps, (perform steps s).1 = (perform steps { s with journal := j }).1
  alike : ∀ steps, (perform steps s).2.Alike (perform steps { s with journal := j }).2
  /-- Packets that are refused are handled too, and those that cannot be written. -/
  dumps : ∀ steps, Dumps s.journal (handledBySteps steps s) (perform steps s).2.journal
  handled : ∀ (step : Step) p s', step.run s = .ok (some p) s' → step.handled s = [p]

/-- Whatever the peer does and wherever the transport fails, a journal changes nothing but itself; and one
that keeps what is for debugging gets the dump of each packet that is handled, once and in their order, even
if its id is wrong or it cannot be written. -/
theorem Connection.journal_observes {start : Action (Greeting String)} (hstart : Starts start)
    (settings : Settings) (transport : Transport) (j j' : Journal) :
    (∀ s : Session, s.Observed j') ∧ (idle settings transport j).Observed start j' ∧
      ∀ p : Packet, ∃ text, HexDump.dump p.frame = .ok text := by
  refine ⟨fun s => ?_, observed_of_starts hstart settings transport j j', fun p => ?_⟩
  · have halike : s.Alike { s with journal := j' } := ⟨rfl, ⟨rfl, rfl, rfl, rfl, rfl, rfl⟩, trivial⟩
    exact {
      replies steps := (Respects.runAll Session.agree_run steps halike).1
      alike steps := (Respects.runAll Session.agree_run steps halike).2
      dumps steps := Session.dumps_perform steps s
      handled step p s' h := Session.Step.handled_of_ok h }
  · exact p.exists_dump

/-- A packet under a wrong id, and one that cannot be written. -/
theorem Connection.journal_observes_of_failures :
    let p : Packet := ⟨3, [1]⟩
    let t : Transport := { Transport.ofPeer p.frame with writeFault := some (0, "reset") }
    let s := Session.start t (.fresh Level.debug)
    let steps : List Session.Step := [.receive, .send (.octets [7])]
    (∃ reason, (Session.perform steps s).1 = [.error (.outOfOrder 3 0), .error (.writeFailed reason)]) ∧
      (Session.perform steps s).1 = (Session.perform steps { s with journal := .fresh 0 }).1 ∧
      (Session.perform steps s).2.journal.dumps.map Except.ok =
        [HexDump.dump p.frame, HexDump.dump (Packet.mk 1 [7]).frame] ∧
      outcome (login (idle .initial t (.fresh Level.debug))) =
        outcome (login (idle .initial t (.fresh 0))) := by
  intro p t s steps
  obtain ⟨hobserved, hopened, -⟩ := journal_observes .socket .initial t (.fresh Level.debug) (.fresh 0)
  have hp : p.Fits := ⟨by decide, by decide, by decide⟩
  have hb : s.transport.arriving = p.frame ++ [] := by decide
  -- the two steps one by one
  have hreceive : Session.Course (Session.Step.run .receive) s _ _ _ _ :=
    (Session.course_receive hp hb).map some
  let s1 := final (Session.Step.run .receive s)
  have hsequence : s1.sequence = 1 := hreceive.sequence
  have hw : ¬ s1.transport.Writable := by
    rw [hreceive.moves.writable_iff]
    exact fun h => absurd (h 0 "reset" rfl) (by decide)
  have hseven : (Message.octets [7]).payload = .ok [7] := rfl
  obtain ⟨reason, hsend⟩ := Session.course_send_of_not_writable hseven (by decide) hw
  have hsend' : Session.Course (Session.Step.run (.send (.octets [7])))
      (final (Session.Step.run .receive s)) _ _ _ _ := hsend.bind_error
  have harrived : Session.arrived s = [p] := by
    obtain ⟨r, hread⟩ := Transport.readPacket_of_frame hp (Transport.incoming_of_arriving hb)
      (Transport.length_le_reach hb)
    rw [Session.arrived, hread]
  have hhandled : Session.handledBySteps steps s = [p, ⟨1, [7]⟩] := by
    show Session.arrived s ++ (Session.handed (.octets [7]) s1.sequence ++ []) = _
    rw [harrived, hsequence]
    rfl
  refine ⟨⟨reason, ?_⟩, (hobserved s).replies steps, ?_, hopened.opening⟩
  · simp only [steps, Session.perform, runAll, hreceive.outcome_eq, hsend'.outcome_eq]
    rfl
  · rw [((hobserved s).dumps steps).dumps rfl, hhandled]
    rfl

end SqlWire
