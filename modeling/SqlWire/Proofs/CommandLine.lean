import SqlWire.Console
import SqlWire.Proofs.Lifecycle
import SqlWire.Proofs.LogFiles
/-!
# The command and its exit status

The command sets its log files up, makes one attempt to get a result over one connection, and closes the
connection whatever comes of it. The status tells of what the transport and the server do. What breaks the
protocol, what cannot be sent, an address that cannot be tried and log files that cannot be made all end the
command without a status (`run_configured`).
-/
namespace SqlWire.Console

open Stateful Connection
open Session (FailsIn FailsWith LacksOctets)

variable {c : Connection} {fault : Option DialFault} {sql : Wording} {f : Failure} {s : State}
  {r : EStateM.Result Failure Connection (QueryResult String)}

/-! ## The attempt -/

/-- What the command asks of the server: to be let in, and to run the statement. -/
def attempt (fault : Option DialFault) (sql : Wording) : Action (QueryResult String) := do
  let _ ← connect fault
  executeQuery (some sql)

/-- The connection is closed, whatever the statement ended as. -/
def closed : EStateM.Result Failure Connection (QueryResult String) →
    EStateM.Result Failure Connection (QueryResult String)
  | .ok r c => (do close; return r : Action (QueryResult String)) c
  | .error f c => closing f c

theorem runStatement_eq (fault : Option DialFault) (sql : Wording) : runStatement fault sql =
    connect fault >>= fun _ c => closed (executeQuery (some sql) c) := by
  unfold runStatement
  congr 1

/-- What an attempt may fail with, where there is this fault. -/
structure Foreseen (fault : Option DialFault) (r : Except Failure (QueryResult String)) : Prop where
  refused : ∀ reason, fault = some (.refused reason) → FailsWith .transport r
  invalid : ∀ e, fault = some (.invalid e) → r = .error (.undialable e)
  classified : (∀ e, fault ≠ some (.invalid e)) →
    FailsIn (· ∈ [.transport, .protocol, .handshake, .query, .unsupported]) r ∨ LacksOctets r

/-- What becomes of an attempt: the connection is closed, and its socket was closed just once if there
was one. -/
structure Attempted (c : Connection) (fault : Option DialFault) (r : Except Failure (QueryResult String))
    (x : EStateM.Result Failure Connection (QueryResult String)) : Prop where
  outcome_eq : outcome x = r
  isClosed : (final x).isClosed = true
  socketCloses : (final x).socketCloses = c.socketCloses + if fault.isNone then 1 else 0
  foreseen : Foreseen fault r

theorem foreseen_of_dialed {r : Except Failure (QueryResult String)}
    (h : FailsIn (· ∈ [.transport, .protocol, .handshake, .query, .unsupported]) r ∨ LacksOctets r) :
    Foreseen none r :=
  ⟨by rintro _ ⟨⟩, by rintro _ ⟨⟩, fun _ => h⟩

theorem foreseen_of_login {c : Session.Credentials} {s : Session}
    (h : outcome (Session.authenticate c s) = .error f) : Foreseen none (.error f) := by
  have hfails := Session.authenticate_failsIn c s
  rw [h] at hfails
  refine foreseen_of_dialed ?_
  rcases hfails with hclassified | ⟨t, ⟨⟩⟩
  · obtain ⟨k, hclass, hk⟩ := hclassified f rfl
    exact .inl (Session.failsIn_error hclass (by grind))
  · exact .inr ⟨t, rfl⟩

theorem closed_of_ran {sql : Datum} (hopen : c.isClosed = false) (h : Ran sql c r) :
    Attempted c none (outcome r) (closed r) := by
  have hforeseen : Foreseen none (outcome r) := by
    rw [h.outcome_eq, if_neg (by simp [hopen])]
    exact foreseen_of_dialed ((Session.execute_failsIn sql c.session).imp_left
      (·.mono fun k hk => by grind))
  cases h with
  | closed hc => cases hopen.symm.trans hc
  | @answered q s _ _ =>
    obtain ⟨j, hclose⟩ := close_of_open (c := { c with session := s }) hopen
    have hrun : closed (.ok q { c with session := s }) = .ok q _ := bind_of_run hclose
    rw [hrun]
    exact ⟨rfl, rfl, rfl, hforeseen⟩
  | @refused f s _ _ _ =>
    obtain ⟨j, hclosing⟩ :=
      closing_of_open (α := QueryResult String) (c := { c with session := s }) hopen f
    have hrun : closed (.error f { c with session := s }) = .error f _ := hclosing
    rw [hrun]
    exact ⟨rfl, rfl, rfl, hforeseen⟩
  | @broken f s j _ _ _ =>
    -- the connection has closed itself
    have hclose : close _ = .ok () (({ c with session := s } : Connection).journaled j).released :=
      close_of_closed rfl
    have hrun : closed (.error f (({ c with session := s } : Connection).journaled j).released) =
        .error f _ := bind_of_run hclose
    rw [hrun]
    exact ⟨rfl, rfl, rfl, hforeseen⟩

/-- Over an open connection the statement is run, and the connection closed. -/
theorem attempted_of_open {g : Greeting String} {c' : Connection} (h : connect none c = .ok g c')
    (hopen : c'.isClosed = false) (hcloses : c'.socketCloses = c.socketCloses) :
    Attempted c none (outcome (attempt none sql c)) (runStatement none sql c) := by
  have hattempt : attempt none sql c = executeQuery (some sql) c' := bind_of_run h
  have hrun : runStatement none sql c = closed (executeQuery (some sql) c') := by
    rw [runStatement_eq]
    exact bind_of_run h
  obtain ⟨houtcome, hclosed, hcloses', hforeseen⟩ := closed_of_ran hopen (query_ran _ c')
  rw [hattempt, hrun]
  exact ⟨houtcome, hclosed, hcloses'.trans (by rw [hcloses]), hforeseen⟩

/-- Without a connection there is nothing to run. -/
theorem attempted_of_failed {c' : Connection} (h : connect fault c = .error f c')
    (hclosed : c'.isClosed = true)
    (hcloses : c'.socketCloses = c.socketCloses + if fault.isNone then 1 else 0)
    (hforeseen : Foreseen fault (.error f)) :
    Attempted c fault (outcome (attempt fault sql c)) (runStatement fault sql c) := by
  have hattempt : attempt fault sql c = .error f (final (connect fault c)) :=
    bind_of_error (congrArg outcome h)
  have hrun : runStatement fault sql c = .error f (final (connect fault c)) := by
    rw [runStatement_eq]
    exact bind_of_error (congrArg outcome h)
  rw [hattempt, hrun, h]
  exact ⟨rfl, hclosed, hcloses, hforeseen⟩

theorem attempted (fault : Option DialFault) (sql : Wording) (hc : c.isClosed = true) :
    Attempted c fault (outcome (attempt fault sql c)) (runStatement fault sql c) := by
  cases fault with
  | some e =>
    cases e with
    | refused reason =>
      have hconnect : connect (some (.refused reason)) c =
          .error (.unreachable c.settings.host c.settings.port reason) _ := rfl
      refine attempted_of_failed hconnect hc rfl ⟨fun _ _ => ⟨_, rfl, rfl⟩, ?_, fun _ => ?_⟩
      · rintro _ ⟨⟩
      · exact .inl (Session.failsIn_error rfl (by decide))
    | invalid e =>
      have hconnect : connect (some (.invalid e)) c = .error (.undialable e) _ := rfl
      refine attempted_of_failed hconnect hc rfl ⟨?_, ?_, fun h => absurd rfl (h e)⟩
      · rintro _ ⟨⟩
      · rintro _ ⟨⟩
        rfl
  | none =>
    obtain ⟨j, dials, timeouts, hconnect⟩ := connect_eq c
    rcases login_cases { c.journaled j with dials, timeouts } with ⟨g, s, -, h⟩ | ⟨f, s, ho, h⟩
    · exact attempted_of_open (hconnect.trans h) rfl rfl
    · exact attempted_of_failed (hconnect.trans h) rfl rfl (foreseen_of_login ho)

/-! ## The result -/

/-- The lines that tell of a result. -/
def resultLines (r : QueryResult String) : List String :=
  if r.hasResultSet then headLine r.columns :: (r.rows.map rowLine ++ [s!"{r.rowCount} rows in set"])
  else [s!"OK, {r.affectedRows} rows affected"]

def noteLines (j : Journal) (lines : List String) : Journal :=
  lines.foldl (fun j line => j.note Level.info line) j

def State.journal (s : State) : Journal := s.connection.session.journal

def State.journaled (s : State) (j : Journal) : State :=
  { s with connection := s.connection.journaled j }

theorem note_eq_journaled (level : Level) (message : String) (s : State) :
    note level message s = .ok () (s.journaled (s.journal.note level message)) := rfl

theorem forM_note (rows : List (List Value)) (s : State) :
    (rows.forM fun row => note Level.info (rowLine row)) s =
      .ok () (s.journaled (noteLines s.journal (rows.map rowLine))) := by
  induction rows generalizing s with
  | nil => rfl
  | cons row rows ih => exact (bind_of_run (note_eq_journaled _ _ s)).trans (ih _)

theorem noteResult_eq (r : QueryResult String) (s : State) : noteResult r s =
    .ok () (s.journaled (noteLines s.journal (resultLines r))) := by
  unfold noteResult resultLines
  split
  · rw [bind_of_run (note_eq_journaled _ _ s), bind_of_run (forM_note _ _), note_eq_journaled]
    simp only [noteLines, List.foldl_cons, List.foldl_append]
    rfl
  · rfl

/-! ## The status -/

/-- How the command ends behind an attempt that ended as `r` and left the journal `j`. -/
structure Exit (r : Except Failure (QueryResult String)) (j : Journal)
    (x : EStateM.Result ConsoleError State Nat) : Prop where
  zero_iff : outcome x = .ok 0 ↔ ∃ result, r = .ok result
  one_iff : outcome x = .ok 1 ↔
    FailsWith .transport r ∨ FailsWith .handshake r ∨ FailsWith .query r
  /-- What the command does not handle. -/
  error_iff : ∀ e, outcome x = .error e ↔ ∃ f, e = .failure f ∧ r = .error f ∧
    (f.errorClass? = some .protocol ∨ f.errorClass? = some .unsupported ∨ f.errorClass? = none)
  noted : ∀ result, r = .ok result → (final x).journal = noteLines j (resultLines result)
  reported : ∀ f, r = .error f → outcome x = .ok 1 →
    (final x).journal = j.note Level.error s!"Query failed: {f.message}"

/-- No failure has the class of all that servers report, only one of the classes in it. -/
theorem errorClass?_ne_server (f : Failure) : f.errorClass? ≠ some .server := by
  cases f with
  | malformed e => cases e <;> simp [Failure.errorClass?]
  | _ => simp [Failure.errorClass?]

theorem isReported_iff : isReported f = true ↔ f.errorClass? = some .transport ∨
    f.errorClass? = some .handshake ∨ f.errorClass? = some .query := by
  have hserver := errorClass?_ne_server f
  unfold isReported
  split <;> simp_all

theorem not_isReported_iff : ¬ isReported f = true ↔ f.errorClass? = some .protocol ∨
    f.errorClass? = some .unsupported ∨ f.errorClass? = none := by
  have hserver := errorClass?_ne_server f
  rw [isReported_iff]
  cases h : f.errorClass? with
  | none => simp
  | some k => cases k <;> simp_all

theorem conclude_ok (result : QueryResult String) (c : Connection) (s : State) :
    conclude (.ok result c) s = .ok 0 (State.journaled { s with connection := c }
      (noteLines c.session.journal (resultLines result))) :=
  bind_of_run (noteResult_eq result { s with connection := c })

theorem conclude_of_reported (h : isReported f = true) (c : Connection) (s : State) :
    conclude (.error f c) s = .ok 1 (State.journaled { s with connection := c }
      (c.session.journal.note Level.error s!"Query failed: {f.message}")) := if_pos h

theorem conclude_of_not_reported (h : ¬ isReported f = true) (c : Connection) (s : State) :
    conclude (.error f c) s = .error (.failure f) { s with connection := c } := if_neg h

theorem exit_conclude (r : EStateM.Result Failure Connection (QueryResult String)) (s : State) :
    Exit (outcome r) (final r).session.journal (conclude r s) := by
  cases r with
  | ok result c =>
    rw [conclude_ok]
    refine ⟨by simp, by simp, by simp, ?_, ?_⟩
    · rintro _ ⟨⟩
      rfl
    · rintro _ ⟨⟩
  | error f c =>
    by_cases hreported : isReported f = true
    · have hclass := isReported_iff.1 hreported
      rw [conclude_of_reported hreported]
      refine ⟨by simp, by simpa using hclass, fun e => ?_, ?_, ?_⟩
      · rw [outcome_ok]
        constructor
        · rintro ⟨⟩
        · rintro ⟨f', -, ⟨⟩, hother⟩
          exact absurd hreported (not_isReported_iff.2 hother)
      · rintro _ ⟨⟩
      · rintro _ ⟨⟩ -
        rfl
    · have hclass := not_isReported_iff.1 hreported
      rw [conclude_of_not_reported hreported]
      refine ⟨by simp, ?_, fun e => ?_, ?_, ?_⟩
      · simpa using fun h => hreported (isReported_iff.2 h)
      · rw [outcome_error]
        constructor
        · rintro ⟨⟩
          exact ⟨f, rfl, rfl, hclass⟩
        · rintro ⟨_, rfl, ⟨⟩, -⟩
          rfl
      · rintro _ ⟨⟩
      · rintro _ - ⟨⟩

/-- What is noted in the end changes nothing else. -/
theorem final_conclude (r : EStateM.Result Failure Connection (QueryResult String)) (s : State) :
    ∃ j, final (conclude r s) = State.journaled { s with connection := final r } j := by
  cases r with
  | ok result c => exact ⟨_, congrArg final (conclude_ok result c s)⟩
  | error f c =>
    by_cases hreported : isReported f = true
    · exact ⟨_, congrArg final (conclude_of_reported hreported c s)⟩
    · exact ⟨c.session.journal, congrArg final (conclude_of_not_reported hreported c s)⟩

/-! ## The whole command -/

/-- The file can be read and has both sections, and all its values are what they should be. -/
inductive Configured (content : String) (request : LogRequest) (settings : Settings) : Prop where
  | intro {ini : Ini} (parsed : Ini.parseFile content = .ok ini)
      (client : ini.hasSection clientSection = true) (logging : ini.hasSection loggingSection = true)
      (requested : logRequest ini = .ok request)
      (settingsOf : Settings.ofIni ini clientSection = .ok settings) :
      Configured content request settings

/-- The connection with which the attempt is made: set up as the file says, with the attempt noted. -/
def prepared (level : Int) (settings : Settings) (c : Connection) : Connection :=
  let journal := { c.session.journal with threshold := Level.threshold level }
  { c with
    settings := settings
    session := { c.session with
      journal := journal.note Level.info
        s!"Connect to {settings.host}:{settings.port} as {Datum.shownOption settings.user}" } }

/-- What is left to do behind the log files. -/
def proceed (level : Int) (settings : Settings) (fault : Option DialFault) (sql : Wording) : Step Nat :=
  fun s => conclude (runStatement fault sql (prepared level settings s.connection)) s

/-- Settings that are as they should be are only handed on. -/
theorem ofSettings_bind {α β : Type} {x : Except SettingsError α} {a : α} (h : x = .ok a)
    (f : α → Step β) : (ofSettings x >>= f) = f a := by
  rw [h]
  rfl

/-- Behind the file and its sections comes the set-up of the log files. -/
theorem run_eq {content : String} {request : LogRequest} {settings : Settings}
    (h : Configured content request settings) (program : Path) (path : String) (sql : Option Wording)
    (fault : Option DialFault) : run program (some content) path sql fault = (do
      ofChange (LogFiles.setUp program request)
      proceed request.level settings fault (statementOf sql)) := by
  obtain ⟨parsed, client, logging, requested, settingsOf⟩ := h
  rename_i ini
  have hmapped : (Ini.parseFile content).mapError SettingsError.badIni = .ok ini := by
    rw [parsed]
    rfl
  have hsections : [clientSection, loggingSection].find? (!ini.hasSection ·) = none := by
    simp [client, logging]
  unfold run setUpJournal
  simp only [ofSettings_bind hmapped, hsections, ofSettings_bind requested, bind_assoc]
  rw [ofSettings_bind settingsOf]
  rfl

/-- What the command comes to. Log files that cannot be made end it before an address is tried. Behind them the
attempt is made, of which the status tells. -/
structure Conclusion (request : LogRequest) (settings : Settings) (program : Path) (fault : Option DialFault)
    (sql : Wording) (s : State) (x : EStateM.Result ConsoleError State Nat) : Prop where
  files : (final x).files = final (LogFiles.setUp program request s.files)
  isClosed : (final x).connection.isClosed = true
  unfiled : ∀ e, outcome (LogFiles.setUp program request s.files) = .error e →
    outcome x = .error (.logFiles e) ∧ (final x).connection = s.connection
  filed : outcome (LogFiles.setUp program request s.files) = .ok () →
    let c := prepared request.level settings s.connection
    let r := outcome (attempt fault sql c)
    Foreseen fault r ∧ Exit r (final (runStatement fault sql c)).session.journal x ∧
      (final x).connection.socketCloses = s.connection.socketCloses + if fault.isNone then 1 else 0

/-- A run behind log files that cannot be made. -/
theorem conclusion_of_unfiled {request : LogRequest} {settings : Settings} {program : Path} {e : TreeError}
    {files : LogFiles} (h : LogFiles.setUp program request s.files = .error e files)
    (hs : s.connection.isClosed = true) (f : Unit → Step Nat) :
    Conclusion request settings program fault sql s
      ((ofChange (LogFiles.setUp program request) >>= f) s) := by
  have hchange : ofChange (LogFiles.setUp program request) s = .error (.logFiles e) { s with files } := by
    unfold ofChange
    rw [h]
  rw [bind_of_error (congrArg outcome hchange), hchange]
  constructor
  · rw [h]
    rfl
  · exact hs
  · intro e' he
    rw [h] at he
    cases he
    exact ⟨rfl, rfl⟩
  · intro hok
    rw [h] at hok
    cases hok

/-- A run behind log files that were set up. -/
theorem conclusion_of_filed {request : LogRequest} {settings : Settings} {program : Path} {files : LogFiles}
    (h : LogFiles.setUp program request s.files = .ok () files) (hs : s.connection.isClosed = true) :
    Conclusion request settings program fault sql s
      (proceed request.level settings fault sql { s with files }) := by
  let x := runStatement fault sql (prepared request.level settings s.connection)
  have hattempted : Attempted (prepared request.level settings s.connection) fault _ x :=
    attempted fault sql hs
  obtain ⟨j, hfinal⟩ := final_conclude x { s with files }
  show Conclusion _ _ _ _ _ _ (conclude x { s with files })
  constructor
  · rw [hfinal, h]
    rfl
  · rw [hfinal]
    exact hattempted.isClosed
  · intro e he
    rw [h] at he
    cases he
  · intro _ c r
    have hexit := exit_conclude x { s with files }
    rw [hattempted.outcome_eq] at hexit
    refine ⟨hattempted.foreseen, hexit, ?_⟩
    rw [hfinal]
    exact hattempted.socketCloses

/-- Whatever the peer does, a command with a proper file leaves a closed connection, and the status is zero
just where the client was let in and the statement has a result. Errors of the server and the transport are
noted, and the status is one. What breaks the protocol, what is too long to send or has no octets, and an
address that cannot be tried are not handled, and end the command without a status; so do log files that
cannot be made. -/
theorem run_configured {content : String} {request : LogRequest} {settings : Settings}
    (h : Configured content request settings) (program : Path) (path : String) (sql : Option Wording)
    (fault : Option DialFault) (hs : s.connection.isClosed = true) :
    Conclusion request settings program fault (statementOf sql) s
      (run program (some content) path sql fault s) := by
  rw [run_eq h]
  cases hsetUp : LogFiles.setUp program request s.files with
  | error e files => exact conclusion_of_unfiled hsetUp hs _
  | ok u files =>
    have hchange : ofChange (LogFiles.setUp program request) s = .ok () { s with files } := by
      unfold ofChange
      rw [hsetUp]
    rw [bind_of_run hchange]
    exact conclusion_of_filed hsetUp hs

/-- A greeting that cannot be read ends the command without a status. -/
theorem run_of_unreadable_greeting {content : String} {request : LogRequest} {settings : Settings}
    {p : Packet} {rest : Bytes} {e : DecodeError} (h : Configured content request settings)
    (program : Path) (path : String) (sql : Option Wording) (hs : s.connection.isClosed = true)
    (hfiles : outcome (LogFiles.setUp program request s.files) = .ok ()) (hp : p.Fits)
    (hb : s.connection.session.transport.arriving = p.frame ++ rest)
    (herr : Marker.isErr p.payload = false) (hread : Greeting.decode.read p.payload = .error e) :
    outcome (run program (some content) path sql none s) = .error (.failure (.malformed e)) := by
  let c := prepared request.level settings s.connection
  obtain ⟨j, dials, timeouts, hconnect⟩ := connect_eq c
  have hcourse := Session.course_authenticate_of_unreadable (c := credentials settings)
    (s := (c.journaled j).session) hp hb herr hread
  have hfailed : outcome (connect none c) = .error (.malformed e) := by
    rw [hconnect]
    exact (outcome_login _).trans hcourse.outcome_eq
  have hattempt : attempt none (statementOf sql) c = .error (.malformed e) _ := bind_of_error hfailed
  have hclass : ¬ isReported (.malformed e) = true := by cases e <;> simp [isReported, Failure.errorClass?]
  obtain ⟨-, hexit, -⟩ := (run_configured h program path sql none hs).filed hfiles
  exact (hexit.error_iff _).2 ⟨_, rfl, congrArg outcome hattempt, not_isReported_iff.1 hclass⟩

/-- Nothing may be made in this tree. -/
example : outcome (run (.ofText "bin/client".toList) (some "[Client]\n[Logging]\n") "client.conf" none none
    ⟨.idle .initial (.ofPeer []) (.fresh 0), .start ⟨[], fun _ => some "Permission denied"⟩⟩) =
      .error (.logFiles (.denied "Permission denied")) := rfl

end SqlWire.Console
