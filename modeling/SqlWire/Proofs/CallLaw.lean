import SqlWire.Proofs.Calls
import SqlWire.Proofs.Hostile
/-!
# What a call does to a connection

A statement on an open connection ends in one of three ways, of which one closes it (`query_ran`); on a
closed one it does nothing. From this `call_law` says what each call does to any connection.
-/
namespace SqlWire

open Stateful

/-- The statement that a call runs. -/
def Call.statement? : Call → Option Datum
  | .query sql => some sql
  | .executeQuery sql | .execute sql => some (.text (Statement.normalize (sql.getD "")))
  | .executeUpdate _ | .close | .enter | .leave => none

namespace Connection

variable {c c' : Connection} {sql : Datum} {f : Failure} {α : Type}

/-- The socket and the streams over it are held together. -/
structure Whole (c : Connection) : Prop where
  file : c.file = c.socket
  stream : c.stream = c.socket

/-! ## Closing -/

/-- The connection with another journal. -/
def journaled (c : Connection) (j : Journal) : Connection :=
  { c with session := { c.session with journal := j } }

/-- What is left of a connection that lets go of its socket. -/
def released (c : Connection) : Connection :=
  { c with socket := false, file := false, stream := false, socketCloses := c.socketCloses + 1 }

theorem note_eq (level : Level) (message : String) (c : Connection) :
    ∃ j, note level message c = .ok () (c.journaled j) := ⟨_, rfl⟩

theorem close_of_closed (h : c.isClosed = true) : close c = .ok () c := by
  show (if c.isClosed then _ else _ : Action Unit) c = _
  rw [if_pos h]
  rfl

/-- Whether the byte stream can be closed or not. -/
theorem close_of_open (h : c.isClosed = false) : ∃ j, close c = .ok () (c.journaled j).released := by
  have hnot : ¬ c.isClosed = true := by simp [h]
  cases hfault : c.session.transport.closeFault with
  | none =>
    refine ⟨c.session.journal, ?_⟩
    show (if c.isClosed then _ else _ : Action Unit) c = _
    rw [if_neg hnot, hfault]
    rfl
  | some reason =>
    obtain ⟨j, hnote⟩ := note_eq Level.debug s!"Ignore error on close: {reason}" c
    refine ⟨j, ?_⟩
    show (if c.isClosed then _ else _ : Action Unit) c = _
    rw [if_neg hnot, hfault]
    show (note _ _ >>= fun _ => release) c = _
    rw [bind_of_run hnote]
    rfl

/-- A failed statement closes the connection just where the stream is broken. -/
theorem settle_of_open (h : c.isClosed = false) (f : Failure) : ∃ j, (settle f : Action α) c =
    .error f (if f.breaksStream then (c.journaled j).released else c) := by
  unfold settle
  split
  · next hf =>
    obtain ⟨j, hnote⟩ := note_eq Level.error
      s!"Connection to {c.settings.host}:{c.settings.port} is broken, closing it" c
    obtain ⟨j', hclose⟩ := close_of_open (c := c.journaled j) h
    refine ⟨j', ?_⟩
    show (note _ _ >>= fun _ => close >>= fun _ => throw f : Action α) c = _
    rw [bind_of_run hnote, bind_of_run hclose]
    rfl
  · exact ⟨c.session.journal, rfl⟩

theorem closing_of_open (h : c.isClosed = false) (f : Failure) :
    ∃ j, (closing f : Action α) c = .error f (c.journaled j).released := by
  obtain ⟨j, hclose⟩ := close_of_open h
  refine ⟨j, ?_⟩
  unfold closing
  rw [bind_of_run hclose]
  rfl

/-! ## Statements -/

/-- What a statement does to a connection. -/
inductive Ran (sql : Datum) (c : Connection) :
    EStateM.Result Failure Connection (QueryResult String) → Prop where
  | closed : c.isClosed = true → Ran sql c (.error .closed c)
  | answered {r : QueryResult String} {s : Session} : c.isClosed = false →
      Session.execute sql c.session = .ok r s → Ran sql c (.ok r { c with session := s })
  /-- The server refused it, or it is too long, or there are no octets for it. -/
  | refused {f : Failure} {s : Session} : c.isClosed = false →
      Session.execute sql c.session = .error f s →
      f.errorClass? = some .query ∨ f.errorClass? = some .unsupported ∨ f.errorClass? = none →
      Ran sql c (.error f { c with session := s })
  /-- The stream is broken, and the connection closes. -/
  | broken {f : Failure} {s : Session} (j : Journal) : c.isClosed = false →
      Session.execute sql c.session = .error f s →
      f.errorClass? = some .transport ∨ f.errorClass? = some .protocol →
      Ran sql c (.error f (({ c with session := s } : Connection).journaled j).released)

theorem breaksStream_iff : f.breaksStream = true ↔
    f.errorClass? = some .transport ∨ f.errorClass? = some .protocol := by
  simp [Failure.breaksStream]

theorem settle_ran {s : Session} (h : c.isClosed = false)
    (hx : Session.execute sql c.session = .error f s) :
    Ran sql c (settle f { c with session := s }) := by
  obtain ⟨j, hsettle⟩ := settle_of_open (α := QueryResult String) (c := { c with session := s }) h f
  rw [hsettle]
  split
  · next hb => exact .broken j h hx (breaksStream_iff.1 hb)
  · next hb =>
    rw [breaksStream_iff] at hb
    refine .refused h hx ?_
    have hends := Session.execute_failsIn sql c.session
    rw [hx, outcome_error] at hends
    rcases hends with hclassified | ⟨t, ⟨⟩⟩
    · obtain ⟨k, hk, hmem⟩ := hclassified f rfl
      grind
    · exact .inr (.inr rfl)

theorem query_ran (sql : Datum) (c : Connection) : Ran sql c (query sql c) := by
  cases h : c.isClosed with
  | true =>
    rw [query_of_closed h]
    exact .closed h
  | false =>
    rw [query_of_open h]
    cases hx : Session.execute sql c.session with
    | ok r s => exact .answered h hx
    | error f s => exact settle_ran h hx

section Ran

variable {r : EStateM.Result Failure Connection (QueryResult String)}

/-- How a statement ends is not in the result of an earlier one. -/
theorem Ran.outcome_eq (h : Ran sql c r) : outcome r =
    if c.isClosed then .error .closed else outcome (Session.execute sql c.session) := by
  cases h with
  | closed hc => simp [hc]
  | answered hc hx | refused hc hx | broken _ hc hx => simp [hc, hx]

theorem Ran.whole (h : Ran sql c r) (hc : c.Whole) : (final r).Whole := by
  cases h with
  | closed | answered | refused => exact ⟨hc.file, hc.stream⟩
  | broken => exact ⟨rfl, rfl⟩

theorem Ran.lastResult (h : Ran sql c r) : (final r).lastResult = c.lastResult := by
  cases h <;> rfl

/-- Nothing but a broken stream closes the connection. -/
theorem Ran.isClosed_iff (h : Ran sql c r) (hopen : c.isClosed = false) :
    (final r).isClosed = true ↔
      Session.FailsWith .transport (outcome r) ∨ Session.FailsWith .protocol (outcome r) := by
  have hnot : ¬ c.isClosed = true := by simp [hopen]
  cases h with
  | closed hc => exact absurd hc hnot
  | answered => exact iff_of_false hnot (by simp)
  | refused _ _ hf =>
    rw [outcome_error, Session.failsWith_error, Session.failsWith_error]
    exact iff_of_false hnot (by grind)
  | broken _ _ _ hf => exact iff_of_true rfl (by simpa using hf)

end Ran

theorem outcome_query_withLast (sql : Datum) (c : Connection) (l : Option (QueryResult String)) :
    outcome (query sql { c with lastResult := l }) = outcome (query sql c) :=
  (query_ran sql _).outcome_eq.trans (query_ran sql c).outcome_eq.symm

theorem withLast_self {l : Option (QueryResult String)} (h : c.lastResult = l) :
    { c with lastResult := l } = c := by
  subst h
  rfl

/-- A statement whose result is kept. -/
theorem execute_spec (sql : Option Wording) (c : Connection) :
    outcome (execute sql c) = (outcome (executeQuery sql c)).map QueryResult.hasResultSet ∧
      final (execute sql c) = { final (executeQuery sql { c with lastResult := none }) with
        lastResult := (outcome (executeQuery sql c)).toOption } := by
  have ho : outcome (executeQuery sql { c with lastResult := none }) =
      outcome (executeQuery sql c) := outcome_query_withLast _ c none
  have hrun : execute sql c = (executeQuery sql >>= fun r =>
      (modify fun c => { c with lastResult := some r }) >>= fun _ => pure r.hasResultSet : Action Bool)
      { c with lastResult := none } := rfl
  cases h : outcome (executeQuery sql c) with
  | ok r =>
    rw [hrun, bind_of_ok (ho.trans h)]
    exact ⟨rfl, rfl⟩
  | error f =>
    have hlast : (final (executeQuery sql { c with lastResult := none })).lastResult = none :=
      (query_ran _ _).lastResult
    rw [hrun, bind_of_error (ho.trans h), final_error]
    exact ⟨rfl, (withLast_self hlast).symm⟩

/-! ## One call -/

theorem call_execute (sql : Option Wording) (c : Connection) :
    outcome (call (.execute sql) c) =
        (outcome (executeQuery sql c)).map (fun r => .hasResultSet r.hasResultSet) ∧
      final (call (.execute sql) c) = { final (executeQuery sql { c with lastResult := none }) with
        lastResult := (outcome (executeQuery sql c)).toOption } := by
  obtain ⟨ho, hf⟩ := bind_pure (x := execute sql) (s := c) Reply.hasResultSet
  obtain ⟨ho', hf'⟩ := execute_spec sql c
  refine ⟨ho.trans ?_, hf.trans hf'⟩
  rw [ho']
  cases outcome (executeQuery sql c) <;> rfl

/-- A call that runs a statement does to the connection what the statement does, but for the result of
an earlier one. -/
theorem call_statement {next : Call} (h : next.statement? = some sql) (c : Connection) :
    ∃ (g : QueryResult String → Reply) (l l' : Option (QueryResult String)),
      outcome (call next c) = (outcome (query sql c)).map g ∧
        final (call next c) = { final (query sql { c with lastResult := l }) with lastResult := l' } := by
  cases next with
  | query sql' =>
    cases h
    obtain ⟨ho, hf⟩ := call_query sql c
    exact ⟨_, c.lastResult, _, ho, hf⟩
  | executeQuery sql' =>
    cases h
    obtain ⟨ho, hf⟩ := bind_pure (x := executeQuery sql') (s := c) Reply.result
    exact ⟨_, c.lastResult, _, ho, hf⟩
  | execute sql' =>
    cases h
    obtain ⟨ho, hf⟩ := call_execute sql' c
    exact ⟨_, none, _, ho, hf⟩
  | executeUpdate | close | enter | leave => cases h

/-- What every call does to a connection. -/
structure Law (c : Connection) : Prop where
  whole : c.Whole → ∀ next, (final (call next c)).Whole
  stays_closed : c.isClosed = true → ∀ next, (final (call next c)).isClosed = true
  /-- A statement closes an open connection just where the stream is broken. -/
  statement_open : c.isClosed = false → ∀ next sql, next.statement? = some sql →
    (Session.FailsIn (· ∈ [.transport, .protocol, .query, .unsupported]) (outcome (call next c)) ∨
        Session.LacksOctets (outcome (call next c))) ∧
      ((final (call next c)).isClosed = true ↔ Session.FailsWith .transport (outcome (call next c)) ∨
        Session.FailsWith .protocol (outcome (call next c)))
  /-- Without a connection nothing is read or sent. -/
  statement_closed : c.isClosed = true → ∀ next sql, next.statement? = some sql →
    outcome (call next c) = .error .closed ∧ (final (call next c)).session = c.session
  update : ∀ sql, call (.executeUpdate sql) c = .error (.updateRefused (Datum.shownOption sql)) c
  close : outcome (call .close c) = .ok .nothing ∧ (final (call .close c)).isClosed = true
  close_again : c.isClosed = true → call .close c = .ok .nothing c
  leave : call .leave c = call .close c
  enter : call .enter c = .ok .nothing c
  execute : ∀ sql,
    outcome (call (.execute sql) c) =
        (outcome (executeQuery sql c)).map (fun r => .hasResultSet r.hasResultSet) ∧
      (final (call (.execute sql) c)).lastResult = (outcome (executeQuery sql c)).toOption
  lastResult : ∀ next, (∀ sql, next ≠ .execute sql) → (final (call next c)).lastResult = c.lastResult

theorem call_close (c : Connection) : ∃ c', call .close c = .ok .nothing c' ∧ c'.isClosed = true ∧
    (c.Whole → c'.Whole) ∧ c'.lastResult = c.lastResult ∧ (c.isClosed = true → c' = c) := by
  cases h : c.isClosed with
  | true =>
    refine ⟨c, ?_, h, id, rfl, fun _ => rfl⟩
    show (close >>= fun _ => pure Reply.nothing) c = _
    rw [bind_of_run (close_of_closed h)]
    rfl
  | false =>
    obtain ⟨j, hclose⟩ := close_of_open h
    refine ⟨(c.journaled j).released, ?_, rfl, fun _ => ⟨rfl, rfl⟩, rfl, by rintro ⟨⟩⟩
    show (close >>= fun _ => pure Reply.nothing) c = _
    rw [bind_of_run hclose]
    rfl

section Statement

variable {next : Call} (h : next.statement? = some sql)
include h

theorem whole_of_statement (hc : c.Whole) : (final (call next c)).Whole := by
  obtain ⟨g, l, l', -, hf⟩ := call_statement h c
  have hwhole : (final (query sql { c with lastResult := l })).Whole :=
    (query_ran sql _).whole ⟨hc.file, hc.stream⟩
  rw [hf]
  exact ⟨hwhole.file, hwhole.stream⟩

theorem failsIn_statement (hc : c.isClosed = false) :
    Session.FailsIn (· ∈ [.transport, .protocol, .query, .unsupported]) (outcome (call next c)) ∨
      Session.LacksOctets (outcome (call next c)) := by
  obtain ⟨g, l, l', ho, -⟩ := call_statement h c
  rw [ho, (query_ran sql c).outcome_eq, if_neg (by simp [hc])]
  exact (Session.execute_failsIn sql c.session).imp (·.map g) (·.map g)

theorem isClosed_statement (hc : c.isClosed = false) : (final (call next c)).isClosed = true ↔
    Session.FailsWith .transport (outcome (call next c)) ∨
      Session.FailsWith .protocol (outcome (call next c)) := by
  obtain ⟨g, l, l', ho, hf⟩ := call_statement h c
  have hran := (query_ran sql { c with lastResult := l }).isClosed_iff hc
  rw [outcome_query_withLast] at hran
  rw [hf, ho, Session.failsWith_map, Session.failsWith_map]
  exact hran

theorem statement_of_closed (hc : c.isClosed = true) :
    outcome (call next c) = .error .closed ∧ (final (call next c)).session = c.session ∧
      (final (call next c)).isClosed = true := by
  obtain ⟨g, l, l', ho, hf⟩ := call_statement h c
  rw [ho, hf, query_of_closed hc, query_of_closed (c := { c with lastResult := l }) hc]
  exact ⟨rfl, rfl, hc⟩

end Statement

theorem call_law (c : Connection) : Law c where
  whole hc next := by
    obtain ⟨c', hclose, -, hwhole, -⟩ := call_close c
    cases next with
    | query | executeQuery | execute => exact whole_of_statement rfl hc
    | executeUpdate | enter => exact hc
    | close | leave =>
      show (final (call .close c)).Whole
      rw [hclose]
      exact hwhole hc
  stays_closed hc next := by
    cases next with
    | query | executeQuery | execute => exact (statement_of_closed rfl hc).2.2
    | executeUpdate | enter => exact hc
    | close | leave =>
      obtain ⟨c', hclose, hclosed, -⟩ := call_close c
      show (final (call .close c)).isClosed = true
      rw [hclose]
      exact hclosed
  statement_open hc next sql h := ⟨failsIn_statement h hc, isClosed_statement h hc⟩
  statement_closed hc next sql h :=
    ⟨(statement_of_closed h hc).1, (statement_of_closed h hc).2.1⟩
  update _ := rfl
  close := by
    obtain ⟨c', hclose, hclosed, -⟩ := call_close c
    rw [hclose]
    exact ⟨rfl, hclosed⟩
  close_again hc := by
    obtain ⟨c', hclose, -, -, -, hsame⟩ := call_close c
    rw [hclose, hsame hc]
  leave := rfl
  enter := rfl
  execute sql := by
    obtain ⟨ho, hf⟩ := call_execute sql c
    rw [hf]
    exact ⟨ho, rfl⟩
  lastResult next hnext := by
    cases next with
    | query sql =>
      rw [(call_query sql c).2]
      exact (query_ran sql c).lastResult
    | executeQuery sql =>
      have hf := (bind_pure (x := executeQuery sql) (s := c) Reply.result).2
      exact (congrArg Connection.lastResult hf).trans (query_ran _ c).lastResult
    | execute sql => exact absurd rfl (hnext sql)
    | executeUpdate | enter => rfl
    | close | leave =>
      obtain ⟨c', hclose, -, -, hlast, -⟩ := call_close c
      show (final (call .close c)).lastResult = _
      rw [hclose]
      exact hlast

end Connection

end SqlWire
