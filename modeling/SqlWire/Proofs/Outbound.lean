import SqlWire.Proofs.Lifecycle
import SqlWire.Proofs.Listening
import SqlWire.Proofs.Refusal
/-!
# What a client sends

A call sends the one packet of its statement or nothing (`sent_call`), whatever the server answers. By
induction a run sends the packets of the statements that it submits, in the order of the calls, behind the
login that opened the connection (`outbound`).
-/
namespace SqlWire

open Stateful

namespace Transport

instance (t : Transport) : Decidable t.Writable :=
  decidable_of_iff (∀ fault ∈ t.writeFault, t.sent.length < fault.1)
    ⟨fun h limit reason hf => h (limit, reason) hf, fun h fault hf => h fault.1 fault.2 hf⟩

theorem sentOctets_eq {t t' : Transport} {packets : List Packet}
    (h : t'.sent = (packets.map Packet.frame).reverse ++ t.sent) :
    t'.sentOctets = t.sentOctets ++ packets.flatMap Packet.frame := by
  simp [sentOctets, h, List.flatMap_def]

end Transport

namespace Session

variable {sql : Datum} {query : Bytes}

/-! ## One statement -/

/-- The one packet is sent where it can be, and nothing else is, whatever comes of it. -/
theorem sent_execute (ho : sql.octets = .ok query) (s : Session) : (final (execute sql s)).transport.sent =
    if (statementPayload query).length ≤ Frame.maxPayload ∧ s.transport.Writable then
      requestFrame query :: s.transport.sent
    else s.transport.sent := by
  by_cases hle : (statementPayload query).length ≤ Frame.maxPayload
  · have hsql : StatementFits sql query := ⟨ho, hle⟩
    by_cases hw : s.transport.Writable
    · have hrequest := course_request hsql hw
      rw [if_pos ⟨hle, hw⟩, execute_eq, bind_of_ok hrequest.outcome_eq,
        closed_listens.answer trivial trivial]
      exact hrequest.moves.sent
    · obtain ⟨reason, hrequest⟩ := course_request_of_not_writable hsql hw
      rw [if_neg fun h => hw h.2, execute_eq]
      exact hrequest.bind_error.moves.sent
  · have hlong : Frame.maxPayload < 1 + query.length := by
      rw [← length_statementPayload]
      exact Nat.lt_of_not_le hle
    rw [if_neg fun h => hle h.1, execute_tooLong ho hlong]
    rfl

/-- The write did not fail, whatever else did. -/
def WriteDone {α : Type} (r : Except Failure α) : Prop := ∀ reason, r ≠ .error (.writeFailed reason)

theorem writeDone_receiveAny (s : Session) : WriteDone (outcome (receiveAny s)) := by
  intro reason
  unfold receiveAny
  split
  · next e t h => cases e <;> rintro ⟨⟩
  · next p t h =>
    obtain ⟨j, hdump⟩ := noteDump_of_frame p.headerLength_le_frame { s with transport := t }
    simp only [show Frame.header p.payload.length p.sequence ++ p.payload = p.frame from rfl, hdump]
    rintro ⟨⟩

theorem closed_writeDone : Closed (· ≠ .transport) (fun x => ∀ s, WriteDone (outcome (x s))) :=
  .of_runs (by decide) (fun _ _ _ => by rintro ⟨⟩)
    (fun {_ _ _} he hc _ reason h => by
      cases h
      cases he
      exact hc rfl)
    (fun {_ _ x _ s} hx hf reason => by
      cases h : outcome (x s) with
      | ok a =>
        rw [bind_of_ok h]
        exact hf a h reason
      | error e =>
        rw [bind_of_error h]
        rintro ⟨⟩
        exact hx reason h)
    (fun _ _ _ => by rintro ⟨⟩) (fun _ _ => by rintro ⟨⟩) writeDone_receiveAny

/-- Only where its own packet cannot be written does a statement fail to write. -/
theorem writeDone_execute_iff (hsql : StatementFits sql query) (s : Session) :
    WriteDone (outcome (execute sql s)) ↔ s.transport.Writable := by
  constructor
  · intro hdone
    by_contra hw
    obtain ⟨reason, hrequest⟩ := course_request_of_not_writable hsql hw
    refine hdone reason ?_
    rw [execute_eq]
    exact hrequest.bind_error.outcome_eq
  · intro hw
    rw [execute_eq, bind_of_ok (course_request hsql hw).outcome_eq]
    exact closed_writeDone.answer (by decide) (by decide) _

end Session

/-- The octets of the statement that a call runs, if UTF-8 has them. -/
def Call.octets? (next : Call) : Option Bytes := next.statement?.bind fun sql => sql.octets.toOption

theorem Call.octets?_eq_some_iff {next : Call} {query : Bytes} : next.octets? = some query ↔
    ∃ sql, next.statement? = some sql ∧ sql.octets = .ok query := by
  have hoctets (sql : Datum) : sql.octets.toOption = some query ↔ sql.octets = .ok query := by
    cases sql.octets <;> simp [Except.toOption]
  simp [Call.octets?, Option.bind_eq_some_iff, hoctets]

namespace Connection

variable {c : Connection} {sql : Datum} {query : Bytes} {next : Call}

/-! ## One call -/

theorem Ran.transport_eq {r : EStateM.Result Failure Connection (QueryResult String)} (h : Ran sql c r) :
    (final r).session.transport =
      if c.isClosed then c.session.transport else (final (Session.execute sql c.session)).transport := by
  cases h with
  | closed hc =>
    rw [if_pos hc]
    rfl
  | answered hc hx | refused hc hx | broken _ hc hx =>
    rw [if_neg (by simp [hc]), hx]
    rfl

theorem transport_of_statement (h : next.statement? = some sql) (c : Connection) :
    (final (call next c)).session.transport =
      if c.isClosed then c.session.transport else (final (Session.execute sql c.session)).transport := by
  obtain ⟨g, l, l', -, hf⟩ := call_statement h c
  rw [hf]
  exact (query_ran sql { c with lastResult := l }).transport_eq

theorem transport_of_close (c : Connection) :
    (final (call .close c)).session.transport = c.session.transport := by
  show (final ((close >>= fun _ => pure Reply.nothing : Action Reply) c)).session.transport = _
  cases h : c.isClosed with
  | true =>
    rw [bind_of_run (close_of_closed h)]
    rfl
  | false =>
    obtain ⟨j, hclose⟩ := close_of_open h
    rw [bind_of_run hclose]
    rfl

/-- Calls without a statement leave the transport alone. -/
theorem transport_of_no_statement (h : next.statement? = none) (c : Connection) :
    (final (call next c)).session.transport = c.session.transport := by
  cases next with
  | query | executeQuery | execute => cases h
  | executeUpdate | enter => rfl
  | close | leave => exact transport_of_close c

/-- A call sends a statement that is made on an open connection, fits one packet, and can be written. -/
def Submits (c : Connection) (query : Bytes) : Prop :=
  c.isClosed = false ∧ (statementPayload query).length ≤ Frame.maxPayload ∧ c.session.transport.Writable

instance (c : Connection) (query : Bytes) : Decidable (c.Submits query) :=
  inferInstanceAs (Decidable (_ ∧ _))

/-- The octets of the statement that a call sends. -/
def submitted? (c : Connection) (next : Call) : Option Bytes :=
  next.octets?.filter fun query => c.Submits query

/-- The statements that a run of calls sends, one for each call that sends one. -/
def submitted : List Call → Connection → List Bytes
  | [], _ => []
  | next :: calls, c => (c.submitted? next).toList ++ submitted calls (final (call next c))

theorem submitted?_of_octets (h : next.octets? = some query) :
    c.submitted? next = if c.Submits query then some query else none := by
  simp [submitted?, h, Option.filter]

theorem submitted?_eq_some_iff : c.submitted? next = some query ↔
    next.octets? = some query ∧ c.Submits query := by
  simp [submitted?, Option.filter_eq_some_iff]

/-- A call that runs no statement, or one without octets, sends nothing. -/
theorem sent_call_of_no_octets (h : next.octets? = none) (c : Connection) :
    (final (call next c)).session.transport.sent = c.session.transport.sent := by
  cases hstatement : next.statement? with
  | none => rw [transport_of_no_statement hstatement]
  | some sql =>
    rw [transport_of_statement hstatement]
    cases ho : sql.octets with
    | ok query => cases h.symm.trans (Call.octets?_eq_some_iff.2 ⟨sql, hstatement, ho⟩)
    | error e =>
      rw [Session.execute_unencodable ho]
      split <;> rfl

theorem sent_call (next : Call) (c : Connection) : (final (call next c)).session.transport.sent =
    ((c.submitted? next).toList.map Session.requestFrame) ++ c.session.transport.sent := by
  cases h : next.octets? with
  | none =>
    rw [sent_call_of_no_octets h]
    simp [submitted?, h]
  | some query =>
    obtain ⟨sql, hstatement, ho⟩ := Call.octets?_eq_some_iff.1 h
    rw [transport_of_statement hstatement, submitted?_of_octets h]
    cases hc : c.isClosed with
    | true => simp [Submits, hc]
    | false =>
      rw [if_neg (by simp), Session.sent_execute ho]
      by_cases hs : (statementPayload query).length ≤ Frame.maxPayload ∧ c.session.transport.Writable
      · rw [if_pos hs, if_pos (show c.Submits query from ⟨hc, hs⟩)]
        rfl
      · rw [if_neg hs, if_neg fun h : c.Submits query => hs h.2]
        rfl

/-- On an open connection, a statement that fits one packet is sent just if its write did not fail. -/
theorem submits_iff_writeDone (h : next.statement? = some sql) (hc : c.isClosed = false)
    (hsql : Session.StatementFits sql query) :
    c.Submits query ↔ Session.WriteDone (outcome (call next c)) := by
  obtain ⟨g, l, l', ho, -⟩ := call_statement h c
  rw [ho, (query_ran sql c).outcome_eq, if_neg (by simp [hc])]
  have hdone : Session.WriteDone ((outcome (Session.execute sql c.session)).map g) ↔
      Session.WriteDone (outcome (Session.execute sql c.session)) := by
    cases outcome (Session.execute sql c.session) <;> simp [Session.WriteDone, Except.map]
  rw [hdone, Session.writeDone_execute_iff hsql]
  simp [Submits, hc, hsql.length_le]

/-! ## Runs of calls -/

theorem sent_converse (calls : List Call) (c : Connection) :
    (converse calls c).2.session.transport.sent =
      ((submitted calls c).map Session.requestFrame).reverse ++ c.session.transport.sent := by
  induction calls generalizing c with
  | nil => rfl
  | cons next calls ih =>
    have hrest := ih (final (call next c))
    rw [sent_call] at hrest
    refine hrest.trans ?_
    cases h : c.submitted? next <;> simp [submitted, h]

theorem submitted_append (before after : List Call) (c : Connection) :
    submitted (before ++ after) c = submitted before c ++ submitted after (converse before c).2 := by
  induction before generalizing c with
  | nil => rfl
  | cons next before ih =>
    simp only [List.cons_append, submitted, ih, List.append_assoc]
    rfl

theorem submitted_sublist (calls : List Call) (c : Connection) :
    (submitted calls c).Sublist (calls.filterMap Call.octets?) := by
  induction calls generalizing c with
  | nil => exact .slnil
  | cons next calls ih =>
    have hrest := ih (final (call next c))
    cases h : next.octets? with
    | none =>
      rw [List.filterMap_cons_none h]
      simpa [submitted, submitted?, h] using hrest
    | some query =>
      rw [List.filterMap_cons_some h, submitted, submitted?_of_octets h]
      split
      · exact hrest.cons_cons query
      · exact hrest.cons query

theorem submits_of_mem {calls : List Call} (h : query ∈ submitted calls c) :
    ∃ before, (converse before c).2.Submits query := by
  induction calls generalizing c with
  | nil => cases h
  | cons next calls ih =>
    rcases List.mem_append.1 h with hnext | hrest
    · exact ⟨[], (submitted?_eq_some_iff.1 (Option.mem_toList.1 hnext)).2⟩
    · obtain ⟨before, hsubmits⟩ := ih hrest
      exact ⟨next :: before, hsubmits⟩

/-- Nothing is sent on a closed connection. -/
theorem submitted_of_closed (calls : List Call) (h : c.isClosed = true) : submitted calls c = [] := by
  rw [List.eq_nil_iff_forall_not_mem]
  intro query hmem
  obtain ⟨before, hopen, -⟩ := submits_of_mem hmem
  rw [closed_of_converse before h] at hopen
  cases hopen

/-! ## From the opening on -/

end Connection

/-- The packets that a login sends, by how it ends: at most one, and none only if it fails. -/
inductive Session.Logins (c : Credentials) : Except Failure (Greeting String) → List Packet → Prop where
  | unsent (f : Failure) : Logins c (.error f) []
  | sent {r : Except Failure (Greeting String)} (id : Int) (g : Greeting String) (login : Bytes) :
      (∀ g', r = .ok g' → g' = g) → c.Answers g.nonce login → (Packet.mk id login).Fits →
      Logins c r [⟨id, login⟩]

theorem Session.logins_authenticate (c : Credentials) (s : Session) :
    ∃ logins, Logins c (outcome (authenticate c s)) logins ∧
      (final (authenticate c s)).transport.sent = (logins.map Packet.frame).reverse ++ s.transport.sent := by
  rcases welcome_course s with ⟨e, b, id, h⟩ | ⟨p, g, rest, hg⟩
  · have hcourse := h.bind_error (f := signIn c)
    rw [← authenticate_eq] at hcourse
    rw [hcourse.outcome_eq]
    exact ⟨[], .unsent e, hcourse.moves.sent⟩
  by_cases h : (∃ login, LoginFits c g.nonce login) ∧ s.transport.Writable
  · obtain ⟨⟨login, hlogin⟩, hw⟩ := h
    have hfits : (Packet.mk (succId p.sequence) login).Fits :=
      ⟨(isId_succId _).1, (isId_succId _).2, hlogin.length_le⟩
    refine ⟨[⟨succId p.sequence, login⟩], .sent _ g login ?_ hlogin.answers hfits,
      sent_authenticate hg hlogin hw⟩
    intro g' hg'
    rcases course_authenticate_of_sendable hg hlogin hw with ⟨e, b, id, h⟩ | ⟨q, rest, ha, hv⟩
    · cases hg'.symm.trans h.outcome_eq
    · have hok := (course_authenticate_of_answered ha).outcome_eq
      rw [hv, hg'] at hok
      cases hok
      rfl
  · obtain ⟨e, hcourse⟩ := course_authenticate_of_unsendable hg h
    rw [hcourse.outcome_eq]
    exact ⟨[], .unsent e, hcourse.moves.sent⟩

namespace Connection

variable {c : Connection}

/-- Opening a connection is a login, with something noted before it at most. -/
theorem opening_eq (opening : Opening) (settings : Settings) (transport : Transport) (journal : Journal) :
    ∃ c₀ : Connection, opening.run (idle settings transport journal) = login c₀ ∧
      c₀.settings = settings ∧ c₀.session.transport = transport := by
  cases opening with
  | socket => exact ⟨_, rfl, rfl, rfl⟩
  | dialed =>
    obtain ⟨j, dials, timeouts, hconnect⟩ := connect_eq (idle settings transport journal)
    exact ⟨_, hconnect, rfl, rfl⟩

/-- What a connection has sent that was opened over `transport` and then ran `calls`: `logins`, and the
packets of the statements behind them. -/
structure Outbound (transport : Transport) (logins : List Packet) (c : Connection) (calls : List Call) :
    Prop where
  octets : (converse calls c).2.session.transport.sentOctets = transport.sentOctets ++
    (logins ++ (submitted calls c).map fun query =>
      Packet.mk 0 (Marker.query :: query)).flatMap Packet.frame
  fits : ∀ query ∈ submitted calls c, (Packet.mk 0 (Marker.query :: query)).Fits
  login_first : submitted calls c ≠ [] → logins ≠ []
  in_order : (submitted calls c).Sublist (calls.filterMap Call.octets?)
  /-- A call adds its own statement, or nothing. -/
  call_by_call : ∀ before next after, calls = before ++ next :: after →
    submitted calls c = submitted before c ++ ((converse before c).2.submitted? next).toList ++
      submitted after (converse (before ++ [next]) c).2
  submitted_iff : ∀ before next after query, calls = before ++ next :: after →
    ((converse before c).2.submitted? next = some query ↔
      (∃ sql, next.statement? = some sql ∧ sql.octets = .ok query) ∧
        (converse before c).2.isClosed = false ∧ 1 + query.length ≤ Frame.maxPayload ∧
        Session.WriteDone (outcome (call next (converse before c).2)))

/-- Whatever the peer does and wherever the transport fails, what is sent is well formed: at most one
login, and behind it the statements of just those calls that are made while the connection is open and
whose packets can be written. -/
theorem outbound (opening : Opening) (settings : Settings) (transport : Transport) (journal : Journal) :
    ∃ logins, Session.Logins (credentials settings)
        (outcome (opening.run (idle settings transport journal))) logins ∧
      ∀ calls, Outbound transport logins (final (opening.run (idle settings transport journal))) calls := by
  obtain ⟨c₀, hrun, rfl, rfl⟩ := opening_eq opening settings transport journal
  obtain ⟨logins, hlogins, hsent⟩ := Session.logins_authenticate (credentials c₀.settings) c₀.session
  rw [hrun, outcome_login]
  rw [← transport_of_login] at hsent
  refine ⟨logins, hlogins, fun calls => ?_⟩
  constructor
  · refine Transport.sentOctets_eq ?_
    rw [sent_converse, hsent, List.map_append, List.reverse_append, List.append_assoc, List.map_map]
    rfl
  · intro query hmem
    obtain ⟨before, -, hle, -⟩ := submits_of_mem hmem
    exact ⟨Int.le_refl 0, show (0 : Int) < 256 by decide, hle⟩
  · rintro hne rfl
    cases h : login c₀ with
    | ok g c =>
      rw [← outcome_login, h] at hlogins
      cases hlogins
    | error f c =>
      rw [h] at hne
      exact hne (submitted_of_closed calls (login_error h).closed)
  · exact submitted_sublist calls _
  · rintro before next after rfl
    rw [submitted_append, List.append_assoc, converse_append]
    rfl
  · rintro before next after query rfl
    rw [submitted?_eq_some_iff, Call.octets?_eq_some_iff, ← Session.length_statementPayload]
    constructor
    · rintro ⟨⟨sql, h, ho⟩, hc, hle, hw⟩
      exact ⟨⟨sql, h, ho⟩, hc, hle, (submits_iff_writeDone h hc ⟨ho, hle⟩).1 ⟨hc, hle, hw⟩⟩
    · rintro ⟨⟨sql, h, ho⟩, hc, hle, hdone⟩
      exact ⟨⟨sql, h, ho⟩, (submits_iff_writeDone h hc ⟨ho, hle⟩).2 hdone⟩

/-- A statement, and another one on the connection that was closed behind it. -/
theorem outbound_of_closing :
    let c := final (login (idle .initial (.ofPeer ((Packet.mk 0 Greeting.initial.encode).frame ++
      (Packet.mk 2 [0, 0, 0]).frame)) (.fresh 0)))
    ∃ id, (converse [.query (.text "DO 1"), .close, .execute (some "DO 2;")] c).2.session.transport.sentOctets =
      (Packet.mk id LoginPacket.initial.encode).frame ++
        (Packet.mk 0 (3 :: Utf8.encode "DO 1")).frame := by
  intro c
  obtain ⟨g, hg⟩ : ∃ g, Greeting.decode.read (Packet.mk 0 Greeting.initial.encode).payload = .ok g :=
    ⟨_, rfl⟩
  have hp : (Packet.mk 0 Greeting.initial.encode).Fits := ⟨by decide, by decide, by decide⟩
  have hq : (Packet.mk 2 [0, 0, 0]).Fits := ⟨by decide, by decide, by decide⟩
  have hfits := Session.loginFits_of_nobody (c := credentials .initial) rfl rfl g.nonce
  have ht : Session.Takes (Session.authenticate (credentials .initial)) 0 _ _ _ _ :=
    Session.takes_authenticate hp rfl hg hfits hq rfl rfl
  obtain ⟨ho, hm, -⟩ := ht.ends (Session.start (.ofPeer _) (.fresh 0)) []
    ⟨⟨rfl, rfl⟩, rfl, (List.append_nil _).symm⟩
  have hlogin := eq_ok_iff.2 ⟨(outcome_login (idle .initial (.ofPeer _) (.fresh 0))).trans ho, rfl⟩
  have hw : c.session.transport.Writable := by
    rw [show c.session.transport = _ from transport_of_login _]
    exact fun limit reason h => by cases hm.writeFault.symm.trans h
  have hsubmits : c.Submits (Utf8.encode "DO 1") := ⟨(login_ok hlogin).1, by decide, hw⟩
  have hsubmitted : submitted [.query (.text "DO 1"), .close, .execute (some "DO 2;")] c =
      [Utf8.encode "DO 1"] := by
    have hclosed := (call_law (final (call (.query (.text "DO 1")) c))).close.2
    rw [submitted, submitted?_of_octets rfl, if_pos hsubmits, submitted, submitted_of_closed _ hclosed]
    rfl
  obtain ⟨logins, hlogins, hall⟩ := outbound .socket .initial (.ofPeer _) (.fresh 0)
  have hout : Outbound _ logins c [.query (.text "DO 1"), .close, .execute (some "DO 2;")] := hall _
  have hoctets := hout.octets
  have hlogin_first := hout.login_first
  rw [hsubmitted] at hoctets hlogin_first
  generalize outcome (Opening.run _ _) = r at hlogins
  cases hlogins with
  | unsent f => exact absurd rfl (hlogin_first (by simp))
  | sent id g' login hg' hanswers =>
    have hlogin : Except.ok login = .ok LoginPacket.initial.encode :=
      (Session.Credentials.answers_iff.1 hanswers).symm
    cases hlogin
    exact ⟨id, by simpa [Transport.ofPeer, Transport.sentOctets, Marker.query] using hoctets⟩

end Connection

end SqlWire
