import SqlWire.Proofs.Agree
import SqlWire.Proofs.Lifecycle
/-!
# Two connections side by side

Twins are connections that differ in the password at most, and in their sessions, which agree within some
leeway. The password is only looked at in the login. So no call tells twins apart (`twin_call`), and twins
stay so in any run of calls; and what opening two connections comes to hangs on their logins alone
(`start_related`).
-/
namespace SqlWire.Connection

open Stateful

variable {α : Type} {L : Leeway} {c c' : Connection}

/-- Connections that differ in the password and the session at most. -/
inductive Twin (L : Leeway) : Connection → Connection → Prop where
  | mk (c : Connection) (password : Option Datum) (s : Session) : c.session.Agree L s →
      Twin L c { c with settings := { c.settings with password }, session := s }

theorem Twin.session (h : Twin L c c') : c.session.Agree L c'.session := by
  cases h
  assumption

theorem Twin.isClosed (h : Twin L c c') : c.isClosed = c'.isClosed := by
  cases h
  rfl

/-! ## Opening and closing -/

theorem twin_inSession {x : Exchange α} (hx : Respects (Session.Agree L) x) :
    Respects (Twin L) (inSession x) := by
  rintro c _ ⟨password, s, h⟩
  unfold inSession
  rcases hx.cases h with ⟨a, s1, s1', hs, hs', h1⟩ | ⟨e, s1, s1', hs, hs', h1⟩
  · simp only [hs, hs']
    exact ⟨rfl, .mk _ password _ h1⟩
  · simp only [hs, hs']
    exact ⟨rfl, .mk _ password _ h1⟩

theorem twin_note (level : Level) (message : String) : Respects (Twin L) (note level message) :=
  twin_inSession (Session.agree_note level message)

theorem twin_release : Respects (Twin L) release := by
  rintro c _ ⟨password, s, h⟩
  exact ⟨rfl, .mk _ password _ h⟩

/-- What closing does, by what it looks at first. -/
def closeBy (closed : Bool) (fault : Option String) : Action Unit :=
  if closed then pure ()
  else match fault with
    | none => release
    | some reason => note Level.debug s!"Ignore error on close: {reason}" >>= fun _ => release

theorem close_eq (c : Connection) : close c = closeBy c.isClosed c.session.transport.closeFault c := by
  unfold closeBy
  split
  · next h => exact close_of_closed h
  · next h =>
    show (if c.isClosed then _ else _ : Action Unit) c = _
    rw [if_neg h]
    cases c.session.transport.closeFault <;> rfl

theorem twin_close : Respects (Twin L) close := by
  intro c c' h
  rw [close_eq, close_eq, ← h.isClosed, ← h.session.transport.closeFault]
  have hclose : Respects (Twin L) (closeBy c.isClosed c.session.transport.closeFault) := by
    unfold closeBy
    split
    · exact respects_pure _
    · split
      · exact twin_release
      · exact (twin_note _ _).bind fun _ => twin_release
  exact hclose c c' h

theorem twin_closing (f : Failure) : Respects (Twin L) (closing f : Action α) :=
  twin_close.bind fun _ => respects_throw f

/-! ## Statements -/

theorem twin_settle (f : Failure) : Respects (Twin L) (settle f : Action α) := by
  rintro c _ ⟨password, s, h⟩
  unfold settle
  split
  · -- both note the same address
    have hsettle : Respects (Twin L) (note Level.error
        s!"Connection to {c.settings.host}:{c.settings.port} is broken, closing it" >>= fun _ =>
          close >>= fun _ => throw f : Action α) :=
      (twin_note _ _).bind fun _ => twin_close.bind fun _ => respects_throw f
    exact hsettle c _ (.mk c password s h)
  · exact ⟨rfl, .mk c password s h⟩

theorem twin_query (sql : Datum) : Respects (Twin L) (query sql) := by
  intro c c' h
  cases hclosed : c.isClosed with
  | true =>
    rw [query_of_closed hclosed, query_of_closed (h.isClosed ▸ hclosed)]
    exact ⟨rfl, h⟩
  | false =>
    rw [query_of_open hclosed, query_of_open (h.isClosed ▸ hclosed)]
    obtain ⟨password, s, h⟩ := h
    rcases (Session.agree_execute sql).cases h with ⟨r, s1, s1', hs, hs', h1⟩ | ⟨f, s1, s1', hs, hs', h1⟩
    · simp only [hs, hs']
      exact ⟨rfl, .mk _ password _ h1⟩
    · simp only [hs, hs']
      exact twin_settle f { c with session := s1 } _ (.mk _ password _ h1)

theorem twin_execute (sql : Option Wording) : Respects (Twin L) (execute sql) := by
  have hkeep (r : Option (QueryResult String)) :
      Respects (Twin L) (modify fun c => { c with lastResult := r } : Action Unit) := by
    rintro c _ ⟨password, s, h⟩
    exact ⟨rfl, .mk _ password _ h⟩
  exact (hkeep none).bind fun _ => (twin_query _).bind fun r => (hkeep (some r)).bind fun _ =>
    respects_pure _

/-- No call looks at the password. -/
theorem twin_call (next : Call) : Respects (Twin L) (call next) := by
  cases next with
  | query sql | executeQuery sql => exact (twin_query _).bind fun r => respects_pure _
  | execute sql => exact (twin_execute sql).bind fun b => respects_pure _
  | executeUpdate sql => exact (respects_throw _).bind fun _ => respects_pure _
  | close | leave => exact twin_close.bind fun _ => respects_pure _
  | enter => exact respects_pure _

theorem twin_converse (calls : List Call) (h : Twin L c c') :
    (converse calls c).1 = (converse calls c').1 ∧ Twin L (converse calls c).2 (converse calls c').2 := by
  rw [converse_eq, converse_eq]
  exact Respects.runAll twin_call calls h

/-! ## From the opening on -/

/-- A connection is opened over a socket at hand, or over one that is dialed, which a fault may prevent. -/
inductive Starts : Action (Greeting String) → Prop where
  | socket : Starts login
  | dialed (fault : Option DialFault) : Starts (connect fault)

/-- Connections that differ in the password and the session at most, and whose logins end alike. -/
theorem login_related {password : Option Datum} {s : Session}
    (h : outcome (Session.authenticate (credentials c.settings) c.session) =
        outcome (Session.authenticate (credentials { c.settings with password }) s) ∧
      (final (Session.authenticate (credentials c.settings) c.session)).Agree L
        (final (Session.authenticate (credentials { c.settings with password }) s))) :
    outcome (login c) =
        outcome (login { c with settings := { c.settings with password }, session := s }) ∧
      Twin L (final (login c))
        (final (login { c with settings := { c.settings with password }, session := s })) := by
  obtain ⟨ho, hfinal⟩ := h
  rw [login_eq, login_eq]
  cases hs : Session.authenticate (credentials c.settings) c.session with
  | ok g s1 =>
    cases hs' : Session.authenticate (credentials { c.settings with password }) s with
    | ok g' s1' =>
      rw [hs, hs'] at ho hfinal
      cases ho
      exact ⟨rfl, .mk _ password _ hfinal⟩
    | error f' s1' =>
      rw [hs, hs'] at ho
      cases ho
  | error f s1 =>
    cases hs' : Session.authenticate (credentials { c.settings with password }) s with
    | ok g' s1' =>
      rw [hs, hs'] at ho
      cases ho
    | error f' s1' =>
      rw [hs, hs'] at ho hfinal
      cases ho
      exact twin_closing f _ _ (.mk _ password _ hfinal)

/-- What opening two connections comes to, if it is known what their logins come to. -/
theorem start_related {start : Action (Greeting String)} (hstart : Starts start) {settings : Settings}
    (password : Option Datum) {transport : Transport} {j j' : Journal} {L₀ : Leeway} {P : Leeway → Prop}
    (h : (Session.start transport j).Agree L₀ (Session.start transport j'))
    (hauth : ∀ s s' : Session, s.Agree L₀ s' → ∃ L, P L ∧ s.Agree L s' ∧
      outcome (Session.authenticate (credentials settings) s) =
        outcome (Session.authenticate (credentials { settings with password }) s') ∧
      (final (Session.authenticate (credentials settings) s)).Agree L
        (final (Session.authenticate (credentials { settings with password }) s'))) :
    ∃ L, P L ∧ outcome (start (idle settings transport j)) =
        outcome (start (idle { settings with password } transport j')) ∧
      Twin L (final (start (idle settings transport j)))
        (final (start (idle { settings with password } transport j'))) := by
  cases hstart with
  | socket =>
    obtain ⟨L, hP, -, hlogins⟩ := hauth _ _ h
    exact ⟨L, hP, login_related (c := idle settings transport j) hlogins⟩
  | dialed fault =>
    -- what is noted before the login is the same
    obtain ⟨-, hnoted⟩ := Session.agree_note Level.info s!"Connect to {settings.host}:{settings.port}" _ _ h
    obtain ⟨L, hP, hagree, hlogins⟩ := hauth _ _ hnoted
    cases fault with
    | none =>
      exact ⟨L, hP, login_related (c := { idle settings transport j with
        session := _
        dials := [⟨settings.host, settings.port, settings.connectTimeout⟩]
        timeouts := [none] }) hlogins⟩
    | some e =>
      cases e with
      | refused | invalid =>
        exact ⟨L, hP, rfl, .mk { idle settings transport j with
          session := _
          dials := [⟨settings.host, settings.port, settings.connectTimeout⟩] } password _ hagree⟩

end SqlWire.Connection
