import SqlWire.Proofs.CallLaw
/-!
# The life of a connection

A connection is open from a login on until it closes, and closed ever after. What `call_law` says of a
single call, induction carries to any run of calls.
-/
namespace SqlWire.Connection

open Stateful

variable {c : Connection} {f : Failure}

/-! ## Runs of calls -/

theorem whole_of_converse (calls : List Call) (h : c.Whole) : (converse calls c).2.Whole := by
  rw [converse_eq]
  exact runAll_keeps (fun next c h => (call_law c).whole h next) calls h

theorem closed_of_converse (calls : List Call) (h : c.isClosed = true) :
    (converse calls c).2.isClosed = true := by
  rw [converse_eq]
  exact runAll_keeps (I := fun c => c.isClosed = true) (fun next c h => (call_law c).stays_closed h next)
    calls h

theorem lastResult_of_converse {calls : List Call} (h : ∀ sql, Call.execute sql ∉ calls) :
    (converse calls c).2.lastResult = c.lastResult := by
  induction calls generalizing c with
  | nil => rfl
  | cons next calls ih =>
    have hnext : ∀ sql, next ≠ .execute sql := fun sql he => h sql (he ▸ List.mem_cons_self)
    have hrest : ∀ sql, Call.execute sql ∉ calls := fun sql hm => h sql (List.mem_cons_of_mem _ hm)
    exact (ih hrest).trans ((call_law c).lastResult next hnext)

/-- What holds after any run of calls. -/
structure Life (c : Connection) (calls : List Call) : Prop where
  whole : (converse calls c).2.Whole
  /-- What the next call does, whichever it is. -/
  law : Law (converse calls c).2
  closed_for_good : (converse calls c).2.isClosed = true →
    ∀ more, (converse (calls ++ more) c).2.isClosed = true
  lastResult_none : (∀ sql, Call.execute sql ∉ calls) → (converse calls c).2.lastResult = none
  /-- The result is that of the latest `execute`, if that had one. -/
  lastResult_latest : ∀ before sql after, calls = before ++ .execute sql :: after →
    (∀ sql', Call.execute sql' ∉ after) →
      (converse calls c).2.lastResult = (outcome (executeQuery sql (converse before c).2)).toOption

theorem life_of_whole (hwhole : c.Whole) (hlast : c.lastResult = none) (calls : List Call) :
    Life c calls where
  whole := whole_of_converse calls hwhole
  law := call_law _
  closed_for_good h more := by
    rw [converse_append]
    exact closed_of_converse more h
  lastResult_none h := (lastResult_of_converse h).trans hlast
  lastResult_latest before sql after hcalls hafter := by
    rw [hcalls, converse_append]
    exact (lastResult_of_converse hafter).trans ((call_law _).execute sql).2

/-! ## From the opening on -/

/-- A connection is opened over a socket at hand, or over one that is dialed. -/
inductive Opening where
  | socket
  | dialed

def Opening.run : Opening → Action (Greeting String)
  | .socket => login
  | .dialed => connect none

/-- Dialing changes nothing that a login looks at but the journal. -/
theorem connect_eq (c : Connection) :
    ∃ j dials timeouts, connect none c = login { c.journaled j with dials, timeouts } :=
  ⟨_, _, _, rfl⟩

/-- The login failed as `f`, and of the connection `c₀` it left a closed one. -/
structure Abandoned (c₀ : Connection) (f : Failure) (c : Connection) : Prop where
  failed : ∃ j, outcome (Session.authenticate (credentials c₀.settings) (c₀.journaled j).session) =
    .error f
  whole : c.Whole
  closed : c.isClosed = true
  /-- Once, however that went. -/
  socketCloses : c.socketCloses = c₀.socketCloses + 1

/-- A login ends as the exchange does, and lets go of the socket if that fails. -/
theorem login_cases (c : Connection) :
    (∃ g s, outcome (Session.authenticate (credentials c.settings) c.session) = .ok g ∧
      login c = .ok g
        { c with socket := true, file := true, stream := true, session := s, greeting := some g }) ∨
    ∃ f s, outcome (Session.authenticate (credentials c.settings) c.session) = .error f ∧
      login c = .error f { c with session := s }.released := by
  rw [login_eq]
  cases Session.authenticate (credentials c.settings) c.session with
  | ok g s => exact .inl ⟨g, s, rfl, rfl⟩
  | error f s =>
    obtain ⟨j, hclosing⟩ := closing_of_open (α := Greeting String) (f := f)
      (c := { c with socket := true, file := true, stream := true, session := s }) rfl
    exact .inr ⟨f, { s with journal := j }, rfl, hclosing⟩

theorem outcome_login (c : Connection) :
    outcome (login c) = outcome (Session.authenticate (credentials c.settings) c.session) := by
  rcases login_cases c with ⟨g, s, ho, h⟩ | ⟨f, s, ho, h⟩ <;> rw [h, ho] <;> rfl

theorem transport_of_login (c : Connection) : (final (login c)).session.transport =
    (final (Session.authenticate (credentials c.settings) c.session)).transport := by
  rw [login_eq]
  cases Session.authenticate (credentials c.settings) c.session with
  | ok g s => rfl
  | error f s =>
    obtain ⟨j, hclosing⟩ := closing_of_open (α := Greeting String) (f := f)
      (c := { c with socket := true, file := true, stream := true, session := s }) rfl
    dsimp only
    rw [hclosing]
    rfl

theorem login_error {c₀ : Connection} (h : login c₀ = .error f c) : Abandoned c₀ f c := by
  rcases login_cases c₀ with ⟨g, s, ho, h'⟩ | ⟨f', s, ho, h'⟩ <;> cases h'.symm.trans h
  exact ⟨⟨c₀.session.journal, ho⟩, ⟨rfl, rfl⟩, rfl, rfl⟩

theorem login_ok {c₀ : Connection} {g : Greeting String} (h : login c₀ = .ok g c) :
    c.isClosed = false ∧ c.Whole ∧ c.lastResult = c₀.lastResult := by
  rcases login_cases c₀ with ⟨g', s, ho, h'⟩ | ⟨f, s, ho, h'⟩ <;> cases h'.symm.trans h
  exact ⟨rfl, ⟨rfl, rfl⟩, rfl⟩

/-- Whatever the peer does and wherever the transport fails: a connection that cannot log in is given
up, and one that can goes through any run of calls as it should. -/
theorem lifecycle (opening : Opening) (settings : Settings) (transport : Transport) (journal : Journal) :
    (∀ f c, opening.run (idle settings transport journal) = .error f c →
      Abandoned (idle settings transport journal) f c) ∧
    ∀ g c, opening.run (idle settings transport journal) = .ok g c →
      c.isClosed = false ∧ ∀ calls, Life c calls := by
  have hopen {c₀ c : Connection} {g : Greeting String} (h : login c₀ = .ok g c)
      (hnone : c₀.lastResult = none) : c.isClosed = false ∧ ∀ calls, Life c calls := by
    obtain ⟨hc, hwhole, hlast⟩ := login_ok h
    exact ⟨hc, life_of_whole hwhole (hlast.trans hnone)⟩
  cases opening with
  | socket => exact ⟨fun f c h => login_error h, fun g c h => hopen h rfl⟩
  | dialed =>
    obtain ⟨j, dials, timeouts, hconnect⟩ := connect_eq (idle settings transport journal)
    simp only [Opening.run, hconnect]
    refine ⟨fun f c h => ?_, fun g c h => hopen h rfl⟩
    obtain ⟨hfailed, hwhole, hclosed, hcloses⟩ := login_error h
    exact ⟨hfailed, hwhole, hclosed, hcloses⟩

/-- A peer that says nothing, and one that lets in a client, which closes the connection and goes on
calling. -/
theorem lifecycle_of_closing :
    (∃ f c, login (idle .initial (.ofPeer []) (.fresh 0)) = .error f c ∧ c.isClosed = true ∧
      c.socketCloses = 1) ∧
    ∃ g c, login (idle .initial (.ofPeer ((Packet.mk 0 Greeting.initial.encode).frame ++
        (Packet.mk 2 [0, 0, 0]).frame)) (.fresh 0)) = .ok g c ∧ c.isClosed = false ∧
      (converse [.close, .execute none] c).2.isClosed = true ∧
      (converse [.close, .execute none] c).2.lastResult = none ∧
      outcome (call (.query (.text "DO 1")) (converse [.close, .execute none] c).2) =
        .error .closed := by
  constructor
  · obtain ⟨e, -, hcourse⟩ := Session.course_welcome_of_short
      (s := Session.start (.ofPeer []) (.fresh 0)) (.inl (by decide))
    have ho := hcourse.bind_error (f := Session.signIn (credentials .initial))
    rw [← Session.authenticate_eq] at ho
    have hlogin := (outcome_login (idle .initial (.ofPeer []) (.fresh 0))).trans ho.outcome_eq
    cases h : login (idle .initial (.ofPeer []) (.fresh 0)) with
    | ok g c =>
      rw [h] at hlogin
      cases hlogin
    | error f c =>
      obtain ⟨-, -, hclosed, hcloses⟩ := (lifecycle .socket .initial _ (.fresh 0)).1 f c h
      exact ⟨f, c, rfl, hclosed, hcloses⟩
  · obtain ⟨g, hg⟩ : ∃ g, Greeting.decode.read (Packet.mk 0 Greeting.initial.encode).payload = .ok g :=
      ⟨_, rfl⟩
    have hp : (Packet.mk 0 Greeting.initial.encode).Fits := ⟨by decide, by decide, by decide⟩
    have hq : (Packet.mk 2 [0, 0, 0]).Fits := ⟨by decide, by decide, by decide⟩
    have hfits := Session.loginFits_of_nobody (c := credentials .initial) rfl rfl g.nonce
    have ht : Session.Takes (Session.authenticate (credentials .initial)) 0 _ _ _ _ :=
      Session.takes_authenticate hp rfl hg hfits hq rfl rfl
    obtain ⟨ho, -, -⟩ := ht.ends (Session.start (.ofPeer _) (.fresh 0)) []
      ⟨⟨rfl, rfl⟩, rfl, (List.append_nil _).symm⟩
    have hlogin := eq_ok_iff.2 ⟨(outcome_login (idle .initial (.ofPeer _) (.fresh 0))).trans ho, rfl⟩
    obtain ⟨hopen, hlife⟩ := (lifecycle .socket .initial _ (.fresh 0)).2 g _ hlogin
    have hclosed := (hlife [.close]).closed_for_good (hlife []).law.close.2 [.execute none]
    have hnone : (converse [.close, .execute none] _).2.lastResult = _ :=
      (hlife _).lastResult_latest [.close] none [] rfl (by simp)
    refine ⟨g, _, hlogin, hopen, hclosed, hnone.trans ?_,
      ((hlife _).law.statement_closed hclosed (.query (.text "DO 1")) _ rfl).1⟩
    exact congrArg (fun r => (outcome r).toOption) (query_of_closed (hlife []).law.close.2)

end SqlWire.Connection
