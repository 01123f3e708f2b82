import SqlWire.Proofs.Handshake
/-!
# Whatever the peer does

A peer may send any octets in any pieces and go silent at any point. Every exchange ends all the same:
what it fails with has one of the classes that callers are told of, unless UTF-8 has no octets for what it is
to send, and what it reads are whole packets, each of which took four octets at least of those that there were.
-/
namespace SqlWire.Session

open Stateful

variable {α β : Type} {C : ErrorClass → Prop} {c : Credentials} {sql : Datum} {s : Session} {query : Bytes}

/-! ## Which failures there are -/

/-- Only failures of a class in `C`. -/
def FailsIn (C : ErrorClass → Prop) (r : Except Failure α) : Prop :=
  ∀ f, r = .error f → ∃ c, f.errorClass? = some c ∧ C c

/-- A failure of the class `c`. -/
def FailsWith (c : ErrorClass) (r : Except Failure α) : Prop :=
  ∃ f, r = .error f ∧ f.errorClass? = some c

/-- UTF-8 has no octets for a text that was to be sent. -/
def LacksOctets (r : Except Failure α) : Prop := ∃ t, r = .error (.unsendable (.loneSurrogate t))

@[simp] theorem failsWith_ok (c : ErrorClass) (a : α) : ¬ FailsWith c (.ok a) := by
  rintro ⟨_, ⟨⟩, -⟩

@[simp] theorem failsWith_error {c : ErrorClass} {f : Failure} :
    FailsWith c (.error f : Except Failure α) ↔ f.errorClass? = some c := by
  simp [FailsWith]

/-- What is made of a value is no part of how a run fails. -/
theorem failsWith_map {c : ErrorClass} {r : Except Failure α} (g : α → β) :
    FailsWith c (r.map g) ↔ FailsWith c r := by
  cases r with
  | ok a => simp [Except.map]
  | error f => simp [Except.map]

theorem FailsIn.map {r : Except Failure α} (g : α → β) (h : FailsIn C r) : FailsIn C (r.map g) := by
  cases r with
  | ok a => rintro _ ⟨⟩
  | error f =>
    rintro _ ⟨⟩
    exact h f rfl

theorem LacksOctets.map {r : Except Failure α} (g : α → β) (h : LacksOctets r) :
    LacksOctets (r.map g) := by
  obtain ⟨t, rfl⟩ := h
  exact ⟨t, rfl⟩

theorem failsIn_ok (a : α) : FailsIn C (.ok a) := by
  rintro _ ⟨⟩

theorem failsIn_error {f : Failure} {c : ErrorClass} (hf : f.errorClass? = some c) (hc : C c) :
    FailsIn C (.error f : Except Failure α) := by
  rintro _ ⟨⟩
  exact ⟨c, hf, hc⟩

theorem FailsIn.mono {C' : ErrorClass → Prop} {r : Except Failure α} (h : FailsIn C r)
    (hC : ∀ c, C c → C' c) : FailsIn C' r := by
  intro f hf
  obtain ⟨c, hclass, hc⟩ := h f hf
  exact ⟨c, hclass, hC c hc⟩

theorem FailsIn.not_failsWith {r : Except Failure α} {c : ErrorClass} (h : FailsIn C r) (hc : ¬ C c) :
    ¬ FailsWith c r := by
  rintro ⟨f, hf, hclass⟩
  obtain ⟨c', hclass', hc'⟩ := h f hf
  cases hclass.symm.trans hclass'
  exact hc hc'

theorem failsIn_receiveAny (htransport : C .transport) (s : Session) :
    FailsIn C (outcome (receiveAny s)) := by
  rcases Frame.frame_or_short s.transport.arriving with h | ⟨p, rest, hp, h⟩
  · obtain ⟨e, he, hc⟩ := course_receiveAny_of_short h
    rw [hc.outcome_eq]
    exact failsIn_error he htransport
  · rw [(course_receiveAny hp h).outcome_eq]
    exact failsIn_ok p

theorem closed_failsIn (htransport : C .transport) (hprotocol : C .protocol) :
    Closed C (fun x => ∀ s, FailsIn C (outcome (x s))) :=
  .of_runs hprotocol (fun a _ => failsIn_ok a) (fun he hc _ => failsIn_error he hc)
    (fun {_ _ x _ s} hx hf => by
      cases h : outcome (x s) with
      | ok a =>
        rw [bind_of_ok h]
        exact hf a h
      | error e =>
        rw [bind_of_error h]
        obtain ⟨c, he, hc⟩ := hx e h
        exact failsIn_error he hc)
    (fun _ _ => failsIn_ok ()) (fun _ => failsIn_ok _) (failsIn_receiveAny htransport)

/-- A message that fits one packet gets through, or the transport is why not. -/
theorem failsIn_send (htransport : C .transport) {m : Message} {payload : Bytes}
    (hm : m.payload = .ok payload) (hfit : payload.length ≤ Frame.maxPayload) (s : Session) :
    FailsIn C (outcome (send m s)) := by
  by_cases hw : s.transport.Writable
  · rw [(course_send hm hfit hw).outcome_eq]
    exact failsIn_ok _
  · obtain ⟨reason, hc⟩ := course_send_of_not_writable hm hfit hw
    rw [hc.outcome_eq]
    exact failsIn_error rfl htransport

/-! ## Which packets are read -/

/-- What the run takes are the frames of `ps`, and `cut` where reading fails inside a frame. -/
structure Reads (x : Exchange α) (s : Session) (ps : List Packet) (cut : Bytes) : Prop where
  fits : ∀ p ∈ ps, p.Fits
  moves : ∃ packets, Moves s (ps.flatMap Packet.frame ++ cut) packets (final (x s))
  short : Frame.Short cut
  whole : ∀ a, outcome (x s) = .ok a → cut = []

/-- Every run reads packets, one after another. -/
def ReadsPackets (x : Exchange α) : Prop := ∀ s, ∃ ps cut, Reads x s ps cut

/-- Each frame has a header, so there are at most a quarter as many as there are octets. -/
theorem Reads.length_le {x : Exchange α} {ps : List Packet} {cut : Bytes}
    (h : Reads x s ps cut) : 4 * ps.length ≤ s.transport.incoming.length := by
  have hframes : 4 * ps.length ≤ (ps.flatMap Packet.frame).length := by
    clear h
    induction ps with
    | nil => exact Nat.le_refl _
    | cons p ps ih =>
      have hp := p.headerLength_le_frame
      simp only [Frame.headerLength, List.flatMap_cons, List.length_append, List.length_cons] at *
      omega
  obtain ⟨packets, hm⟩ := h.moves
  have hlen := congrArg List.length hm.incoming
  rw [List.length_append, List.length_append] at hlen
  omega

theorem ReadsPackets.few {x : Exchange α} (h : ReadsPackets x) (s : Session) :
    ∃ ps cut, Reads x s ps cut ∧ 4 * ps.length ≤ s.transport.incoming.length := by
  obtain ⟨ps, cut, h⟩ := h s
  exact ⟨ps, cut, h, h.length_le⟩

theorem Reads.of_course {x : Exchange α} {r : Except Failure α} {packets : List Bytes} {id' : Int}
    (h : Course x s r [] packets id') : Reads x s [] [] where
  fits := by rintro _ ⟨⟩
  moves := ⟨packets, h.moves⟩
  short := .inl (by decide)
  whole _ _ := rfl

theorem Reads.bind {x : Exchange α} {f : α → Exchange β} {a : α} {ps ps' : List Packet}
    {cut cut' : Bytes} (h : Reads x s ps cut) (ho : outcome (x s) = .ok a)
    (h' : Reads (f a) (final (x s)) ps' cut') : Reads (x >>= f) s (ps ++ ps') cut' := by
  have hrun : (x >>= f) s = f a (final (x s)) := bind_of_ok ho
  obtain ⟨packets, hm⟩ := h.moves
  obtain ⟨packets', hm'⟩ := h'.moves
  cases h.whole a ho
  rw [List.append_nil] at hm
  refine ⟨fun p hp => (List.mem_append.1 hp).elim (h.fits p) (h'.fits p), ⟨packets ++ packets', ?_⟩,
    h'.short, hrun ▸ h'.whole⟩
  rw [hrun, List.flatMap_append, List.append_assoc]
  exact hm.trans hm'

theorem Reads.bind_error {x : Exchange α} {f : α → Exchange β} {e : Failure} {ps : List Packet}
    {cut : Bytes} (h : Reads x s ps cut) (ho : outcome (x s) = .error e) :
    Reads (x >>= f) s ps cut := by
  have hrun : (x >>= f) s = .error e (final (x s)) := bind_of_error ho
  obtain ⟨packets, hm⟩ := h.moves
  refine ⟨h.fits, ⟨packets, ?_⟩, h.short, ?_⟩ <;> rw [hrun]
  · exact hm
  · rintro _ ⟨⟩

theorem reads_receiveAny_of_short (h : Frame.Short s.transport.arriving) :
    Reads receiveAny s [] s.transport.arriving := by
  obtain ⟨e, -, hc⟩ := course_receiveAny_of_short h
  exact ⟨by rintro _ ⟨⟩, ⟨_, hc.moves⟩, h, fun a ha => by cases hc.outcome_eq.symm.trans ha⟩

theorem reads_receiveAny {p : Packet} {rest : Bytes} (hp : p.Fits)
    (h : s.transport.arriving = p.frame ++ rest) : Reads receiveAny s [p] [] := by
  refine ⟨by simpa using hp, ⟨[], ?_⟩, .inl (by decide), fun _ _ => rfl⟩
  simpa using (course_receiveAny hp h).moves

theorem readsPackets_receiveAny : ReadsPackets receiveAny := by
  intro s
  rcases Frame.frame_or_short s.transport.arriving with h | ⟨p, rest, hp, h⟩
  · exact ⟨_, _, reads_receiveAny_of_short h⟩
  · exact ⟨_, _, reads_receiveAny hp h⟩

theorem closed_readsPackets : Closed (fun _ => True) ReadsPackets :=
  .of_runs trivial (fun a _ => ⟨_, _, .of_course (course_pure a)⟩)
    (fun _ _ _ => ⟨_, _, .of_course (course_throw _)⟩)
    (fun {_ _ x _ s} hx hf => by
      obtain ⟨ps, cut, h⟩ := hx
      cases ho : outcome (x s) with
      | ok a =>
        obtain ⟨ps', cut', h'⟩ := hf a ho
        exact ⟨_, _, h.bind ho h'⟩
      | error e => exact ⟨_, _, h.bind_error ho⟩)
    (fun {level message} _ _ => ⟨_, _, .of_course (course_note level message)⟩)
    (fun _ => ⟨_, _, .of_course course_takeId⟩) readsPackets_receiveAny

theorem readsPackets_send (m : Message) : ReadsPackets (send m) := by
  intro s
  obtain ⟨r, packets, id, hc⟩ := exists_course_send m s
  exact ⟨_, _, .of_course hc⟩

theorem readsPackets_sendLogin (c : Credentials) (nonce : Bytes) : ReadsPackets (sendLogin c nonce) := by
  rcases sendLogin_cases c nonce with ⟨login, h⟩ | ⟨e, h⟩
  · rw [h]
    exact readsPackets_send _
  · rw [h]
    exact fun s => ⟨_, _, .of_course (course_throw _)⟩

/-! ## Statements -/

theorem length_statementPayload (query : Bytes) : (statementPayload query).length = 1 + query.length :=
  Nat.add_comm _ 1

theorem failsIn_execute (hsql : StatementFits sql query) :
    ∀ s, FailsIn (· ∈ [.transport, .protocol, .query]) (outcome (execute sql s)) :=
  (closed_failsIn (by decide) (by decide)).execute (by decide) (by decide) (fun _ => failsIn_ok ())
    (failsIn_send (by decide) hsql.payload_eq hsql.length_le)

/-- A statement whose message cannot be sent ends there. -/
theorem execute_of_send_error {e : Failure} (h : ∀ s, send (.statement sql) s = .error e s) (s : Session) :
    execute sql s = .error e { s with sequence := 0 } := by
  have hsend := h { s with sequence := 0 }
  show (send (.statement sql) >>= _) { s with sequence := 0 } = _
  rw [bind_of_error (congrArg outcome hsend), hsend, final_error]

/-- A statement that is too long is not sent. -/
theorem execute_tooLong (hsql : sql.octets = .ok query) (h : Frame.maxPayload < 1 + query.length)
    (s : Session) : execute sql s = .error (.tooLong (1 + query.length)) { s with sequence := 0 } := by
  rw [← length_statementPayload] at h ⊢
  exact execute_of_send_error (fun s => send_tooLong (Message.payload_statement hsql) h) s

/-- A statement that there are no octets for is not sent. -/
theorem execute_unencodable {e : EncodeError} (hsql : sql.octets = .error e) (s : Session) :
    execute sql s = .error (.unsendable e) { s with sequence := 0 } :=
  execute_of_send_error (fun s => send_of_payload _ s _ (Message.payload_statement_error hsql)) s

theorem readsPackets_execute (sql : Datum) : ReadsPackets (execute sql) :=
  closed_readsPackets.execute trivial trivial
    (fun _ => ⟨_, _, .of_course (r := .ok ()) ⟨rfl, .of_transport_eq rfl, rfl⟩⟩)
    (readsPackets_send (.statement sql))

/-! ## Logins -/

theorem failsIn_welcome :
    ∀ s, FailsIn (· ∈ [.transport, .protocol, .handshake]) (outcome (welcome s)) :=
  have h := closed_failsIn (by decide) (by decide)
  h.welcome (by decide) (by decide) <| h.bind h.receiveAny fun p =>
    h.bind (fun _ => failsIn_ok ()) fun _ => h.pure p

theorem failsIn_signIn {g : Greeting String} {login : Bytes} (hlogin : LoginFits c g.nonce login) :
    ∀ s, FailsIn (· ∈ [.transport, .protocol, .handshake]) (outcome (signIn c g s)) := by
  refine (closed_failsIn (by decide) (by decide)).signIn (by decide) (by decide) ?_
  rw [hlogin.sendLogin_eq]
  exact failsIn_send (by decide) rfl hlogin.length_le

/-- Without a greeting that cannot be answered, a login fails as its steps do. -/
theorem failsIn_authenticate
    (hlogin : ∀ p g rest, Greeted s p g rest → ∃ login, LoginFits c g.nonce login) :
    FailsIn (· ∈ [.transport, .protocol, .handshake]) (outcome (authenticate c s)) := by
  rw [authenticate_eq]
  rcases welcome_course s with ⟨e, b, id, h⟩ | ⟨p, g, rest, hg⟩
  · obtain ⟨c', he, hc⟩ := failsIn_welcome s e h.outcome_eq
    rw [h.bind_error.outcome_eq]
    exact failsIn_error he hc
  · rw [bind_of_ok (course_welcome hg).outcome_eq]
    obtain ⟨login, hlogin⟩ := hlogin p g rest hg
    exact failsIn_signIn hlogin _

section Greeted

variable {p : Packet} {g : Greeting String} {rest : Bytes} (hg : Greeted s p g rest)
include hg

theorem course_authenticate_of_tooLong {login : Bytes} (hlogin : c.Answers g.nonce login)
    (h : Frame.maxPayload < login.length) :
    Course (authenticate c) s (.error (.tooLong login.length)) p.frame [] (succId p.sequence) := by
  rw [authenticate_eq]
  refine (course_welcome hg).bind_silent fun s1 hid => ?_
  rw [← hid]
  exact course_signIn_of_tooLong hlogin h

/-- Credentials that there are no octets for end the login behind the greeting. -/
theorem course_authenticate_of_not_encodable (h : ¬ c.Encodable) :
    ∃ t, Course (authenticate c) s (.error (.unsendable (.loneSurrogate t))) p.frame []
      (succId p.sequence) := by
  obtain ⟨t, ht⟩ := Credentials.payload_of_not_encodable h g.nonce
  exact ⟨t, course_authenticate_of_unencodable hg ht⟩

end Greeted

theorem readsPackets_authenticate (c : Credentials) : ReadsPackets (authenticate c) :=
  closed_readsPackets.authenticate trivial trivial c
    (closed_readsPackets.bind closed_readsPackets.receiveAny fun p => closed_readsPackets.bind
      (fun _ => ⟨_, _, .of_course ⟨rfl, .of_transport_eq rfl, rfl⟩⟩) fun _ => closed_readsPackets.pure p)
    (fun g => readsPackets_sendLogin c g.nonce)

/-! ## Both exchanges -/

/-- Packets are read one after another, and there are at most a quarter as many as octets. -/
def ReadsFew (x : Exchange α) (s : Session) : Prop :=
  ∃ ps cut, Reads x s ps cut ∧ 4 * ps.length ≤ s.transport.incoming.length

/-- How a run ends whatever comes, if there are octets for what it sends: `refused` is the class of what the
server refuses, and `long` says that there is too much to send. -/
structure Guarded (refused : ErrorClass) (long : Prop) (x : Exchange α) (s : Session) : Prop where
  classified : FailsIn (· ∈ [.transport, .protocol, refused, .unsupported]) (outcome (x s))
  packets : ReadsFew x s
  unsupported_iff : FailsWith .unsupported (outcome (x s)) ↔ long
  unsent : long → (final (x s)).transport.sent = s.transport.sent

/-- How a run ends that has no octets for what it is to send: nothing is sent, and the text is why, if the run
gets as far as sending, which `due` says. -/
structure Unsent (refused : ErrorClass) (due : Prop) (x : Exchange α) (s : Session) : Prop where
  unsent : (final (x s)).transport.sent = s.transport.sent
  packets : ReadsFew x s
  surrogate : due → LacksOctets (outcome (x s))
  classified : ¬ due → FailsIn (· ∈ [.transport, .protocol, refused]) (outcome (x s))

section Guarded

variable {refused : ErrorClass} {long : Prop} {x : Exchange α} (hx : ReadsPackets x)
include hx

theorem guarded_of_long {n : Nat} (hlong : long) (h : outcome (x s) = .error (.tooLong n))
    (hsent : (final (x s)).transport.sent = s.transport.sent) : Guarded refused long x s where
  classified := by
    rw [h]
    exact failsIn_error rfl (by simp)
  packets := hx.few s
  unsupported_iff := ⟨fun _ => hlong, fun _ => ⟨_, h, rfl⟩⟩
  unsent _ := hsent

theorem guarded_of_not_long (hlong : ¬ long) (hrefused : refused ≠ .unsupported)
    (h : FailsIn (· ∈ [.transport, .protocol, refused]) (outcome (x s))) :
    Guarded refused long x s where
  classified := h.mono fun c hc => by grind
  packets := hx.few s
  unsupported_iff := iff_of_false (h.not_failsWith (by simpa using hrefused.symm)) hlong
  unsent hl := absurd hl hlong

end Guarded

theorem guarded_execute (hsql : sql.octets = .ok query) (s : Session) :
    Guarded .query (Frame.maxPayload < 1 + query.length) (execute sql) s := by
  by_cases hlong : Frame.maxPayload < 1 + query.length
  · have h := execute_tooLong hsql hlong s
    exact guarded_of_long (readsPackets_execute sql) hlong (congrArg outcome h) (by rw [h]; rfl)
  · have hfit : StatementFits sql query := ⟨hsql, by rw [length_statementPayload]; omega⟩
    exact guarded_of_not_long (readsPackets_execute sql) hlong (by decide) (failsIn_execute hfit s)

theorem guarded_authenticate (hc : c.Encodable) (s : Session) :
    Guarded .handshake (∃ p g login rest, Greeted s p g rest ∧ c.Answers g.nonce login ∧
      Frame.maxPayload < login.length) (authenticate c) s := by
  by_cases hlong : ∃ p g login rest, Greeted s p g rest ∧ c.Answers g.nonce login ∧
      Frame.maxPayload < login.length
  · obtain ⟨p, g, login, rest, hg, hlogin, hlt⟩ := hlong
    have h := course_authenticate_of_tooLong hg hlogin hlt
    exact guarded_of_long (readsPackets_authenticate c) ⟨p, g, login, rest, hg, hlogin, hlt⟩ h.outcome_eq
      h.moves.sent
  · refine guarded_of_not_long (readsPackets_authenticate c) hlong (by decide)
      (failsIn_authenticate fun p g rest hg => ?_)
    obtain ⟨login, hlogin⟩ := hc.exists_answers g.nonce
    exact ⟨login, hlogin, Nat.le_of_not_lt fun hlt => hlong ⟨p, g, login, rest, hg, hlogin, hlt⟩⟩

theorem unsent_authenticate (hc : ¬ c.Encodable) (s : Session) :
    Unsent .handshake (∃ p g rest, Greeted s p g rest) (authenticate c) s := by
  have hpackets := (readsPackets_authenticate c).few s
  by_cases hg : ∃ p g rest, Greeted s p g rest
  · obtain ⟨p, g, rest, hg⟩ := hg
    obtain ⟨t, h⟩ := course_authenticate_of_not_encodable hg hc
    exact ⟨h.moves.sent, hpackets, fun _ => ⟨t, h.outcome_eq⟩, fun hno => absurd ⟨p, g, rest, hg⟩ hno⟩
  · rcases welcome_course s with ⟨e, b, id, h⟩ | hgreeted
    · refine ⟨?_, hpackets, fun hdue => absurd hdue hg, fun _ => ?_⟩
      · rw [authenticate_eq]
        exact h.bind_error.moves.sent
      · exact failsIn_authenticate fun p g rest hgreeted => absurd ⟨p, g, rest, hgreeted⟩ hg
    · exact absurd hgreeted hg

theorem unsent_execute {e : EncodeError} (hsql : sql.octets = .error e) (s : Session) :
    Unsent .query True (execute sql) s where
  unsent := by
    rw [execute_unencodable hsql]
    rfl
  packets := (readsPackets_execute sql).few s
  surrogate _ := by
    rcases sql.octets_cases with ⟨b, ho⟩ | ⟨t, ho⟩
    · cases hsql.symm.trans ho
    · exact ⟨t, congrArg outcome (execute_unencodable ho s)⟩
  classified hno := absurd trivial hno

/-- The failures of a statement, whatever it is. -/
theorem execute_failsIn (sql : Datum) (s : Session) :
    FailsIn (· ∈ [.transport, .protocol, .query, .unsupported]) (outcome (execute sql s)) ∨
      LacksOctets (outcome (execute sql s)) := by
  rcases sql.octets_cases with ⟨b, ho⟩ | ⟨t, ho⟩
  · exact .inl ((guarded_execute ho s).classified.mono fun c hc => by grind)
  · exact .inr ((unsent_execute ho s).surrogate trivial)

/-- The failures of a login, whoever logs in. -/
theorem authenticate_failsIn (c : Credentials) (s : Session) :
    FailsIn (· ∈ [.transport, .protocol, .handshake, .unsupported]) (outcome (authenticate c s)) ∨
      LacksOctets (outcome (authenticate c s)) := by
  by_cases hc : c.Encodable
  · exact .inl ((guarded_authenticate hc s).classified.mono fun c hc => by grind)
  · have h := unsent_authenticate hc s
    by_cases hdue : ∃ p g rest, Greeted s p g rest
    · exact .inr (h.surrogate hdue)
    · exact .inl ((h.classified hdue).mono fun c hc => by grind)

/-- Whatever the peer sends, in whatever pieces, and wherever the transport fails, statements and logins
end in a known way. A statement that is too long, or that UTF-8 has no octets for, is not begun. -/
theorem guarded_execute_and_authenticate (s : Session) :
    (∀ (sql : Datum) query, sql.octets = .ok query →
      Guarded .query (Frame.maxPayload < 1 + query.length) (execute sql) s ∧
        (Frame.maxPayload < 1 + query.length → (final (execute sql s)).transport = s.transport)) ∧
    (∀ (sql : Datum) e, sql.octets = .error e →
      Unsent .query True (execute sql) s ∧ (final (execute sql s)).transport = s.transport) ∧
    ∀ c : Credentials,
      (c.Encodable → Guarded .handshake (∃ p g login rest, Greeted s p g rest ∧ c.Answers g.nonce login ∧
        Frame.maxPayload < login.length) (authenticate c) s) ∧
      (¬ c.Encodable → Unsent .handshake (∃ p g rest, Greeted s p g rest) (authenticate c) s) := by
  refine ⟨fun sql query hsql => ⟨guarded_execute hsql s, fun hlong => ?_⟩,
    fun sql e hsql => ⟨unsent_execute hsql s, ?_⟩,
    fun c => ⟨fun hc => guarded_authenticate hc s, fun hc => unsent_authenticate hc s⟩⟩
  · rw [execute_tooLong hsql hlong]
    rfl
  · rw [execute_unencodable hsql]
    rfl

/-- As many columns as there can be, announced in thirteen octets, a statement of one octet too many, and a
user whose name is a lone surrogate. -/
theorem guarded_execute_of_all_columns :
    (∃ ps cut, Reads (execute (.text "SELECT 1"))
        (probe 0 (Packet.mk 1 (Encoding.length 0xFFFFFFFFFFFFFFFF)).frame) ps cut ∧ 4 * ps.length ≤ 13) ∧
      (final (execute (.text (String.ofList (List.replicate 0xFFFFFF 'a')))
        (probe 7 []))).transport = .ofPeer [] ∧
      (final (authenticate ⟨some (.text (.loose ⟨"", 0, []⟩)), none, false⟩
        (probe 0 (Packet.mk 0 Greeting.initial.encode).frame))).transport.sent = [] := by
  have hlen (n : Nat) : (Utf8.encode (String.ofList (List.replicate n 'a'))).length = n := by
    simp [Utf8.encode, List.length_flatMap, Utf8.encodeChar]
  refine ⟨((guarded_execute_and_authenticate _).1 (.text "SELECT 1") _ rfl).1.packets, ?_, ?_⟩
  · exact ((guarded_execute_and_authenticate (probe 7 [])).1 _ _ rfl).2
      (Nat.lt_of_lt_of_eq (by decide) (congrArg (1 + ·) (hlen _).symm))
  · refine (((guarded_execute_and_authenticate _).2.2 _).2 fun h => ?_).unsent
    obtain ⟨user, huser⟩ := h.user
    cases huser

/-- A lone surrogate as a statement ends in an error of no class that callers are told of. -/
theorem execute_of_lone_surrogate :
    outcome (execute (.text (.loose ⟨"", 0, []⟩)) (probe 0 [])) =
        .error (.unsendable (.loneSurrogate ⟨"", 0, []⟩)) ∧
      ¬ FailsIn (· ∈ [.transport, .protocol, .query, .unsupported])
        (outcome (execute (.text (.loose ⟨"", 0, []⟩)) (probe 0 []))) := by
  have h : outcome (execute (.text (.loose ⟨"", 0, []⟩)) (probe 0 [])) =
      .error (.unsendable (.loneSurrogate ⟨"", 0, []⟩)) := congrArg outcome (execute_unencodable rfl _)
  refine ⟨h, fun hclassified => ?_⟩
  obtain ⟨_, hclass, -⟩ := hclassified _ h
  cases hclass

end SqlWire.Session
