import SqlWire.Proofs.Course
import SqlWire.Proofs.Login
import SqlWire.Proofs.Steps
/-!
# Handshakes

A login has one of three courses (`authenticate_course`): it fails before anything is sent, it fails
behind the one packet that it sends, or the client is let in. Which of them it is, and how it ends, is
in the first two packets that arrive and in whether the client's own can be written.
-/
namespace SqlWire.Session

open Stateful

variable {c : Credentials} {s : Session} {p q : Packet} {g : Greeting String} {b rest login : Bytes}

/-! ## The greeting -/

/-- What an error in the place of a greeting, or of the answer to a login, comes to. -/
abbrev refusal (payload : Bytes) : Failure := reportedAs .loginRefused payload

/-- A payload that is marked as an error ends the login. -/
theorem course_refusal {α : Type} (payload : Bytes) (line : ServerReport → String)
    (f : Unit → Exchange α) :
    Course (parseReport payload >>= fun r => note Level.warning (line r) >>= fun _ =>
      (throw (.loginRefused r) : Exchange Unit) >>= f) s (.error (refusal payload)) [] [] s.sequence := by
  have h := (course_reported (s := s) payload .loginRefused line).bind_error (f := f)
  simp only [bind_assoc] at h
  exact h

theorem course_receiveGreeting (hp : p.Fits) (hb : s.transport.arriving = p.frame ++ rest) :
    Course receiveGreeting s (.ok p) p.frame [] (succId p.sequence) := by
  refine (course_receiveAny hp hb).bind_silent fun s1 _ => ?_
  have hadopt : Course (modify fun s => { s with sequence := succId p.sequence } : Exchange Unit) s1
      (.ok ()) [] [] (succId p.sequence) := ⟨rfl, .of_transport_eq rfl, rfl⟩
  refine hadopt.bind_silent fun s2 hid => ?_
  rw [← hid]
  exact course_pure p

/-- The frame of `p` arrives first, and `rest` behind it; it holds the greeting `g`. -/
structure Greeted (s : Session) (p : Packet) (g : Greeting String) (rest : Bytes) : Prop where
  fits : p.Fits
  arriving : s.transport.arriving = p.frame ++ rest
  notErr : Marker.isErr p.payload = false
  read : Greeting.decode.read p.payload = .ok g

theorem course_welcome_of_short (h : Frame.Short s.transport.arriving) :
    ∃ e : Failure, e.errorClass? = some .transport ∧
      Course welcome s (.error e) s.transport.arriving [] s.sequence := by
  obtain ⟨e, he, h⟩ := course_receiveAny_of_short h
  exact ⟨e, he, h.bind_error.bind_error⟩

theorem course_welcome_of_err (hp : p.Fits) (hb : s.transport.arriving = p.frame ++ rest)
    (herr : Marker.isErr p.payload = true) :
    Course welcome s (.error (refusal p.payload)) p.frame [] (succId p.sequence) := by
  refine (course_receiveGreeting hp hb).bind_silent fun s1 hid => ?_
  rw [← hid]
  have h : Course (parseGreeting p.payload) s1 (.error (refusal p.payload)) [] [] s1.sequence := by
    unfold parseGreeting
    rw [if_pos herr]
    exact course_refusal _ _ _
  exact h.bind_error

theorem course_parseGreeting (herr : Marker.isErr p.payload = false) :
    Course (parseGreeting p.payload) s (parsed Greeting.decode p.payload) [] [] s.sequence := by
  unfold parseGreeting
  rw [if_neg (by simp [herr])]
  exact course_parse _ _

theorem course_welcome_of_unreadable {e : DecodeError} (hp : p.Fits)
    (hb : s.transport.arriving = p.frame ++ rest) (herr : Marker.isErr p.payload = false)
    (hread : Greeting.decode.read p.payload = .error e) :
    Course welcome s (.error (.malformed e)) p.frame [] (succId p.sequence) := by
  refine (course_receiveGreeting hp hb).bind_silent fun s1 hid => ?_
  rw [← hid]
  have h := course_parseGreeting (s := s1) herr
  rw [parsed, hread] at h
  exact h.bind_error

theorem course_noteGreeting : Course (noteGreeting g) s (.ok ()) [] [] s.sequence := by
  unfold noteGreeting
  split
  · exact course_note _ _
  · refine (course_note _ _).silent_bind fun s1 _ hid => ?_
    rw [← hid]
    exact course_note _ _

theorem course_welcome (h : Greeted s p g rest) :
    Course welcome s (.ok g) p.frame [] (succId p.sequence) := by
  refine (course_receiveGreeting h.fits h.arriving).bind_silent fun s1 hid => ?_
  have hparse := course_parseGreeting (s := s1) h.notErr
  rw [parsed, h.read] at hparse
  rw [← hid]
  refine hparse.silent_bind fun s2 _ hid => ?_
  rw [← hid]
  refine course_noteGreeting.silent_bind fun s3 _ hid => ?_
  rw [← hid]
  exact course_pure g

/-- Without a greeting the login fails, and nothing is sent. -/
theorem welcome_course (s : Session) :
    (∃ e b id, Course welcome s (.error e) b [] id) ∨ ∃ p g rest, Greeted s p g rest := by
  rcases Frame.frame_or_short s.transport.arriving with hshort | ⟨p, rest, hp, hb⟩
  · obtain ⟨e, -, h⟩ := course_welcome_of_short hshort
    exact .inl ⟨e, _, _, h⟩
  cases herr : Marker.isErr p.payload with
  | true => exact .inl ⟨_, _, _, course_welcome_of_err hp hb herr⟩
  | false =>
    cases hread : Greeting.decode.read p.payload with
    | error e => exact .inl ⟨_, _, _, course_welcome_of_unreadable hp hb herr hread⟩
    | ok g => exact .inr ⟨p, g, rest, hp, hb, herr, hread⟩

/-! ## The login and its answer -/

/-- What the server's answer comes to, where `id` is next. -/
def verdict (id : Int) (g : Greeting String) (q : Packet) : Except Failure (Greeting String) :=
  if q.sequence = id then
    if Marker.isErr q.payload then .error (refusal q.payload) else .ok g
  else .error (.outOfOrder q.sequence id)

/-- A login that there are no octets for is not sent. -/
theorem course_signIn_of_unencodable {e : EncodeError} (h : c.payload g.nonce = .error e) :
    Course (signIn c g) s (.error (.unsendable e)) [] [] s.sequence := by
  have hsend : Course (sendLogin c g.nonce) s (.error (.unsendable e)) [] [] s.sequence := by
    rw [sendLogin_of_error h]
    exact course_throw _
  exact hsend.bind_error

/-- A login that is too long for one packet is not sent. -/
theorem course_signIn_of_tooLong (hlogin : c.Answers g.nonce login)
    (h : Frame.maxPayload < login.length) :
    Course (signIn c g) s (.error (.tooLong login.length)) [] [] s.sequence := by
  have hsend : Course (send (.octets login)) s _ [] [] s.sequence := course_send_tooLong rfl h
  rw [← sendLogin_of_payload (Credentials.answers_iff.1 hlogin)] at hsend
  exact hsend.bind_error

theorem course_signIn_of_unsendable
    (h : ¬ ((∃ login, LoginFits c g.nonce login) ∧ s.transport.Writable)) :
    ∃ e : Failure, Course (signIn c g) s (.error e) [] [] s.sequence := by
  cases hlogin : c.payload g.nonce with
  | error e => exact ⟨_, course_signIn_of_unencodable hlogin⟩
  | ok login =>
    have hanswers := Credentials.answers_iff.2 hlogin
    by_cases hfit : login.length ≤ Frame.maxPayload
    · obtain ⟨reason, hsend⟩ := course_send_of_not_writable (m := .octets login) rfl hfit
        fun hw => h ⟨⟨login, hanswers, hfit⟩, hw⟩
      rw [← sendLogin_of_payload hlogin] at hsend
      exact ⟨_, hsend.bind_error⟩
    · exact ⟨_, course_signIn_of_tooLong hanswers (Nat.lt_of_not_le hfit)⟩

section Sent

variable (hlogin : LoginFits c g.nonce login) (hw : s.transport.Writable)
include hlogin hw

theorem course_sendLogin : Course (sendLogin c g.nonce) s (.ok s.sequence) []
    [(Packet.mk s.sequence login).frame] (succId s.sequence) := by
  rw [hlogin.sendLogin_eq]
  exact course_send rfl hlogin.length_le hw

theorem course_signIn_of_short (h : Frame.Short s.transport.arriving) :
    ∃ e : Failure, e.errorClass? = some .transport ∧ Course (signIn c g) s (.error e)
      s.transport.arriving [(Packet.mk s.sequence login).frame] (succId s.sequence) := by
  have hsend := course_sendLogin hlogin hw
  have hb := hsend.moves.arriving_eq (List.nil_append s.transport.arriving).symm
  rw [← hb] at h
  obtain ⟨e, he, hreceive⟩ := course_receiveAny_of_short h
  rw [hb, hsend.sequence] at hreceive
  exact ⟨e, he, hsend.bind hreceive.bind_error.bind_error⟩

theorem course_signIn (hq : q.Fits) (hb : s.transport.arriving = q.frame ++ rest) :
    Course (signIn c g) s (verdict (succId s.sequence) g q) q.frame
      [(Packet.mk s.sequence login).frame] (succId (succId s.sequence)) := by
  have hsend := course_sendLogin hlogin hw
  have hreceive := course_receive hq (hsend.moves.arriving_eq (b := []) hb)
  rw [hsend.sequence] at hreceive
  refine hsend.bind ?_
  unfold verdict
  by_cases hid : q.sequence = succId s.sequence
  · rw [if_pos hid] at hreceive ⊢
    refine hreceive.bind_silent fun s1 hid1 => ?_
    rw [← hid1]
    split
    · exact course_refusal _ _ _
    · refine (course_note _ _).silent_bind fun s2 _ hid2 => ?_
      rw [← hid2]
      exact course_pure g
  · rw [if_neg hid] at hreceive ⊢
    exact hreceive.bind_error

end Sent

/-! ## The whole exchange -/

/-- Behind a greeting the login is sent, and `q` comes back. -/
structure Answered (c : Credentials) (s : Session) (p : Packet) (g : Greeting String) (login : Bytes)
    (q : Packet) (rest : Bytes) : Prop extends Greeted s p g (q.frame ++ rest) where
  login_fits : LoginFits c g.nonce login
  writable : s.transport.Writable
  answer_fits : q.Fits

theorem course_authenticate_of_answered (h : Answered c s p g login q rest) :
    Course (authenticate c) s (verdict (succId (succId p.sequence)) g q) (p.frame ++ q.frame)
      [loginFrame p login] (succId (succId (succId p.sequence))) := by
  have hwelcome := course_welcome h.toGreeted
  have hsign := course_signIn h.login_fits (hwelcome.moves.writable_iff.2 h.writable) h.answer_fits
    (hwelcome.moves.arriving_eq h.arriving)
  rw [hwelcome.sequence] at hsign
  rw [authenticate_eq]
  exact hwelcome.bind hsign

/-- An error in place of a greeting is not answered. -/
theorem course_authenticate_of_err (hp : p.Fits) (hb : s.transport.arriving = p.frame ++ rest)
    (herr : Marker.isErr p.payload = true) :
    Course (authenticate c) s (.error (refusal p.payload)) p.frame [] (succId p.sequence) := by
  rw [authenticate_eq]
  exact (course_welcome_of_err hp hb herr).bind_error

/-- A greeting that cannot be read is not answered. -/
theorem course_authenticate_of_unreadable {e : DecodeError} (hp : p.Fits)
    (hb : s.transport.arriving = p.frame ++ rest) (herr : Marker.isErr p.payload = false)
    (hread : Greeting.decode.read p.payload = .error e) :
    Course (authenticate c) s (.error (.malformed e)) p.frame [] (succId p.sequence) := by
  rw [authenticate_eq]
  exact (course_welcome_of_unreadable hp hb herr hread).bind_error

section Greeted

variable (hg : Greeted s p g rest)
include hg

/-- The login cannot be sent, and nothing is. -/
theorem course_authenticate_of_unsendable
    (h : ¬ ((∃ login, LoginFits c g.nonce login) ∧ s.transport.Writable)) :
    ∃ e : Failure, Course (authenticate c) s (.error e) p.frame [] (succId p.sequence) := by
  have hwelcome := course_welcome hg
  obtain ⟨e, hsign⟩ :=
    course_signIn_of_unsendable fun h' => h ⟨h'.1, hwelcome.moves.writable_iff.1 h'.2⟩
  rw [hwelcome.sequence] at hsign
  rw [authenticate_eq]
  exact ⟨e, by simpa using hwelcome.bind hsign⟩

theorem course_authenticate_of_unencodable {e : EncodeError} (h : c.payload g.nonce = .error e) :
    Course (authenticate c) s (.error (.unsendable e)) p.frame [] (succId p.sequence) := by
  rw [authenticate_eq]
  refine (course_welcome hg).bind_silent fun s1 hid => ?_
  rw [← hid]
  exact course_signIn_of_unencodable h

/-- Behind the login the exchange fails, or an answer comes that lets the client in. -/
theorem course_authenticate_of_sendable (hlogin : LoginFits c g.nonce login) (hw : s.transport.Writable) :
    (∃ e b id, Course (authenticate c) s (.error e) b [loginFrame p login] id) ∨
      ∃ q rest', Answered c s p g login q rest' ∧ verdict (succId (succId p.sequence)) g q = .ok g := by
  have hwelcome := course_welcome hg
  have hw' := hwelcome.moves.writable_iff.2 hw
  rcases Frame.frame_or_short rest with hshort | ⟨q, rest, hq, rfl⟩
  · rw [← hwelcome.moves.arriving_eq hg.arriving] at hshort
    obtain ⟨e, -, hsign⟩ := course_signIn_of_short hlogin hw' hshort
    rw [hwelcome.sequence] at hsign
    rw [authenticate_eq]
    exact .inl ⟨e, _, _, hwelcome.bind hsign⟩
  · have ha : Answered c s p g login q rest := ⟨hg, hlogin, hw, hq⟩
    have hcourse := course_authenticate_of_answered ha
    cases hv : verdict (succId (succId p.sequence)) g q with
    | error e => exact .inl ⟨e, _, _, hv ▸ hcourse⟩
    | ok g' =>
      have hg' : g' = g := by grind [verdict]
      exact .inr ⟨q, rest, ha, hg' ▸ hv⟩

/-- The login is sent where it can be, whatever comes of it. -/
theorem sent_authenticate (hlogin : LoginFits c g.nonce login) (hw : s.transport.Writable) :
    (final (authenticate c s)).transport.sent = loginFrame p login :: s.transport.sent := by
  rcases course_authenticate_of_sendable hg hlogin hw with ⟨e, b, id, h⟩ | ⟨q, rest, ha, -⟩
  · exact h.moves.sent
  · exact (course_authenticate_of_answered ha).moves.sent

end Greeted

/-- Whatever arrives and wherever the transport fails, a login fails with nothing sent, or behind the
one packet that it sends, or lets the client in. -/
theorem authenticate_course (c : Credentials) (s : Session) :
    (∃ e b id, Course (authenticate c) s (.error e) b [] id) ∨
      (∃ p g login rest e b id, Greeted s p g rest ∧ LoginFits c g.nonce login ∧
        Course (authenticate c) s (.error e) b [loginFrame p login] id) ∨
      ∃ p g login q rest, Answered c s p g login q rest ∧ verdict (succId (succId p.sequence)) g q = .ok g := by
  rcases welcome_course s with ⟨e, b, id, h⟩ | ⟨p, g, rest, hg⟩
  · exact .inl ⟨e, b, id, authenticate_eq c ▸ h.bind_error⟩
  by_cases h : (∃ login, LoginFits c g.nonce login) ∧ s.transport.Writable
  · obtain ⟨⟨login, hlogin⟩, hw⟩ := h
    rcases course_authenticate_of_sendable hg hlogin hw with ⟨e, b, id, h⟩ | ⟨q, rest, ha, hv⟩
    · exact .inr (.inl ⟨p, g, login, rest, e, b, id, hg, hlogin, h⟩)
    · exact .inr (.inr ⟨p, g, login, q, rest, ha, hv⟩)
  · obtain ⟨e, h⟩ := course_authenticate_of_unsendable hg h
    exact .inl ⟨e, _, _, h⟩

/-- The server lets the client in: its answer has the right id and is no error. -/
structure LetIn (c : Credentials) (s : Session) (p : Packet) (g : Greeting String) (login : Bytes)
    (q : Packet) (rest : Bytes) : Prop extends Answered c s p g login q rest where
  inOrder : q.sequence = (p.sequence + 2) % 256
  accepted : Marker.isErr q.payload = false

/-- What a login comes to, whatever arrives and wherever the transport fails. -/
structure Handshake (c : Credentials) (s : Session) : Prop where
  /-- Nothing is sent, or the one login that answers a greeting. -/
  sent : (final (authenticate c s)).transport.sent = s.transport.sent ∨
    ∃ p g login rest, Greeted s p g rest ∧ c.Answers g.nonce login ∧
      (final (authenticate c s)).transport.sent =
        (Packet.mk ((p.sequence + 1) % 256) login).frame :: s.transport.sent
  silent_of_short : Frame.Short s.transport.arriving →
    (final (authenticate c s)).transport.sent = s.transport.sent
  silent_of_refused : ∀ (p : Packet) rest, p.Fits → s.transport.arriving = p.frame ++ rest →
    Marker.isErr p.payload = true ∨ (∃ e, Greeting.decode.read p.payload = .error e) →
    (final (authenticate c s)).transport.sent = s.transport.sent
  ok_iff : ∀ g, outcome (authenticate c s) = .ok g ↔ ∃ p login q rest, LetIn c s p g login q rest
  /-- Two frames are taken, one is sent between them, and the ids go on behind them. -/
  let_in : ∀ p g login q rest, LetIn c s p g login q rest →
    s.transport.incoming = p.frame ++ q.frame ++ (final (authenticate c s)).transport.incoming ∧
      (final (authenticate c s)).transport.consumed =
        s.transport.consumed + (p.frame ++ q.frame).length ∧
      (final (authenticate c s)).transport.sent =
        (Packet.mk ((p.sequence + 1) % 256) login).frame :: s.transport.sent ∧
      (final (authenticate c s)).sequence = (p.sequence + 3) % 256
  refused : ∀ (p : Packet) rest e, p.Fits → s.transport.arriving = p.frame ++ rest →
    Marker.isErr p.payload = true → ErrPacket.decode.read p.payload = .ok e →
    outcome (authenticate c s) = .error (.loginRefused ⟨e.errorCode, e.sqlState, e.errorMessage⟩)
  login_refused : ∀ p g login q rest e, Answered c s p g login q rest → q.sequence = (p.sequence + 2) % 256 →
    Marker.isErr q.payload = true → ErrPacket.decode.read q.payload = .ok e →
    outcome (authenticate c s) = .error (.loginRefused ⟨e.errorCode, e.sqlState, e.errorMessage⟩)
  /-- The id is looked at first, whatever the packet holds. -/
  out_of_order : ∀ p g login q rest, Answered c s p g login q rest → q.sequence ≠ (p.sequence + 2) % 256 →
    outcome (authenticate c s) = .error (.outOfOrder q.sequence ((p.sequence + 2) % 256))

theorem succId_succId (id : Int) : succId (succId id) = (id + 2) % 256 := by
  unfold succId
  omega

theorem handshake (c : Credentials) (s : Session) : Handshake c s where
  sent := by
    rcases authenticate_course c s with ⟨e, b, id, h⟩ | ⟨p, g, login, rest, e, b, id, hg, hlogin, h⟩ |
      ⟨p, g, login, q, rest, ha, -⟩
    · exact .inl h.moves.sent
    · exact .inr ⟨p, g, login, rest, hg, hlogin.answers, h.moves.sent⟩
    · exact .inr ⟨p, g, login, _, ha.toGreeted, ha.login_fits.answers,
        (course_authenticate_of_answered ha).moves.sent⟩
  silent_of_short hshort := by
    obtain ⟨e, -, h⟩ := course_welcome_of_short hshort
    rw [authenticate_eq]
    exact h.bind_error.moves.sent
  silent_of_refused p rest hp hb h := by
    cases herr : Marker.isErr p.payload with
    | true => exact (course_authenticate_of_err hp hb herr).moves.sent
    | false =>
      obtain ⟨e, he⟩ := h.resolve_left (by simp [herr])
      exact (course_authenticate_of_unreadable hp hb herr he).moves.sent
  ok_iff g := by
    constructor
    · intro hok
      rcases authenticate_course c s with ⟨e, b, id, h⟩ | ⟨p, g, login, rest, e, b, id, -, -, h⟩ |
        ⟨p, g', login, q, rest, ha, hv⟩
      · cases hok.symm.trans h.outcome_eq
      · cases hok.symm.trans h.outcome_eq
      · have h := course_authenticate_of_answered ha
        rw [hv] at h
        cases hok.symm.trans h.outcome_eq
        refine ⟨p, login, q, rest, ha, ?_, ?_⟩
        · rw [← succId_succId]
          grind [verdict]
        · grind [verdict]
    · rintro ⟨p, login, q, rest, h⟩
      rw [(course_authenticate_of_answered h.toAnswered).outcome_eq, verdict, succId_succId,
        if_pos h.inOrder, if_neg (by simp [h.accepted])]
  let_in p g login q rest h := by
    have hcourse := course_authenticate_of_answered h.toAnswered
    refine ⟨hcourse.moves.incoming, hcourse.moves.consumed, hcourse.moves.sent, ?_⟩
    rw [hcourse.sequence, succId_succId, succId]
    omega
  refused p rest e hp hb herr hread := by
    rw [(course_authenticate_of_err hp hb herr).outcome_eq, refusal, reportedAs, hread]
  login_refused p g login q rest e h hid herr hread := by
    rw [(course_authenticate_of_answered h).outcome_eq, verdict, succId_succId, if_pos hid,
      if_pos herr, refusal, reportedAs, hread]
  out_of_order p g login q rest h hid := by
    rw [(course_authenticate_of_answered h).outcome_eq, verdict, succId_succId, if_neg hid]

/-- A greeting under the last id, so that the ids begin again with the login, which names a user and proves the
password. -/
theorem handshake_of_last_id :
    let s := probe 7 ((Packet.mk 255 Greeting.initial.encode).frame ++ (Packet.mk 1 [0, 0, 0]).frame)
    let c : Credentials := ⟨some (.text "alice"), some (.text "secret"), true⟩
    ∃ g : Greeting String, outcome (authenticate c s) = .ok g ∧
      (final (authenticate c s)).transport.sent = [(Packet.mk 0 <| LoginPacket.encode
        { LoginPacket.initial with
          username := "alice"
          authResponse := Password.scramble (Utf8.encode "secret") g.nonce }).frame] ∧
      (final (authenticate c s)).sequence = 2 := by
  intro s c
  obtain ⟨g, hg⟩ : ∃ g, Greeting.decode.read (Packet.mk 255 Greeting.initial.encode).payload = .ok g :=
    ⟨_, rfl⟩
  have hp : (Packet.mk 255 Greeting.initial.encode).Fits := ⟨by decide, by decide, by decide⟩
  have hq : (Packet.mk 1 [0, 0, 0]).Fits := ⟨by decide, by decide, by decide⟩
  have hanswers : c.Answers g.nonce _ := .intro rfl (.scrambled rfl rfl rfl)
  have hlogin : LoginFits c g.nonce _ := ⟨hanswers, Nat.le_of_ble_eq_true rfl⟩
  have h : LetIn c s _ g _ _ [] := ⟨⟨⟨hp, rfl, rfl, hg⟩, hlogin, by rintro _ _ ⟨⟩, hq⟩, rfl, rfl⟩
  obtain ⟨-, -, hsent, hid⟩ := (handshake c s).let_in _ _ _ _ _ h
  exact ⟨g, ((handshake c s).ok_iff g).2 ⟨_, _, _, _, h⟩, hsent, hid⟩

end SqlWire.Session
