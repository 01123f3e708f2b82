import SqlWire.Authentication
import SqlWire.Proofs.Delimited
/-!
# Logins

A server lets the client in by two packets: a greeting, which may carry any id, and behind the
client's login an answer that is no error.
-/
namespace SqlWire.Session

open Stateful

/-! ## What is sent -/

/-- The octets of a login that names this user and proves the password so. -/
def loginOf (user proof : Bytes) : Bytes :=
  { LoginPacket.initial.mapText Utf8.encode with username := user, authResponse := proof }.encode

namespace Credentials

variable {c : Credentials} {nonce login proof : Bytes}

/-- The payload of the login that answers a nonce, or why there is none. -/
def payload (c : Credentials) (nonce : Bytes) : Except EncodeError Bytes := do
  (Message.login (← c.login nonce)).payload

/-- The proof of the password that credentials owe to a nonce. -/
inductive Owes (c : Credentials) (nonce : Bytes) : Bytes → Prop where
  | scrambled {d password} (scramble : c.scramble = true) (given : c.password = some d)
      (octets : d.octets = .ok password) : Owes c nonce (Password.scramble password nonce)
  | nothing (h : c.scramble = false ∨ c.password = none) : Owes c nonce []

/-- The login that answers a nonce names the user, none counting as an empty name, and proves the password. -/
inductive Answers (c : Credentials) (nonce : Bytes) : Bytes → Prop where
  | intro {user proof} (named : (c.user.getD (.plain "")).octets = .ok user)
      (proved : c.Owes nonce proof) : Answers c nonce (loginOf user proof)

theorem octets_username (c : Credentials) : c.username.octets = (c.user.getD (.plain "")).octets := by
  unfold username
  split
  · next h => rw [h]; rfl
  · next h => rw [h]; rfl
  · next user _ h => rw [h]; rfl

theorem owes_iff : c.Owes nonce proof ↔ c.proof nonce = .ok proof := by
  unfold Credentials.proof
  constructor
  · rintro (⟨hs, hp, ho⟩ | h)
    · rw [hs, hp]
      simp only [ho]
      rfl
    · split
      · next hs hp => simp [hs, hp] at h
      · rfl
  · intro h
    split at h
    · next password hs hp =>
      cases ho : password.octets with
      | error e => rw [ho] at h; cases h
      | ok b =>
        rw [ho] at h
        cases h
        exact .scrambled hs hp ho
    · next hno =>
      cases h
      refine .nothing ?_
      cases hs : c.scramble with
      | false => exact .inl rfl
      | true =>
        cases hp : c.password with
        | none => exact .inr rfl
        | some password => exact absurd hp (hno password hs)

theorem payload_eq (c : Credentials) (nonce : Bytes) : c.payload nonce = do
    let proof ← c.proof nonce
    let user ← c.username.octets
    return loginOf user proof := by
  unfold payload login
  cases c.proof nonce with
  | error e => rfl
  | ok proof =>
    show (do return (← LoginPacket.traverse Datum.octets _).encode) = _
    unfold LoginPacket.traverse
    dsimp only
    cases c.username.octets <;> rfl

/-- Behind the proof it is the name that may have no octets. -/
theorem payload_of_owes (h : c.Owes nonce proof) :
    c.payload nonce = (c.user.getD (.plain "")).octets.map (loginOf · proof) := by
  rw [payload_eq, octets_username, owes_iff.1 h]
  cases (c.user.getD (.plain "")).octets <;> rfl

theorem payload_of_unnamed {e : EncodeError} (h : c.Owes nonce proof)
    (huser : (c.user.getD (.plain "")).octets = .error e) : c.payload nonce = .error e := by
  rw [payload_of_owes h, huser]
  rfl

/-- UTF-8 has octets for what the credentials send. -/
structure Encodable (c : Credentials) : Prop where
  user : ∃ user, (c.user.getD (.plain "")).octets = .ok user
  password : c.scramble = true → ∀ d, c.password = some d → ∃ password, d.octets = .ok password

theorem answers_iff : c.Answers nonce login ↔ c.payload nonce = .ok login := by
  constructor
  · rintro ⟨hnamed, hproved⟩
    rw [payload_of_owes hproved, hnamed]
    rfl
  · intro h
    cases hproof : c.proof nonce with
    | error e =>
      rw [payload_eq, hproof] at h
      cases h
    | ok proof =>
      have howes := owes_iff.2 hproof
      rw [payload_of_owes howes] at h
      cases huser : (c.user.getD (.plain "")).octets with
      | error e =>
        rw [huser] at h
        cases h
      | ok user =>
        rw [huser] at h
        cases h
        exact .intro huser howes

/-- Only one login answers a nonce. -/
theorem Answers.unique {login' : Bytes} (h : c.Answers nonce login) (h' : c.Answers nonce login') :
    login = login' := Except.ok.inj ((answers_iff.1 h).symm.trans (answers_iff.1 h'))

theorem Encodable.exists_owes (h : c.Encodable) (nonce : Bytes) : ∃ proof, c.Owes nonce proof := by
  cases hs : c.scramble with
  | false => exact ⟨_, .nothing (.inl hs)⟩
  | true =>
    cases hp : c.password with
    | none => exact ⟨_, .nothing (.inr hp)⟩
    | some d =>
      obtain ⟨password, ho⟩ := h.password hs d hp
      exact ⟨_, .scrambled hs hp ho⟩

theorem Encodable.exists_answers (h : c.Encodable) (nonce : Bytes) : ∃ login, c.Answers nonce login := by
  obtain ⟨user, huser⟩ := h.user
  obtain ⟨proof, hproof⟩ := h.exists_owes nonce
  exact ⟨_, .intro huser hproof⟩

theorem Answers.encodable (h : c.Answers nonce login) : c.Encodable := by
  obtain ⟨hnamed, hproved⟩ := h
  refine ⟨⟨_, hnamed⟩, fun hs d hp => ?_⟩
  cases hproved with
  | scrambled _ hp' ho =>
    cases hp.symm.trans hp'
    exact ⟨_, ho⟩
  | nothing h =>
    rcases h with hs' | hp'
    · cases hs.symm.trans hs'
    · cases hp.symm.trans hp'

theorem proof_error {e : EncodeError} (h : c.proof nonce = .error e) : ∃ t, e = .loneSurrogate t := by
  unfold Credentials.proof at h
  split at h
  · next password _ _ =>
    rcases password.octets_cases with ⟨b, ho⟩ | ⟨t, ho⟩
    · rw [ho] at h
      cases h
    · rw [ho] at h
      cases h
      exact ⟨t, rfl⟩
  · cases h

/-- Of credentials that have no octets there is a text that has none. -/
theorem payload_of_not_encodable (h : ¬ c.Encodable) (nonce : Bytes) :
    ∃ t, c.payload nonce = .error (.loneSurrogate t) := by
  cases hlogin : c.payload nonce with
  | ok login => exact absurd (answers_iff.2 hlogin).encodable h
  | error e =>
    rw [payload_eq] at hlogin
    cases hproof : c.proof nonce with
    | error e' =>
      obtain ⟨t, ht⟩ := proof_error hproof
      rw [hproof] at hlogin
      cases hlogin
      exact ⟨t, congrArg _ ht⟩
    | ok proof =>
      rcases c.username.octets_cases with ⟨user, huser⟩ | ⟨t, huser⟩
      · rw [hproof, huser] at hlogin
        cases hlogin
      · rw [hproof, huser] at hlogin
        cases hlogin
        exact ⟨t, rfl⟩

end Credentials

/-- The credentials answer a nonce with this login, and it fits one packet. -/
structure LoginFits (c : Credentials) (nonce login : Bytes) : Prop where
  answers : c.Answers nonce login
  length_le : login.length ≤ Frame.maxPayload

/-- The login without a name that proves nothing. -/
theorem loginFits_of_nobody {c : Credentials} (huser : c.user.getD (.plain "") = .plain "")
    (hscramble : c.scramble = false) (nonce : Bytes) : LoginFits c nonce LoginPacket.initial.encode where
  answers := .intro (congrArg Datum.octets huser) (.nothing (.inl hscramble))
  length_le := Nat.le_of_ble_eq_true rfl

theorem send_congr {m m' : Message} (h : m.payload = m'.payload) : send m = send m' := by
  funext s
  rw [send_of_payload m s _ h, send_of_payload m' s _ rfl]

/-- The login is sent as its octets are. -/
theorem sendLogin_of_payload {c : Credentials} {nonce login : Bytes} (h : c.payload nonce = .ok login) :
    sendLogin c nonce = send (.octets login) := by
  unfold Credentials.payload at h
  unfold sendLogin
  cases hlogin : c.login nonce with
  | error e => rw [hlogin] at h; cases h
  | ok p =>
    rw [hlogin] at h
    exact send_congr h

/-- A login that there are no octets for is not sent. -/
theorem sendLogin_of_error {c : Credentials} {nonce : Bytes} {e : EncodeError}
    (h : c.payload nonce = .error e) : sendLogin c nonce = throw (.unsendable e) := by
  funext s
  unfold Credentials.payload at h
  unfold sendLogin
  cases hlogin : c.login nonce with
  | error e' => rw [hlogin] at h; cases h; rfl
  | ok p =>
    rw [hlogin] at h
    exact send_of_payload (.login p) s _ h

theorem sendLogin_congr {c c' : Credentials} {nonce : Bytes} (h : c.payload nonce = c'.payload nonce) :
    sendLogin c nonce = sendLogin c' nonce := by
  cases hlogin : c'.payload nonce with
  | ok login => rw [sendLogin_of_payload (h.trans hlogin), sendLogin_of_payload hlogin]
  | error e => rw [sendLogin_of_error (h.trans hlogin), sendLogin_of_error hlogin]

/-- What is done for a login is done for octets, or for none. -/
theorem sendLogin_cases (c : Credentials) (nonce : Bytes) :
    (∃ login, sendLogin c nonce = send (.octets login)) ∨
      ∃ e, sendLogin c nonce = throw (.unsendable e) := by
  cases h : c.payload nonce with
  | ok login => exact .inl ⟨login, sendLogin_of_payload h⟩
  | error e => exact .inr ⟨e, sendLogin_of_error h⟩

theorem LoginFits.sendLogin_eq {c : Credentials} {nonce login : Bytes} (h : LoginFits c nonce login) :
    sendLogin c nonce = send (.octets login) :=
  sendLogin_of_payload (Credentials.answers_iff.1 h.answers)

/-! ## Being let in -/

variable {id : Int} {p q : Packet} {g : Greeting String}

/-- The id of a greeting is taken over. -/
theorem takes_receiveGreeting (hp : p.Fits) :
    Takes receiveGreeting id p.frame (.ok p) [] (succId p.sequence) := by
  have hadopt : Takes (modify fun s => { s with sequence := succId p.sequence } : Exchange Unit) id []
      (.ok ()) [] (succId p.sequence) :=
    .of_silent fun _ _ _ => ⟨rfl, .of_transport_eq rfl, rfl⟩
  have h : Takes receiveGreeting id (p.frame ++ ([] ++ [])) (.ok p) [] (succId p.sequence) :=
    (takes_receiveAny hp).bind (hadopt.bind (takes_pure p))
  rwa [List.append_nil, List.append_nil] at h

theorem takes_parseGreeting (herr : Marker.isErr p.payload = false)
    (hg : Greeting.decode.read p.payload = .ok g) :
    Takes (parseGreeting p.payload) id [] (.ok g) [] id := by
  have h : Takes (parse Greeting.decode p.payload) id [] _ [] id := takes_parse ..
  rw [parsed, hg] at h
  simp only [parseGreeting, herr]
  exact h

theorem takes_noteGreeting : Takes (noteGreeting g) id [] (.ok ()) [] id := by
  unfold noteGreeting
  split
  · exact takes_note _ _
  · exact (takes_note _ _).bind (takes_note _ _)

/-- The frame of a login behind a greeting. -/
def loginFrame (greeting : Packet) (login : Bytes) : Bytes :=
  (Packet.mk (succId greeting.sequence) login).frame

theorem takes_sendLogin {c : Credentials} {nonce login : Bytes} (h : LoginFits c nonce login) :
    Takes (sendLogin c nonce) id [] (.ok id) [(Packet.mk id login).frame] (succId id) := by
  rw [h.sendLogin_eq]
  exact takes_send rfl h.length_le

/-- The client is let in. -/
theorem takes_authenticate {c : Credentials} {login : Bytes} (hp : p.Fits)
    (herr : Marker.isErr p.payload = false) (hg : Greeting.decode.read p.payload = .ok g)
    (hlogin : LoginFits c g.nonce login) (hq : q.Fits) (hid : q.sequence = succId (succId p.sequence))
    (hanswer : Marker.isErr q.payload = false) :
    Takes (authenticate c) id (p.frame ++ q.frame) (.ok g) [loginFrame p login]
      (succId (succId (succId p.sequence))) := by
  have hreceive : Takes receive (succId (succId p.sequence)) q.frame _ [] _ := takes_receive hq
  rw [if_pos hid] at hreceive
  -- an empty part for each step that takes nothing
  have h : Takes (authenticate c) id (p.frame ++ ([] ++ ([] ++ ([] ++ (q.frame ++ ([] ++ []))))))
      (.ok g) [loginFrame p login] (succId (succId (succId p.sequence))) := by
    refine (takes_receiveGreeting hp).bind ((takes_parseGreeting herr hg).bind
      (takes_noteGreeting.bind ((takes_sendLogin hlogin).bind (hreceive.bind ?_))))
    simp only [hanswer]
    exact (takes_note _ _).bind (takes_pure g)
  simpa only [List.append_nil, List.nil_append] using h

end SqlWire.Session
