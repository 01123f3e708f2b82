import SqlWire.Proofs.Handshake
import SqlWire.Proofs.Ranges
/-!
# The proof of the password

A server that keeps the hash of the hash of a password accepts what the client sends for it. The nonce
comes out of the greeting in two parts, and the proof goes into the login behind its length, so that the
server reads there what the client computed.
-/
namespace SqlWire

open Stateful

/-! ## Exclusive or -/

theorem Bytes.xor_xor_cancel {a b : Bytes} (h : a.length = b.length) : xor (xor a b) a = b := by
  induction a generalizing b with
  | nil => cases b with
    | nil => rfl
    | cons y b => cases h
  | cons x a ih =>
    cases b with
    | nil => cases h
    | cons y b =>
      have hxy : x ^^^ y ^^^ x = y := by
        rw [UInt8.xor_comm x y, UInt8.xor_assoc, UInt8.xor_self, UInt8.xor_zero]
      have hab : xor (xor a b) a = b := ih (Nat.succ.inj h)
      simp only [xor, List.zipWith_cons_cons] at hab ⊢
      rw [hxy, hab]

/-! ## The server's check -/

namespace Password

variable {password nonce : Bytes}

theorem scramble_of_ne_nil (h : password ≠ []) (hn : nonce.length ≤ Greeting.nonceLength) :
    scramble password nonce =
      Bytes.xor (Sha1.digest (nonce ++ stored password)) (Sha1.digest password) := by
  rw [scramble, if_neg (by simpa using h), List.take_of_length_le hn]

theorem length_scramble_le (password message : Bytes) : (scramble password message).length ≤ 20 := by
  unfold scramble
  split
  · exact Nat.zero_le _
  · simp [Bytes.xor]

theorem length_scramble (h : password ≠ []) (hn : nonce.length ≤ Greeting.nonceLength) :
    (scramble password nonce).length = 20 := by
  simp [scramble_of_ne_nil h hn, Bytes.xor]

/-- What the nonce is mixed with comes out again, and hashed it is what the server keeps. -/
theorem accepts_scramble (h : password ≠ []) (hn : nonce.length ≤ Greeting.nonceLength) :
    Accepts (stored password) nonce (scramble password nonce) := by
  rw [Accepts, scramble_of_ne_nil h hn, Bytes.xor_xor_cancel (by simp)]
  rfl

end Password

/-! ## What the server reads -/

namespace Session

variable {c : Credentials} {s : Session} {p : Packet} {g : Greeting String} {rest login proof : Bytes}
  {user : String}

/-- With the proof the server accepts the password; without a password, or if none is to be proved, there
is no proof. -/
structure Proves (c : Credentials) (g : Greeting String) (proof : Bytes) : Prop where
  accepted : ∀ d password, c.scramble = true → c.password = some d → d.octets = .ok password →
    password ≠ [] → proof.length = 20 ∧
      Password.Accepts (Password.stored password) ((g.challenge1 ++ g.challenge2).take 20) proof
  empty : c.scramble = false ∨ c.password = none ∨ (∃ d, c.password = some d ∧ d.octets = .ok []) →
    proof = []

theorem length_nonce_le (g : Greeting String) : g.nonce.length ≤ Greeting.nonceLength :=
  List.length_take_le _ _

theorem proves_of_owes (h : c.Owes g.nonce proof) : Proves c g proof := by
  cases h with
  | @scrambled d password hs hp ho =>
    constructor
    · intro d' password' _ hp' ho' hne
      cases hp.symm.trans hp'
      cases ho.symm.trans ho'
      exact ⟨Password.length_scramble hne (length_nonce_le g),
        Password.accepts_scramble hne (length_nonce_le g)⟩
    · rintro (hs' | hp' | ⟨d', hp', ho'⟩)
      · cases hs.symm.trans hs'
      · cases hp.symm.trans hp'
      · cases hp.symm.trans hp'
        cases ho.symm.trans ho'
        rfl
  | nothing h =>
    refine ⟨fun d password hs hp _ _ => ?_, fun _ => rfl⟩
    rcases h with hs' | hp'
    · cases hs.symm.trans hs'
    · cases hp.symm.trans hp'

theorem length_proof_le {nonce : Bytes} (h : c.Owes nonce proof) : proof.length ≤ 20 := by
  cases h with
  | scrambled => exact Password.length_scramble_le _ _
  | nothing => exact Nat.zero_le _

/-- The user and the proof are read back from the login. -/
theorem read_login {nonce : Bytes} (h : c.Answers nonce login) (hname : c.username = .plain user)
    (hnul : '\x00' ∉ user.toList) : ∃ proof, c.Owes nonce proof ∧ LoginPacket.decode.read login =
      .ok { LoginPacket.initial with username := user, authResponse := proof } := by
  obtain ⟨hnamed, howes⟩ := h
  rename_i octets proof
  rw [← Credentials.octets_username, hname] at hnamed
  cases hnamed
  have hrange : LoginPacket.InRange
      { LoginPacket.initial with username := user, authResponse := proof } :=
    { LoginPacket.inRange_initial with
      username := hnul
      authResponse := Nat.le_trans (length_proof_le howes) (by decide) }
  exact ⟨proof, howes, (LoginPacket.reads_encode hrange).last.read⟩

/-- In answer to a greeting the login is sent, if it can be, and the server finds in it a proof that it
accepts. A password that UTF-8 has no octets for is neither proved nor sent. -/
theorem sent_proof_accepted (hname : c.username = .plain user) (hnul : '\x00' ∉ user.toList)
    (hg : Greeted s p g rest) :
    (g.challenge1 ++ g.challenge2).length = 21 ∧
      (c.Encodable → ∃ login, c.Answers g.nonce login ∧
        (login.length ≤ Frame.maxPayload ∧ s.transport.Writable →
          (final (authenticate c s)).transport.sent =
            (Packet.mk ((p.sequence + 1) % 256) login).frame :: s.transport.sent) ∧
        (¬ (login.length ≤ Frame.maxPayload ∧ s.transport.Writable) →
          (final (authenticate c s)).transport.sent = s.transport.sent) ∧
        ∃ l, LoginPacket.decode.read login = .ok l ∧ Proves c g l.authResponse) ∧
      (¬ c.Encodable → (final (authenticate c s)).transport.sent = s.transport.sent) := by
  obtain ⟨h1, h2⟩ := Greeting.gives_decode.of_read hg.read
  refine ⟨by rw [List.length_append, h1, h2]; rfl, fun hc => ?_, fun hc => ?_⟩
  · obtain ⟨login, hlogin⟩ := hc.exists_answers g.nonce
    obtain ⟨proof, howes, hread⟩ := read_login hlogin hname hnul
    refine ⟨login, hlogin, fun h => sent_authenticate hg ⟨hlogin, h.1⟩ h.2, fun h => ?_, _, hread,
      proves_of_owes howes⟩
    obtain ⟨e, hcourse⟩ := course_authenticate_of_unsendable hg (c := c) fun ⟨⟨login', hfits⟩, hw⟩ =>
      h ⟨hlogin.unique hfits.answers ▸ hfits.length_le, hw⟩
    exact hcourse.moves.sent
  · obtain ⟨e, hcourse⟩ := course_authenticate_of_unsendable hg (c := c) fun ⟨⟨login, hlogin⟩, _⟩ =>
      hc hlogin.answers.encodable
    exact hcourse.moves.sent

/-- A nonce of twenty octets, with a terminator behind it. -/
theorem sent_proof_accepted_of_terminated :
    let greeting : Bytes := [10, 0, 1, 0, 0, 0, 1, 2, 3, 4, 5, 6, 7, 8, 0, 0, 2, 45, 0, 0, 0, 0, 21,
      0, 0, 0, 0, 0, 0, 0, 0, 0, 0, 9, 10, 11, 12, 13, 14, 15, 16, 17, 18, 19, 20, 0]
    let c : Credentials := ⟨some (.text "alice"), some (.text "secret"), true⟩
    ∃ payload l, (final (authenticate c (probe 0 (Packet.mk 0 greeting).frame))).transport.sent =
        [(Packet.mk 1 payload).frame] ∧
      LoginPacket.decode.read payload = .ok l ∧ l.authResponse.length = 20 ∧
      Password.Accepts (Password.stored (Utf8.encode "secret"))
        [1, 2, 3, 4, 5, 6, 7, 8, 9, 10, 11, 12, 13, 14, 15, 16, 17, 18, 19, 20] l.authResponse := by
  intro greeting c
  obtain ⟨g, hread, hnonce⟩ : ∃ g, Greeting.decode.read greeting = .ok g ∧
      (g.challenge1 ++ g.challenge2).take 20 =
        [1, 2, 3, 4, 5, 6, 7, 8, 9, 10, 11, 12, 13, 14, 15, 16, 17, 18, 19, 20] := ⟨_, rfl, rfl⟩
  have hg : Greeted (probe 0 (Packet.mk 0 greeting).frame) ⟨0, greeting⟩ g [] :=
    ⟨⟨by decide, by decide, by decide⟩, rfl, rfl, hread⟩
  have hc : c.Encodable := ⟨⟨_, rfl⟩, by rintro - _ ⟨⟩; exact ⟨_, rfl⟩⟩
  obtain ⟨-, hencodable, -⟩ := sent_proof_accepted (show c.username = .plain "alice" from rfl) (by decide) hg
  obtain ⟨login, hlogin, hsent, -, l, hl, hproves⟩ := hencodable hc
  obtain ⟨hlength, haccepts⟩ := hproves.accepted (.text "secret") _ rfl rfl rfl (by decide)
  rw [hnonce] at haccepts
  have hpayload : Except.ok login = .ok _ := (Credentials.answers_iff.1 hlogin).symm
  have hle : login.length ≤ Frame.maxPayload := by
    cases hpayload
    exact Nat.le_of_ble_eq_true rfl
  exact ⟨login, l, hsent ⟨hle, by rintro _ _ ⟨⟩⟩, hl, hlength, haccepts⟩

end Session

end SqlWire
