import SqlWire.Proofs.Scramble
/-!
# Logins arrive unaltered

The server reads in a login just what went into it, unless the user's name holds a zero: then the name ends
early, and what the server takes for the proof begins in the middle of the name. Whatever is read then, the name
is another one (`login_unaltered`).
-/
namespace SqlWire

open Stateful

namespace LoginPacket

variable {p l : LoginPacket String} {payload : Bytes}

/-- No name that is read holds a zero, whatever it is read from. -/
theorem zero_not_mem_of_read (h : decode.read payload = .ok l) : '\x00' ∉ l.username.toList :=
  (gives_named.of_read h).username

/-- Only the name can keep a login from being read back. -/
theorem read_encode_iff (hp : { p with username := "" }.InRange) :
    decode.read p.encode = .ok p ↔ '\x00' ∉ p.username.toList := by
  constructor
  · exact zero_not_mem_of_read
  · intro hname
    have hrange : p.InRange :=
      { capabilityFlags := hp.capabilityFlags
        maxPacketSize := hp.maxPacketSize
        characterSet := hp.characterSet
        username := hname
        authResponse := hp.authResponse
        pluginName := hp.pluginName
        announced := hp.announced }
    exact (reads_encode hrange).last.read

/-- A name with a zero is never the one that is read. -/
theorem username_ne_of_zero_mem (hname : '\x00' ∈ p.username.toList) (h : decode.read payload = .ok l) :
    l.username ≠ p.username := by
  intro he
  rw [← he] at hname
  exact zero_not_mem_of_read h hname

end LoginPacket

namespace Session

/-- The server reads the user's name, the proof and the client's one plugin. -/
def Conveys (payload : Bytes) (user : String) (proof : Bytes) : Prop :=
  ∃ l, LoginPacket.decode.read payload = .ok l ∧ l.username = user ∧ l.authResponse = proof ∧
    l.pluginName = "mysql_native_password"

/-- The one packet that answers a greeting, if it can be sent, conveys the user and the proof that is owed. -/
structure Introduces (c : Credentials) (user : String) (s : Session) (q : Packet) (g : Greeting String) :
    Prop where
  answers : c.Encodable → ∃ login, c.Answers g.nonce login
  sent : ∀ login, c.Answers g.nonce login → login.length ≤ Frame.maxPayload → s.transport.Writable →
    (final (authenticate c s)).transport.sent =
        (Packet.mk ((q.sequence + 1) % 256) login).frame :: s.transport.sent ∧
      ∃ proof, c.Owes g.nonce proof ∧ Conveys login user proof
  silent : ¬ ((∃ login, c.Answers g.nonce login ∧ login.length ≤ Frame.maxPayload) ∧ s.transport.Writable) →
    (final (authenticate c s)).transport.sent = s.transport.sent

theorem introduces {c : Credentials} {user : String} {s : Session} {q : Packet} {g : Greeting String}
    {rest : Bytes} (hname : c.username = .plain user) (hnul : '\x00' ∉ user.toList)
    (hg : Greeted s q g rest) : Introduces c user s q g where
  answers hc := hc.exists_answers g.nonce
  sent login hlogin hle hw := by
    obtain ⟨proof, howes, hread⟩ := read_login hlogin hname hnul
    exact ⟨sent_authenticate hg ⟨hlogin, hle⟩ hw, proof, howes, _, hread, rfl, rfl, rfl⟩
  silent h := by
    obtain ⟨e, hcourse⟩ := course_authenticate_of_unsendable hg (c := c) fun ⟨⟨login, hlogin⟩, hw⟩ =>
      h ⟨⟨login, hlogin.answers, hlogin.length_le⟩, hw⟩
    exact hcourse.moves.sent

/-- A login whose numbers, proof and plugin fit is read back unaltered just where the name holds no zero, and
a name that holds one is not read back from it. So under every password and every greeting the server learns
the user, the proof and the plugin that the client means. -/
theorem login_unaltered {p : LoginPacket String} (hp : { p with username := "" }.InRange) :
    (LoginPacket.decode.read p.encode = .ok p ↔ '\x00' ∉ p.username.toList) ∧
      ('\x00' ∈ p.username.toList →
        ∀ l, LoginPacket.decode.read p.encode = .ok l → l.username ≠ p.username) ∧
      ∀ (c : Credentials) (user : String) (s : Session) (q : Packet) (g : Greeting String) (rest : Bytes),
        c.username = .plain user → '\x00' ∉ user.toList → Greeted s q g rest → Introduces c user s q g := by
  refine ⟨LoginPacket.read_encode_iff hp, ?_, ?_⟩
  · intro hname l hread
    exact LoginPacket.username_ne_of_zero_mem hname hread
  · intro c user s q g rest hname hnul hg
    exact introduces hname hnul hg

/-- A proof of zeros behind a name without one, a name with one, and a login that is sent. -/
theorem login_unaltered_of_zeros :
    let p := { LoginPacket.initial with username := "é", authResponse := [0, 1, 0] }
    let p' := { LoginPacket.initial with username := "a\x00b" }
    let c : Credentials := ⟨some (.text "alice"), some (.raw [0]), true⟩
    let s := probe 0 ((Packet.mk 255 Greeting.initial.encode).frame ++ [7])
    LoginPacket.decode.read p.encode = .ok p ∧
      LoginPacket.decode.read p'.encode ≠ .ok p' ∧
      ∃ payload proof, (final (authenticate c s)).transport.sent = [(Packet.mk 0 payload).frame] ∧
        Conveys payload "alice" proof := by
  intro p p' c s
  have hp : { p with username := "" }.InRange := by constructor <;> decide
  have hp' : { p' with username := "" }.InRange := LoginPacket.inRange_initial
  obtain ⟨hread, -, hsends⟩ := login_unaltered hp
  obtain ⟨hread', -⟩ := login_unaltered hp'
  obtain ⟨g, hg⟩ : ∃ g, Greeting.decode.read Greeting.initial.encode = .ok g := ⟨_, rfl⟩
  have hgreeted : Greeted s ⟨255, Greeting.initial.encode⟩ g [7] :=
    ⟨⟨by decide, by decide, by decide⟩, List.take_length, rfl, hg⟩
  have hlogin := hsends c "alice" s _ g [7] rfl (by decide) hgreeted
  have hanswers : c.Answers g.nonce _ := .intro rfl (.scrambled rfl rfl rfl)
  obtain ⟨hsent, proof, -, hconveys⟩ :=
    hlogin.sent _ hanswers (Nat.le_of_ble_eq_true rfl) (by rintro _ _ ⟨⟩)
  exact ⟨hread.2 (by decide), fun h => hread'.1 h (by decide), _, proof, hsent, hconveys⟩

end Session

end SqlWire
