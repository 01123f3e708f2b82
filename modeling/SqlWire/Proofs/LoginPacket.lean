import SqlWire.Message.Login
import SqlWire.Proofs.Decoding
/-!
# What a server reads in a login

A login whose numbers fit their octets and whose texts hold no zero is read back as it was. One that announces
no plugin is read with the native one, whatever it names.
-/
namespace SqlWire.LoginPacket

variable {p : LoginPacket String}

/-- The numbers and the proof fit the octets that hold them, no text ends early, and the plugin is
announced. -/
structure InRange (p : LoginPacket String) : Prop where
  capabilityFlags : 0 ≤ p.capabilityFlags ∧ p.capabilityFlags ≤ 0xFFFFFFFF
  maxPacketSize : 0 ≤ p.maxPacketSize ∧ p.maxPacketSize ≤ 0xFFFFFFFF
  characterSet : 0 ≤ p.characterSet ∧ p.characterSet ≤ 0xFF
  username : '\x00' ∉ p.username.toList
  authResponse : p.authResponse.length ≤ 0xFF
  pluginName : '\x00' ∉ p.pluginName.toList
  announced : Capability.announces p.capabilityFlags Capability.pluginAuth = true

/-- What this client sends without a name or a proof. -/
theorem inRange_initial : initial.InRange :=
  ⟨by decide, by decide, by decide, by decide, by decide, by decide, by decide⟩

/-- The numbers and the proof fit the octets that hold them, and the name does not end early. -/
structure Bounded (p : LoginPacket String) : Prop where
  capabilityFlags : 0 ≤ p.capabilityFlags ∧ p.capabilityFlags ≤ 0xFFFFFFFF
  maxPacketSize : 0 ≤ p.maxPacketSize ∧ p.maxPacketSize ≤ 0xFFFFFFFF
  characterSet : 0 ≤ p.characterSet ∧ p.characterSet ≤ 0xFF
  username : '\x00' ∉ p.username.toList
  authResponse : p.authResponse.length ≤ 0xFF

theorem InRange.bounded (hp : p.InRange) : p.Bounded :=
  ⟨hp.capabilityFlags, hp.maxPacketSize, hp.characterSet, hp.username, hp.authResponse⟩

/-- The octets up to the end of the proof, behind which the plugin comes. -/
def upToProof (p : LoginPacket String) : Bytes :=
  Bytes.ofInt 4 p.capabilityFlags ++ Bytes.ofInt 4 p.maxPacketSize ++ Bytes.ofInt 1 p.characterSet
    ++ Encoding.zeros 23 ++ Encoding.terminated p.username
    ++ Bytes.ofInt 1 p.authResponse.length ++ p.authResponse

theorem encode_eq (p : LoginPacket String) :
    p.encode = p.upToProof ++ Encoding.terminated p.pluginName := rfl

/-- The plugin is read if it is announced, and else is the native one. -/
theorem reads_upToProof (hp : p.Bounded) {b : Bytes} {name : String}
    (hplugin : Capability.announces p.capabilityFlags Capability.pluginAuth = true ∧
        Decoder.Reads Decoder.terminatedText b name ∨
      Capability.announces p.capabilityFlags Capability.pluginAuth = false ∧ b = [] ∧
        name = nativePlugin) :
    Decoder.Reads decode (p.upToProof ++ b) { p with pluginName := name } := by
  obtain ⟨capabilityFlags, maxPacketSize, characterSet, username, authResponse, pluginName⟩ := p
  obtain ⟨capabilityFlags, rfl, h1⟩ := Decoder.exists_nat hp.capabilityFlags
  obtain ⟨maxPacketSize, rfl, h2⟩ := Decoder.exists_nat hp.maxPacketSize
  obtain ⟨characterSet, rfl, h3⟩ := Decoder.exists_nat hp.characterSet
  unfold upToProof
  simp only [List.append_assoc]
  refine (Decoder.reads_ofInt_of_le h1 (by decide) (by decide)).bind <|
    (Decoder.reads_ofInt_of_le h2 (by decide) (by decide)).bind <|
    (Decoder.reads_ofInt_of_le h3 (by decide) (by decide)).bind <|
    (Decoder.reads_skip (Encoding.zeros 23)).bind <|
    (Decoder.reads_terminated hp.username).bind <|
    (Decoder.reads_ofInt_of_le hp.authResponse (by decide) (by decide)).bind <|
    (Decoder.reads_octets authResponse).bind ?_
  extract_lets done
  rcases hplugin with ⟨hannounced, hname⟩ | ⟨hannounced, rfl, rfl⟩
  · rw [if_pos hannounced, ← List.append_nil b]
    exact hname.bind (Decoder.reads_pure _)
  · rw [if_neg (by simp [hannounced])]
    exact (Decoder.reads_pure _).bind (Decoder.reads_pure _)

theorem reads_encode (hp : p.InRange) : Decoder.Reads decode p.encode p :=
  reads_upToProof hp.bounded (.inl ⟨hp.announced, Decoder.reads_terminated hp.pluginName⟩)

/-- Of a login that announces no plugin the octets that name one are not read. -/
theorem read_encode_of_native (hp : p.Bounded)
    (hannounced : Capability.announces p.capabilityFlags Capability.pluginAuth = false)
    (hplugin : p.pluginName = nativePlugin) : decode.read p.encode = .ok p := by
  have h := (reads_upToProof hp (.inr ⟨hannounced, rfl, rfl⟩)).read (Encoding.terminated p.pluginName)
  rwa [List.append_nil, ← encode_eq, ← hplugin] at h

end SqlWire.LoginPacket
