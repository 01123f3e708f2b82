import SqlWire.Proofs.GreetingPacket
import SqlWire.Proofs.Handshake
import SqlWire.Proofs.Hostile
/-!
# Greetings that are cut

A greeting has to be whole up to the end of its nonce. Of less no greeting is read: a version without the
zero that ends it takes all that is left, and the number behind it is missed. Of more all is read but for
the name, which is as long as what is left of it. So a client does not answer a greeting that was cut before
the end of its nonce (`cut_greeting`).
-/
namespace SqlWire

open Stateful

namespace Greeting

open Decoder

variable {g : Greeting String} {k : Nat}

/-- Where the nonce ends, behind the version and the numbers. -/
def nonceEnd (g : Greeting String) : Nat := (Utf8.encode g.serverVersion).length + 46

theorem length_padded (n : Nat) (part : Bytes) : (Encoding.padded n part).length = n := by
  simp only [Encoding.padded, Encoding.zeros, List.length_append, List.length_replicate]
  have hle : ((Sendable.octets part).take n).length ≤ n := List.length_take_le _ _
  omega

theorem length_upToNonce (g : Greeting String) : g.upToNonce.length = g.nonceEnd := by
  simp only [upToNonce, nonceEnd, List.length_append, Bytes.length_ofInt, length_padded, part1Length,
    part2Length, Encoding.terminated, Encoding.zeros, Sendable.octets, List.length_replicate,
    List.length_singleton]
  omega

/-! ## Cut inside -/

theorem take_encode_of_lt (h : k < g.nonceEnd) :
    g.encode.take k <+: g.upToNonce ∧ g.encode.take k ≠ g.upToNonce := by
  have hlen := length_upToNonce g
  have htake : g.encode.take k = g.upToNonce.take k := by
    rw [encode_eq, List.take_append_of_le_length (by omega)]
  rw [htake]
  refine ⟨List.take_prefix k _, fun he => ?_⟩
  have hk : (g.upToNonce.take k).length = k := List.length_take_of_le (by omega)
  rw [he] at hk
  omega

theorem read_of_cut_inside (hg : g.InRange) (h : k < g.nonceEnd) :
    ∃ needed offset size, decode.read (g.encode.take k) = .error (.tooShort needed offset size) := by
  obtain ⟨hpart, hne⟩ := take_encode_of_lt h
  exact ((spansThen_decode hg []).misses _ hpart hne).read

/-- The first octet is the number of the protocol, if there is an octet. -/
theorem isErr_take_encode (hg : g.InRange) (hversion : g.protocolVersion ≠ 0xFF) (k : Nat) :
    Marker.isErr (g.encode.take k) = false := by
  cases k with
  | zero => rfl
  | succ k =>
    have hne : Bytes.lowOctet g.protocolVersion ≠ Marker.err := by
      intro he
      have hlow := Bytes.toNat_lowOctet g.protocolVersion
      have herr : (Marker.err.toNat : Int) = 0xFF := rfl
      have hrange := hg.protocolVersion
      rw [he, herr] at hlow
      omega
    simpa [Marker.isErr, Marker.leads, encode, Bytes.ofInt] using hne

/-! ## Cut behind -/

/-- What is left of the name is a text without a zero, or with the zero that ends the whole name. -/
theorem nameText_take {name : String} (hname : '\x00' ∉ name.toList) (j : Nat) :
    nameText ((Encoding.terminated name).take j) = Utf8.decode ((Utf8.encode name).take j) := by
  have hzero : 0 ∉ Utf8.encode name := mt Utf8.zero_mem_encode.1 hname
  have hpart : 0 ∉ (Utf8.encode name).take j := fun h => hzero (List.mem_of_mem_take h)
  have hwhole : Encoding.terminated name = Utf8.encode name ++ [0] := rfl
  apply nameText_eq hpart
  rw [hwhole]
  rcases Nat.lt_or_ge (Utf8.encode name).length j with hlt | hle
  · rw [List.take_of_length_le (by rw [List.length_append]; exact hlt),
      List.take_of_length_le (Nat.le_of_lt hlt)]
    exact .inr (.inl rfl)
  · exact .inl (List.take_append_of_le_length hle)

theorem read_of_cut_behind (hg : g.InRange) (h : g.nonceEnd ≤ k) :
    decode.read (g.encode.take k) = .ok { g.filled with
      authPluginName := Utf8.decode ((Utf8.encode g.authPluginName).take (k - g.nonceEnd)) } := by
  have hlen := length_upToNonce g
  have htake : g.encode.take k =
      g.upToNonce ++ (Encoding.terminated g.authPluginName).take (k - g.nonceEnd) := by
    rw [encode_eq, List.take_append, List.take_of_length_le (by omega), hlen]
  rw [htake, (spansThen_decode hg _).readsLast.read, nameText_take hg.authPluginName]

end Greeting

namespace Session

variable {g : Greeting String} {c : Credentials} {s : Session} {p : Packet} {rest : Bytes}

/-- A greeting that ends too early is malformed, and not answered. -/
theorem authenticate_of_tooShort {needed offset : Int} {size : Nat} (hp : p.Fits)
    (hb : s.transport.arriving = p.frame ++ rest) (herr : Marker.isErr p.payload = false)
    (hread : Greeting.decode.read p.payload = .error (.tooShort needed offset size)) :
    FailsWith .protocol (outcome (authenticate c s)) ∧
      (final (authenticate c s)).transport.sent = s.transport.sent := by
  have h := course_authenticate_of_unreadable (c := c) hp hb herr hread
  rw [h.outcome_eq]
  exact ⟨failsWith_error.2 rfl, h.moves.sent⟩

/-- A greeting that is cut before the end of its nonce is no greeting, and a client that receives it sends
nothing. Cut behind, it is the same greeting but for what is lost of the name. -/
theorem cut_greeting (hg : g.InRange) (k : Nat) :
    (k < g.nonceEnd →
      (∃ needed offset size,
        Greeting.decode.read (g.encode.take k) = .error (.tooShort needed offset size)) ∧
      (g.protocolVersion ≠ 0xFF → ∀ (c : Credentials) (s : Session) (id : Int) (rest : Bytes),
        (Packet.mk id (g.encode.take k)).Fits →
        s.transport.arriving = (Packet.mk id (g.encode.take k)).frame ++ rest →
        FailsWith .protocol (outcome (authenticate c s)) ∧
          (final (authenticate c s)).transport.sent = s.transport.sent)) ∧
    (g.nonceEnd ≤ k → Greeting.decode.read g.encode = .ok g.filled ∧
      Greeting.decode.read (g.encode.take k) = .ok { g.filled with
        authPluginName := Utf8.decode ((Utf8.encode g.authPluginName).take (k - g.nonceEnd)) }) := by
  refine ⟨fun hinside => ?_, fun hbehind => ?_⟩
  · obtain ⟨needed, offset, size, hread⟩ := Greeting.read_of_cut_inside hg hinside
    refine ⟨⟨needed, offset, size, hread⟩, ?_⟩
    intro hversion c s id rest hfits hb
    exact authenticate_of_tooShort hfits hb (Greeting.isErr_take_encode hg hversion k) hread
  · refine ⟨?_, Greeting.read_of_cut_behind hg hbehind⟩
    rw [Greeting.encode_eq]
    exact (Greeting.readsLast_decode hg (.inl rfl)).read

/-- The version loses its zero and its last digit, and the name the second octet of its letter. -/
theorem cut_greeting_of_version :
    let g := { Greeting.initial with serverVersion := "5.1", authPluginName := "é" }
    let s := probe 0 ((Packet.mk 0 (g.encode.take 3)).frame ++ [1])
    g.InRange ∧ g.nonceEnd = 49 ∧
      FailsWith .protocol (outcome (authenticate ⟨none, none, false⟩ s)) ∧
      (final (authenticate ⟨none, none, false⟩ s)).transport.sent = [] ∧
      Greeting.decode.read (g.encode.take 50) = .ok { g.filled with authPluginName := "\uFFFD" } := by
  intro g s
  have hg : g.InRange := by constructor <;> decide
  have hend : g.nonceEnd = 49 := by decide
  have hb : s.transport.arriving = (Packet.mk 0 (g.encode.take 3)).frame ++ [1] := List.take_length
  obtain ⟨hinside, -⟩ := cut_greeting hg 3
  obtain ⟨-, hbehind⟩ := cut_greeting hg 50
  obtain ⟨-, hsilent⟩ := hinside (by omega)
  obtain ⟨hfails, hsent⟩ := hsilent (by decide) ⟨none, none, false⟩ s 0 [1]
    ⟨by decide, by decide, by decide⟩ hb
  obtain ⟨-, hname⟩ := hbehind (by omega)
  have hletter : Utf8.decode ((Utf8.encode "é").take 1) = "\uFFFD" := by decide
  rw [hend, hletter] at hname
  exact ⟨hg, hend, hfails, hsent, hname⟩

end Session

end SqlWire
