import SqlWire.Message.Greeting
import SqlWire.Proofs.Truncation
/-!
# What a client reads in a greeting

A greeting whose numbers fit their octets is read back as it was, with both parts of its nonce filled up.
Some servers end a full second part with a zero of its own, and an empty name is a zero alone: whichever
it is, no octet of a name is taken for it (`read_greeting`). Only behind the nonce may a greeting end early
(`spansThen_decode`).
-/
namespace SqlWire

open Stateful

/-- A word of flags is put together again from its halves. -/
theorem Capability.union_halves (n : Nat) :
    union (n % 0x10000 : Nat) (n / 0x10000 * 0x10000 : Nat) = n := by
  have hlow : n % 0x10000 < 2 ^ 16 := Nat.mod_lt n (by decide)
  have hor := Nat.two_pow_add_eq_or_of_lt hlow (n / 0x10000)
  have hsplit : 2 ^ 16 * (n / 0x10000) + n % 0x10000 = n := Nat.div_add_mod n 0x10000
  rw [hsplit] at hor
  show ((n % 0x10000 ||| n / 0x10000 * 0x10000 : Nat) : Int) = n
  rw [Nat.or_comm, Nat.mul_comm]
  exact congrArg Nat.cast hor.symm

namespace Decoder

variable {β : Type} {b : Bytes}

/-! ## A name that may be missing -/

/-- The name behind the nonce, past a zero that ends the nonce. -/
def nameText (b : Bytes) : String := firstText (if Marker.leads 0 b then b.tail else b)

theorem leads_zero_of_not_mem (hb : 0 ∉ b) : Marker.leads 0 b = false := by
  cases b with
  | nil => rfl
  | cons x b =>
    rw [List.mem_cons, not_or] at hb
    have hx : x ≠ 0 := Ne.symm hb.1
    simp [Marker.leads, hx]

/-- Whether or not the nonce and the name have a zero behind them, the name is the same. An empty name has
no octet that could be told from the zero of the nonce. -/
theorem nameText_eq {name : Bytes} (hname : 0 ∉ name)
    (hb : b = name ∨ b = name ++ [0] ∨ b = 0 :: (name ++ [0])) : nameText b = Utf8.decode name := by
  unfold nameText
  rcases hb with rfl | rfl | rfl
  · rw [leads_zero_of_not_mem hname]
    exact firstText_eq hname
  · cases name with
    | nil => rfl
    | cons x name =>
      have hlead : Marker.leads 0 (x :: name ++ [0]) = Marker.leads 0 (x :: name) := rfl
      rw [hlead, leads_zero_of_not_mem hname]
      exact firstText_append hname []
  · exact firstText_append hname []

/-- A text that ends the payload is read if it is there, and is empty if it is not. -/
theorem readsLast_optionalName (named : String → β) (b : Bytes) :
    ReadsLast (hasMore >>= fun more =>
      if more then terminatedText >>= fun name => pure (named name)
      else pure "" >>= fun name => pure (named name)) b (named (firstText b)) := by
  apply ReadsLast.hasMore_bind
  rintro c - rfl
  cases h : c.rest with
  | nil => rfl
  | cons x rest =>
    show outcome ((terminatedText >>= fun name => pure (named name)) c) = _
    rw [(bind_pure named).1, outcome_terminatedText, h]
    rfl

/-- A zero that comes first is passed over, and the text behind it is read. -/
theorem readsLast_name (named : String → β) (b : Bytes) :
    ReadsLast (isNext 0 >>= fun terminated =>
      let afterTerminator := fun (_ : Unit) => hasMore >>= fun more =>
        if more then terminatedText >>= fun name => pure (named name)
        else pure "" >>= fun name => pure (named name)
      if terminated then skip 1 >>= afterTerminator else afterTerminator ()) b (named (nameText b)) := by
  apply ReadsLast.isNext_bind
  unfold nameText
  cases h : Marker.leads 0 b with
  | false => exact readsLast_optionalName named b
  | true =>
    obtain ⟨rest, rfl⟩ := List.head?_eq_some_iff.1 (beq_iff_eq.1 h)
    exact (reads_skip_one 0).bind_last (readsLast_optionalName named rest)

end Decoder

namespace Greeting

open Decoder

variable {g : Greeting String}

/-- The numbers and the parts of the nonce fit the octets that hold them, and no text ends early. -/
structure InRange (g : Greeting String) : Prop where
  protocolVersion : 0 ≤ g.protocolVersion ∧ g.protocolVersion ≤ 0xFF
  serverVersion : '\x00' ∉ g.serverVersion.toList
  connectionId : 0 ≤ g.connectionId ∧ g.connectionId ≤ 0xFFFFFFFF
  challenge1 : g.challenge1.length ≤ part1Length
  capabilityFlags : 0 ≤ g.capabilityFlags ∧ g.capabilityFlags ≤ 0xFFFFFFFF
  characterSet : 0 ≤ g.characterSet ∧ g.characterSet ≤ 0xFF
  statusFlags : 0 ≤ g.statusFlags ∧ g.statusFlags ≤ 0xFFFF
  challenge2 : g.challenge2.length ≤ part2Length
  authPluginDataLength : 0 ≤ g.authPluginDataLength ∧ g.authPluginDataLength ≤ 0xFF
  authPluginName : '\x00' ∉ g.authPluginName.toList

/-- With both parts of the nonce as long as they are sent. -/
def filled (g : Greeting String) : Greeting String :=
  { g with
    challenge1 := g.challenge1 ++ Encoding.zeros (part1Length - g.challenge1.length)
    challenge2 := g.challenge2 ++ Encoding.zeros (part2Length - g.challenge2.length) }

/-- The octets up to the end of the nonce, behind which the name comes. -/
def upToNonce (g : Greeting String) : Bytes :=
  Bytes.ofInt 1 g.protocolVersion ++ Encoding.terminated g.serverVersion
    ++ Bytes.ofInt 4 g.connectionId ++ Encoding.padded part1Length g.challenge1
    ++ Encoding.zeros 1 ++ Bytes.ofInt 2 g.capabilityFlags ++ Bytes.ofInt 1 g.characterSet
    ++ Bytes.ofInt 2 g.statusFlags ++ Bytes.ofInt 2 (g.capabilityFlags / 0x10000)
    ++ Bytes.ofInt 1 g.authPluginDataLength ++ Encoding.zeros 10
    ++ Encoding.padded part2Length g.challenge2

theorem encode_eq (g : Greeting String) :
    g.encode = g.upToNonce ++ Encoding.terminated g.authPluginName := rfl

/-- As servers write it that end the nonce with a zero of its own. -/
def encodeEnded (g : Greeting String) : Bytes :=
  g.upToNonce ++ 0 :: Encoding.terminated g.authPluginName

theorem length_filled {part : Bytes} {n : Nat} (h : part.length ≤ n) :
    (part ++ Encoding.zeros (n - part.length)).length = n := by
  simp only [Encoding.zeros, List.length_append, List.length_replicate]
  omega

theorem padded_eq {part : Bytes} {n : Nat} (h : part.length ≤ n) :
    Encoding.padded n part = part ++ Encoding.zeros (n - part.length) := by
  show part.take n ++ Encoding.zeros (n - (part.take n).length) = _
  rw [List.take_of_length_le h]

/-- A part of the nonce is read with what it was filled up with. -/
theorem spans_part {part : Bytes} {n : Nat} (h : part.length ≤ n) :
    Spans (octets n) (Encoding.padded n part) (part ++ Encoding.zeros (n - part.length)) := by
  have hspans := spans_octets (part ++ Encoding.zeros (n - part.length))
  rw [length_filled h] at hspans
  rwa [padded_eq h]

/-- Whatever comes behind the nonce, the greeting is read up to it, and of less there is no greeting. -/
theorem spansThen_decode (hg : g.InRange) (b : Bytes) :
    SpansThen decode g.upToNonce b { g.filled with authPluginName := nameText b } := by
  obtain ⟨protocolVersion, serverVersion, connectionId, challenge1, capabilityFlags, characterSet,
    statusFlags, challenge2, authPluginDataLength, authPluginName⟩ := g
  obtain ⟨protocolVersion, rfl, h1⟩ := exists_nat hg.protocolVersion
  obtain ⟨connectionId, rfl, h2⟩ := exists_nat hg.connectionId
  obtain ⟨capabilityFlags, rfl, h3⟩ := exists_nat hg.capabilityFlags
  obtain ⟨characterSet, rfl, h4⟩ := exists_nat hg.characterSet
  obtain ⟨statusFlags, rfl, h5⟩ := exists_nat hg.statusFlags
  obtain ⟨authPluginDataLength, rfl, h6⟩ := exists_nat hg.authPluginDataLength
  have hlow : Spans (fixedInt 2) (Bytes.ofInt 2 capabilityFlags) (capabilityFlags % 0x10000) :=
    spans_ofInt_mod (by decide) capabilityFlags
  have hhigh : Spans (fixedInt 2) (Bytes.ofInt 2 (capabilityFlags / 0x10000 : Nat))
      (capabilityFlags / 0x10000) := spans_ofInt (Nat.div_le_div_right h3) (by decide) (by decide)
  unfold upToNonce
  simp only [List.append_assoc]
  refine (spans_ofInt h1 (by decide) (by decide)).bind_then <|
    spansThen_terminated hg.serverVersion (fun _ => (misses_fixedInt (by decide)).bind) <|
    (spans_ofInt h2 (by decide) (by decide)).bind_then <|
    (spans_part hg.challenge1).bind_then <| (spans_skip (Encoding.zeros 1)).bind_then <|
    hlow.bind_then <| (spans_ofInt h4 (by decide) (by decide)).bind_then <|
    (spans_ofInt h5 (by decide) (by decide)).bind_then <| hhigh.bind_then <|
    (spans_ofInt h6 (by decide) (by decide)).bind_then <|
    (spans_skip (Encoding.zeros 10)).bind_then <| (spans_part hg.challenge2).then_last ?_
  -- both halves of the flags are there
  rw [Capability.union_halves]
  exact readsLast_name _ b

theorem readsLast_decode (hg : g.InRange) {b : Bytes}
    (hb : b = Encoding.terminated g.authPluginName ∨ b = 0 :: Encoding.terminated g.authPluginName) :
    ReadsLast decode (g.upToNonce ++ b) g.filled := by
  have h := (spansThen_decode hg b).readsLast
  have hname : 0 ∉ Utf8.encode g.authPluginName := mt Utf8.zero_mem_encode.1 hg.authPluginName
  rwa [nameText_eq hname (.inr hb), Utf8.decode_encode] at h

/-- A greeting is read back with its nonce filled up, whether or not the nonce has a zero of its own
behind it and whether or not a name comes then. -/
theorem read_greeting (hg : g.InRange) :
    decode.read g.encode = .ok g.filled ∧ decode.read g.encodeEnded = .ok g.filled ∧
      g.filled.nonce.length = nonceLength ∧
      g.filled.nonce = (Encoding.padded part1Length g.challenge1
        ++ Encoding.padded part2Length g.challenge2).take nonceLength := by
  refine ⟨?_, (readsLast_decode hg (.inr rfl)).read, ?_, ?_⟩
  · rw [encode_eq]
    exact (readsLast_decode hg (.inl rfl)).read
  · have h1 := length_filled hg.challenge1
    have h2 := length_filled hg.challenge2
    simp only [nonce, filled, List.length_take, List.length_append] at h1 h2 ⊢
    rw [h1, h2]
    rfl
  · rw [padded_eq hg.challenge1, padded_eq hg.challenge2]
    rfl

/-- All flags, a short nonce, and no name. -/
theorem read_greeting_of_no_name :
    let g := { initial with
      serverVersion := "5.1"
      challenge1 := [1, 2, 3]
      capabilityFlags := 0xFFFFFFFF }
    g.InRange ∧ decode.read g.encodeEnded = .ok g.filled ∧
      g.filled.nonce = [1, 2, 3] ++ Encoding.zeros 17 := by
  intro g
  have hg : g.InRange := by constructor <;> decide
  obtain ⟨-, hended, -, hnonce⟩ := read_greeting hg
  exact ⟨hg, hended, hnonce⟩

end Greeting

end SqlWire
