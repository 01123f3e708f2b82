import SqlWire.Proofs.ErrPacket
import SqlWire.Proofs.Reports
/-!
# What was read is read again

A message may be read from octets that nobody would write: a text that is no UTF-8, a length in more octets
than it needs, a part that is missing, or octets behind the end. Written anew, the message is read as the same
one (`reloads`), unless a zero ends its last text or the state of an error does not fit its five octets again.
-/
namespace SqlWire

open Decoder

/-- The message can be written, and what is written is read as `a`. -/
def Rereads {α : Type} (d : Decoder α) (m : Message) (a : α) : Prop :=
  ∃ b, m.payload = .ok b ∧ d.read b = .ok a

/-! ## Texts of characters

UTF-8 has octets for every text that was read, so what can be read can be written. -/

theorem mapM_plain (v : Option String) : (v.map Datum.plain).mapM Datum.octets = .ok (v.map Utf8.encode) := by
  cases v <;> rfl

theorem Encoding.nullable_map_encode (v : Option String) : nullable (v.map Utf8.encode) = nullable v := by
  cases v <;> rfl

theorem ColumnPacket.payload_plain (p : ColumnPacket String) :
    (Message.column (p.mapText .plain)).payload = .ok p.encode := by
  have htraverse : (p.mapText Datum.plain).traverse Datum.octets = .ok (p.mapText Utf8.encode) := by
    simp only [traverse, mapText, mapM_plain]
    rfl
  have hencode : (p.mapText Utf8.encode).encode = p.encode := by
    simp only [encode, mapText, Encoding.nullable_map_encode]
  rw [← hencode]
  show (do return (← (p.mapText Datum.plain).traverse Datum.octets).encode) = _
  rw [htraverse]
  rfl

theorem Row.payload_plain (values : List (Option String)) :
    (Message.row (values.map (·.map .plain))).payload = .ok (encode values) := by
  have htraverse : traverse Datum.octets (values.map (·.map Datum.plain)) =
      .ok (values.map (·.map Utf8.encode)) := by
    unfold traverse
    induction values with
    | nil => rfl
    | cons v values ih =>
      rw [List.map_cons, List.mapM_cons, mapM_plain, ih]
      rfl
  have hencode : encode (values.map (·.map Utf8.encode)) = encode values := by
    simp only [encode, List.flatMap_map, Encoding.nullable_map_encode]
  rw [← hencode]
  show (do return encode (← traverse Datum.octets _)) = _
  rw [htraverse]
  rfl

/-! ## One message after the other -/

theorem Greeting.rereads {g : Greeting String} (hg : g.Whole) :
    Rereads decode (.greeting (g.mapText .plain)) g := by
  have hfilled : g.filled = g := by
    have h1 : part1Length - g.challenge1.length = 0 := by rw [hg.length1, Nat.sub_self]
    have h2 : part2Length - g.challenge2.length = 0 := by rw [hg.length2, Nat.sub_self]
    simp [filled, h1, h2, Encoding.zeros]
  have hread := (readsLast_decode hg.toInRange (.inl rfl)).read
  rw [← encode_eq, hfilled] at hread
  exact ⟨g.encode, rfl, hread⟩

theorem LoginPacket.rereads {p : LoginPacket String} (hp : p.Named) :
    Rereads decode (.login (p.mapText .plain)) p := by
  refine ⟨p.encode, rfl, ?_⟩
  cases hannounced : Capability.announces p.capabilityFlags Capability.pluginAuth with
  | true =>
    have hrange : p.InRange := ⟨hp.capabilityFlags, hp.maxPacketSize, hp.characterSet, hp.username,
      hp.authResponse, hp.pluginName, hannounced⟩
    exact (reads_encode hrange).last.read
  | false => exact read_encode_of_native hp.toBounded hannounced (hp.native hannounced)

theorem ColumnPacket.rereads {p : ColumnPacket String} (hp : p.InRange)
    (hnames : ∀ v ∈ p.names, Countable v) : Rereads decode (.column (p.mapText .plain)) p := by
  exact ⟨p.encode, p.payload_plain, (spans_encode hp hnames).reads.last.read⟩

theorem Row.rereads {values : List (Option String)} (hvalues : ∀ v ∈ values, Countable v) :
    Rereads (decode values.length) (.row (values.map (·.map .plain))) values := by
  exact ⟨encode values, payload_plain values, (spans_encode hvalues).reads.last.read⟩

theorem EofPacket.rereads {p : EofPacket} (hp : p.InRange) : Rereads decode (.eof p) p :=
  ⟨p.encode, rfl, read_encode hp⟩

theorem OkPacket.rereads {p : OkPacket String} (hp : p.InRange)
    (hinfo : p.info.toList.getLast? ≠ some '\x00') : Rereads decode (.ok (p.mapText .plain)) p :=
  read_encode hp hinfo

theorem ErrPacket.rereads {payload : Bytes} {p : ErrPacket String} (hp : Names payload p)
    (hstate : ∀ octets, stateOctets payload = some octets → ∃ t, Utf8.encode t = octets)
    (hmessage : p.errorMessage.toList.getLast? ≠ some '\x00') :
    Rereads decode (.err (p.mapText .plain)) p := by
  obtain ⟨code, hcode, hle⟩ := exists_nat hp.code
  have hlen : (Utf8.encode p.sqlState).length = 5 := by
    cases hoctets : stateOctets payload with
    | none =>
      rw [hp.general hoctets]
      decide
    | some octets =>
      obtain ⟨hfive, hdecode⟩ := hp.state octets hoctets
      obtain ⟨t, rfl⟩ := hstate octets hoctets
      rw [hdecode, Utf8.decode_encode, hfive]
  have hread := read_encode_of_length hle hlen hmessage
  rw [← hcode] at hread
  exact ⟨p.encode, rfl, hread⟩

theorem statement_rereads {sql : String} (hsql : sql.toList.getLast? ≠ some '\x00') :
    Rereads decodeStatement (.statement (.plain sql)) sql := by
  have htext := readsLast_textToEnd (Utf8.encode sql)
  have hread := ((reads_skip_one Marker.query).bind_last (f := fun _ => textToEnd) htext).read
  rw [lastText_encode hsql] at hread
  exact ⟨_, rfl, hread⟩

/-! ## Every message -/

/-- Whatever message is read from the payload, it can be written, and is then read as the same one. -/
structure Reloads (payload : Bytes) : Prop where
  greeting : ∀ g, Greeting.decode.read payload = .ok g →
    Rereads Greeting.decode (.greeting (g.mapText .plain)) g
  login : ∀ p, LoginPacket.decode.read payload = .ok p →
    Rereads LoginPacket.decode (.login (p.mapText .plain)) p
  column : ∀ p, ColumnPacket.decode.read payload = .ok p → (∀ v ∈ p.names, Countable v) →
    Rereads ColumnPacket.decode (.column (p.mapText .plain)) p
  eof : ∀ p, EofPacket.decode.read payload = .ok p → Rereads EofPacket.decode (.eof p) p
  row : ∀ n values, (Row.decode n).read payload = .ok values → (∀ v ∈ values, Countable v) →
    Rereads (Row.decode n) (.row (values.map (·.map .plain))) values
  ok : ∀ p, OkPacket.decode.read payload = .ok p → p.info.toList.getLast? ≠ some '\x00' →
    Rereads OkPacket.decode (.ok (p.mapText .plain)) p
  err : ∀ p, ErrPacket.decode.read payload = .ok p → p.errorMessage.toList.getLast? ≠ some '\x00' →
    (∀ octets, ErrPacket.stateOctets payload = some octets → ∃ t, Utf8.encode t = octets) →
    Rereads ErrPacket.decode (.err (p.mapText .plain)) p
  statement : ∀ sql, decodeStatement.read payload = .ok sql → sql.toList.getLast? ≠ some '\x00' →
    Rereads decodeStatement (.statement (.plain sql)) sql

/-- A message that is read from any octets at all is the message that is read when it is written anew. No text
on a machine has more octets than eight octets can count. -/
theorem reloads (payload : Bytes) : Reloads payload where
  greeting _ hread := Greeting.rereads (Greeting.gives_whole.of_read hread)
  login _ hread := LoginPacket.rereads (LoginPacket.gives_named.of_read hread)
  column _ hread hnames := ColumnPacket.rereads (ColumnPacket.gives_inRange.of_read hread) hnames
  eof _ hread := EofPacket.rereads (EofPacket.gives_inRange.of_read hread)
  row n values hread hvalues := by
    have hlen := (Row.gives_length n []).of_read hread
    rw [List.length_nil, Nat.zero_add] at hlen
    rw [← hlen]
    exact Row.rereads hvalues
  ok _ hread hinfo := OkPacket.rereads (OkPacket.gives_inRange.of_read hread) hinfo
  err _ hread hmessage hstate := ErrPacket.rereads (ErrPacket.names_of_read hread) hstate hmessage
  statement _ _ hsql := statement_rereads hsql

/-- A value whose length takes more octets than it needs, whose octet is no text, and that has octets behind it;
an error whose message is cut inside a character; and reports that end behind their mark. -/
theorem reloads_of_malformed :
    let value : Bytes := [0xFC, 1, 0, 0xFF, 7]
    let error : Bytes := [0xFF, 0x15, 4, 0x23, 0x32, 0x38, 0x30, 0x30, 0x30, 0xC3]
    (Row.decode 1).read value = .ok [some "\uFFFD"] ∧
      Rereads (Row.decode 1) (.row [some (.plain "\uFFFD")]) [some "\uFFFD"] ∧
      ErrPacket.decode.read error = .ok ⟨1045, "28000", "\uFFFD"⟩ ∧
      Rereads ErrPacket.decode (.err ⟨1045, .plain "28000", .plain "\uFFFD"⟩) ⟨1045, "28000", "\uFFFD"⟩ ∧
      Rereads OkPacket.decode (.ok ⟨0, 0, 0, 0, .plain ""⟩) .initial ∧
      Rereads EofPacket.decode (.eof .initial) .initial := by
  intro value error
  have hvalues : ∀ v ∈ [some "\uFFFD"], Countable v := by
    rintro v hv s rfl
    simp at hv
    subst hv
    decide
  have hstate : ∀ octets, ErrPacket.stateOctets error = some octets → ∃ t, Utf8.encode t = octets := by
    rintro _ ⟨⟩
    exact ⟨"28000", rfl⟩
  exact ⟨rfl, (reloads value).row 1 _ rfl hvalues, rfl, (reloads error).err _ rfl (by decide) hstate,
    (reloads [0]).ok _ rfl (by decide), (reloads [0xFE]).eof _ rfl⟩

end SqlWire
