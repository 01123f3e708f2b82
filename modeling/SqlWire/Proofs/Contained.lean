import SqlWire.Message
import SqlWire.Proofs.Decoding
/-!
# Reads stay inside the payload

Whatever octets a payload holds, no read of it goes back, leaves it, or looks at an octet that is
not there. Reads in a row are contained if each of them is, and so is the reader of every message
that a server sends. So what a read in the middle gives can be told from that read alone (`Gives`).
-/
namespace SqlWire.Decoder

open Stateful

variable {α β : Type} {c : Cursor} {n : Nat}

/-- From a place inside the payload the read goes to one at or behind it, and whatever octet it looks
at is there. -/
def Contained (d : Decoder α) : Prop :=
  ∀ c : Cursor, c.Inside →
    ∃ n ≤ c.rest.length, final (d c) = c.advance n ∧ outcome (d c) ≠ .error .noOctet

/-- Where nothing is passed over. -/
theorem contained_at {r : EStateM.Result DecodeError Cursor α} (hf : final r = c)
    (ho : outcome r ≠ .error .noOctet) :
    ∃ n ≤ c.rest.length, final r = c.advance n ∧ outcome r ≠ .error .noOctet :=
  ⟨0, Nat.zero_le _, hf, ho⟩

/-! ## Reads in a row -/

theorem contained_pure (a : α) : Contained (pure a) := fun _ _ => contained_at rfl (by rintro ⟨⟩)

theorem Contained.bind {d : Decoder α} {f : α → Decoder β} (hd : Contained d)
    (hf : ∀ a, Contained (f a)) : Contained (d >>= f) := by
  intro c hc
  obtain ⟨m, hm, hfinal, hpresent⟩ := hd c hc
  cases h : outcome (d c) with
  | ok a =>
    obtain ⟨n, hn, hfinal', hpresent'⟩ := hf a (c.advance m) (Cursor.inside_advance hc hm)
    rw [Cursor.advance_advance] at hfinal'
    have hle : m + n ≤ c.rest.length := by
      simp only [Cursor.advance, List.length_drop] at hn
      omega
    rw [bind_of_ok h, hfinal]
    exact ⟨m + n, hle, hfinal', hpresent'⟩
  | error e =>
    rw [h] at hpresent
    rw [bind_of_error h, outcome_error]
    exact ⟨m, hm, hfinal, fun he => hpresent (by cases he; rfl)⟩

theorem Contained.map {d : Decoder α} (f : α → β) (hd : Contained d) : Contained (f <$> d) :=
  hd.bind fun a => contained_pure (f a)

/-- A payload is read from its beginning. -/
theorem Contained.read_ne {d : Decoder α} (hd : Contained d) (payload : Bytes) :
    d.read payload ≠ .error .noOctet := by
  obtain ⟨_, _, _, hpresent⟩ := hd _ (Cursor.inside_start payload)
  unfold read
  cases h : d (Cursor.start payload) with
  | ok a c => rintro ⟨⟩
  | error e c =>
    rw [h] at hpresent
    rintro ⟨⟩
    exact hpresent rfl

/-! ## Octets and integers -/

theorem require_of_lt (hc : c.Inside) (h : c.rest.length < n) :
    require n c = .error (.tooShort n c.offset c.size) c := by
  simp only [Cursor.Inside] at hc
  exact if_neg (by omega)

/-- What comes behind a check only has to be contained where that many octets are left. -/
theorem contained_require_bind {f : Unit → Decoder α}
    (h : ∀ c : Cursor, c.Inside → n ≤ c.rest.length →
      ∃ m ≤ c.rest.length, final (f () c) = c.advance m ∧ outcome (f () c) ≠ .error .noOctet) :
    Contained (require n >>= f) := by
  intro c hc
  rcases Nat.lt_or_ge c.rest.length n with hlt | hge
  · have hrequire := require_of_lt hc hlt
    rw [bind_of_error (congrArg outcome hrequire), hrequire]
    exact contained_at rfl (by rintro ⟨⟩)
  · have hrequire := require_of_le hc hge
    rw [bind_of_run hrequire]
    exact h c hc hge

theorem contained_skip (n : Nat) : Contained (skip n) :=
  contained_require_bind fun _ _ h => ⟨n, h, rfl, by rintro ⟨⟩⟩

theorem contained_octets (n : Nat) : Contained (octets n) :=
  contained_require_bind fun _ _ h => ⟨n, h, rfl, by rintro ⟨⟩⟩

/-- A number is read only from octets that are there, so there must be some. -/
theorem contained_fixedInt (hn : 0 < n) : Contained (fixedInt n) := by
  refine contained_require_bind fun c _ h => ?_
  have hne : c.rest.take n ≠ [] := List.ne_nil_of_length_pos (by rw [List.length_take]; omega)
  have hnumber : number (c.rest.take n) = .ok (Bytes.value (c.rest.take n)) := by
    simp [number, hne]
  rw [get_bind, hnumber]
  exact ⟨n, h, rfl, by rintro ⟨⟩⟩

theorem contained_lengthInt : Contained lengthInt := by
  refine contained_require_bind fun c hc h => ?_
  obtain ⟨lead, b, hrest⟩ := List.exists_cons_of_length_pos h
  have hpeek := peek_of_cons hrest
  rw [bind_of_run hpeek]
  -- the octet says how the number goes on
  split
  · exact (contained_fixedInt (by decide)).map some c hc
  split
  · exact (contained_skip 1).bind (fun _ => contained_pure _) c hc
  cases hwidth : Marker.lengthOctets lead with
  | none => exact contained_at rfl (by rintro ⟨⟩)
  | some width =>
    have hpos : 0 < width := by grind [Marker.lengthOctets]
    exact (contained_skip 1).bind (fun _ => (contained_fixedInt hpos).map some) c hc

/-! ## Strings -/

theorem contained_fixedText (n : Nat) : Contained (fixedText n) := (contained_octets n).map _

theorem contained_nullableText : Contained nullableText :=
  contained_lengthInt.bind fun v => by
    cases v with
    | none => exact contained_pure _
    | some n => exact (contained_fixedText n).map some

theorem toEnd_eq_advance (hc : c.Inside) : c.toEnd = c.advance c.rest.length := by
  simp only [Cursor.Inside] at hc
  simp [Cursor.toEnd, Cursor.advance, hc]

theorem contained_terminatedText : Contained terminatedText := by
  intro c hc
  rw [terminatedText, get_bind]
  by_cases h : (c.rest.takeWhile (· ≠ 0)).length < c.rest.length
  · simp only [if_pos h]
    exact ⟨_, h, rfl, by rintro ⟨⟩⟩
  · simp only [if_neg h, toEnd_eq_advance hc]
    exact ⟨_, Nat.le_refl _, rfl, by rintro ⟨⟩⟩

theorem contained_textToEnd : Contained textToEnd := by
  intro c hc
  rw [textToEnd, get_bind, toEnd_eq_advance hc]
  exact ⟨_, Nat.le_refl _, rfl, by rintro ⟨⟩⟩

/-! ## What is left -/

theorem contained_hasMore : Contained hasMore := fun _ _ => contained_at rfl (by rintro ⟨⟩)

theorem contained_hasAtLeast (n : Nat) : Contained (hasAtLeast n) :=
  fun _ _ => contained_at rfl (by rintro ⟨⟩)

theorem contained_isNext (octet : UInt8) : Contained (isNext octet) := by
  intro c hc
  rw [isNext_eq hc]
  exact contained_at rfl (by rintro ⟨⟩)

/-! ## What reads give -/

variable {P : α → Prop} {Q : β → Prop}

/-- Whatever the read gives from a place inside the payload has the property. -/
def Gives (d : Decoder α) (P : α → Prop) : Prop :=
  ∀ c : Cursor, c.Inside → ∀ a c', d c = .ok a c' → P a

theorem gives_pure {a : α} (h : P a) : Gives (pure a) P := by
  rintro _ _ _ _ ⟨⟩
  exact h

theorem Gives.bind {d : Decoder α} {f : α → Decoder β} (hd : Gives d P) (hc : Contained d)
    (hf : ∀ a, P a → Gives (f a) Q) : Gives (d >>= f) Q := by
  intro c hin b c' hrun
  obtain ⟨a, c1, hda, hfa⟩ := bind_eq_ok.1 hrun
  obtain ⟨n, hn, hfinal, -⟩ := hc c hin
  rw [hda, final_ok] at hfinal
  exact hf a (hd c hin a c1 hda) c1 (hfinal ▸ Cursor.inside_advance hin hn) b c' hfa

/-- A read of which nothing is asked. -/
theorem Contained.gives {d : Decoder α} {f : α → Decoder β} (hd : Contained d)
    (hf : ∀ a, Gives (f a) Q) : Gives (d >>= f) Q :=
  Gives.bind (P := fun _ => True) (fun _ _ _ _ _ => trivial) hd fun a _ => hf a

/-- What comes behind a check only has to give something where that many octets are left. -/
theorem gives_require_bind {f : Unit → Decoder β}
    (h : ∀ c : Cursor, c.Inside → n ≤ c.rest.length → ∀ b c', f () c = .ok b c' → Q b) :
    Gives (require n >>= f) Q := by
  intro c hc b c' hrun
  obtain ⟨_, c1, hrequire, hrest⟩ := bind_eq_ok.1 hrun
  rcases Nat.lt_or_ge c.rest.length n with hlt | hge
  · rw [require_of_lt hc hlt] at hrequire
    cases hrequire
  · rw [require_of_le hc hge] at hrequire
    cases hrequire
    exact h c hc hge b c' hrest

theorem gives_octets (n : Nat) : Gives (octets n) (·.length = n) := by
  refine gives_require_bind fun c _ h b c' hrun => ?_
  cases hrun
  exact List.length_take_of_le h

theorem Gives.of_read {d : Decoder α} {payload : Bytes} {a : α} (h : Gives d P)
    (hread : d.read payload = .ok a) : P a := by
  unfold read at hread
  split at hread
  · next b c hrun =>
    cases hread
    exact h _ (Cursor.inside_start payload) _ _ hrun
  · cases hread

end Decoder

/-! ## Messages -/

open Decoder

theorem OkPacket.contained_optionalNumber : Contained OkPacket.optionalNumber :=
  contained_hasMore.bind fun more => by
    split
    · exact contained_lengthInt.bind fun _ => contained_pure _
    · exact contained_pure _

theorem OkPacket.contained_decode : Contained OkPacket.decode :=
  (contained_skip 1).bind fun _ => OkPacket.contained_optionalNumber.bind fun _ =>
    OkPacket.contained_optionalNumber.bind fun _ => (contained_hasAtLeast 4).bind fun more => by
      split
      · exact (contained_fixedInt (by decide)).bind fun _ =>
          (contained_fixedInt (by decide)).bind fun _ =>
            contained_textToEnd.bind fun _ => contained_pure _
      · exact contained_pure _

theorem ErrPacket.contained_decode : Contained ErrPacket.decode := by
  refine (contained_skip 1).bind fun _ => contained_hasMore.bind fun more => ?_
  extract_lets afterCode
  have hafterCode (code : Nat) : Contained (afterCode code) := by
    refine (contained_isNext _).bind fun marked => ?_
    extract_lets afterState
    have hafterState (state : String) : Contained (afterState state) :=
      contained_textToEnd.bind fun _ => contained_pure _
    split
    · exact (contained_skip 1).bind fun _ => (contained_fixedText 5).bind hafterState
    · exact hafterState _
  split
  · exact (contained_fixedInt (by decide)).bind hafterCode
  · exact hafterCode _

theorem EofPacket.contained_decode : Contained EofPacket.decode :=
  (contained_skip 1).bind fun _ => (contained_hasAtLeast _).bind fun more => by
    split
    · exact (contained_fixedInt (by decide)).bind fun _ =>
        (contained_fixedInt (by decide)).bind fun _ => contained_pure _
    · exact contained_pure _

theorem ColumnPacket.contained_decode : Contained ColumnPacket.decode :=
  contained_nullableText.bind fun _ => contained_nullableText.bind fun _ =>
    contained_nullableText.bind fun _ => contained_nullableText.bind fun _ =>
    contained_nullableText.bind fun _ => contained_nullableText.bind fun _ =>
    contained_lengthInt.bind fun _ => (contained_fixedInt (by decide)).bind fun _ =>
    (contained_fixedInt (by decide)).bind fun _ => (contained_fixedInt (by decide)).bind fun _ =>
    (contained_fixedInt (by decide)).bind fun _ => (contained_fixedInt (by decide)).bind fun _ =>
    (contained_skip 2).bind fun _ => contained_pure _

theorem Row.contained_decodeOnto (n : Nat) (done : List (Option String)) :
    Contained (Row.decodeOnto done n) := by
  induction n generalizing done with
  | zero => exact contained_pure _
  | succ n ih => exact contained_nullableText.bind fun v => ih (v :: done)

theorem Greeting.contained_decode : Contained Greeting.decode := by
  refine (contained_fixedInt (by decide)).bind fun _ => contained_terminatedText.bind fun _ =>
    (contained_fixedInt (by decide)).bind fun _ => (contained_octets _).bind fun _ =>
    (contained_skip 1).bind fun _ => (contained_fixedInt (by decide)).bind fun _ =>
    (contained_fixedInt (by decide)).bind fun _ => (contained_fixedInt (by decide)).bind fun _ =>
    (contained_fixedInt (by decide)).bind fun _ => (contained_fixedInt (by decide)).bind fun _ =>
    (contained_skip 10).bind fun _ => (contained_octets _).bind fun _ =>
    (contained_isNext 0).bind fun terminated => ?_
  extract_lets afterName afterTerminator
  have hafterTerminator (u : Unit) : Contained (afterTerminator u) := by
    refine contained_hasMore.bind fun more => ?_
    split
    · exact contained_terminatedText.bind fun _ => contained_pure _
    · exact contained_pure _
  split
  · exact (contained_skip 1).bind hafterTerminator
  · exact hafterTerminator ()

end SqlWire
