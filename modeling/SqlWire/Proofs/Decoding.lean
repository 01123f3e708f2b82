import SqlWire.Proofs.Utf8
import SqlWire.Stateful
import SqlWire.Wire.Cursor
import SqlWire.Wire.Encoding
/-!
# Reading what was written

`Reads d b a` says that the decoder takes the octets `b` wherever they stand and gives `a`. Such
reads can be put in a row, and each basic data type reads what its encoding wrote.
-/
namespace SqlWire

/-! ## Cursors -/

namespace Cursor

/-- The octets left are all those behind the offset. -/
def Inside (c : Cursor) : Prop := c.offset + c.rest.length = c.size

theorem inside_start (payload : Bytes) : (start payload).Inside := by
  simp [Inside, start]

theorem inside_atOffset {payload : Bytes} {n : Nat} (h : n ≤ payload.length) :
    (atOffset payload n).Inside := by
  simp [Inside, atOffset]
  omega

theorem inside_advance {c : Cursor} (hc : c.Inside) {n : Nat} (h : n ≤ c.rest.length) :
    (c.advance n).Inside := by
  simp only [Inside, advance, List.length_drop] at hc ⊢
  omega

theorem advance_advance (c : Cursor) (m n : Nat) :
    (c.advance m).advance n = c.advance (m + n) := by
  simp [advance, Nat.add_assoc]

theorem advance_atOffset (payload : Bytes) (offset n : Nat) :
    (atOffset payload offset).advance n = atOffset payload (offset + n) := by
  simp [atOffset, advance]

end Cursor

/-! ## Lengths -/

/-- A length is an octet of its own, or an octet that announces others. -/
theorem Encoding.length_cases {n : Nat} (hn : n < Nat.pow 256 8) :
    (n < Marker.null.toNat ∧ length n = Bytes.ofInt 1 n) ∨
      ∃ lead width, Marker.null < lead ∧ Marker.lengthOctets lead = some width ∧ 0 < width ∧
        n < Nat.pow 256 width ∧ length n = lead :: Bytes.ofInt width n := by
  unfold length
  split
  · next h => exact .inl ⟨h, rfl⟩
  split
  · next h => exact .inr ⟨_, 2, by decide, rfl, by decide, Nat.lt_of_le_of_lt h (by decide), rfl⟩
  split
  · next h => exact .inr ⟨_, 3, by decide, rfl, by decide, Nat.lt_of_le_of_lt h (by decide), rfl⟩
  · exact .inr ⟨_, 8, by decide, rfl, by decide, hn, rfl⟩

namespace Decoder

variable {α β : Type} {c : Cursor} {n : Nat}

theorem get_bind (f : Cursor → Decoder α) (c : Cursor) : ((get : Decoder Cursor) >>= f) c = f c c :=
  rfl

theorem require_of_le (hc : c.Inside) (h : n ≤ c.rest.length) : require n c = .ok () c := by
  simp only [Cursor.Inside] at hc
  exact if_pos (by omega)

theorem read_eq_outcome (d : Decoder α) (payload : Bytes) :
    d.read payload = Stateful.outcome (d (Cursor.start payload)) := by
  unfold read
  cases d (Cursor.start payload) <;> rfl

/-! ## Reads in a row -/

/-- Wherever the octets `b` come next, the decoder takes them and gives `a`. -/
def Reads (d : Decoder α) (b : Bytes) (a : α) : Prop :=
  ∀ (c : Cursor) (rest : Bytes), c.Inside → c.rest = b ++ rest → d c = .ok a (c.advance b.length)

theorem reads_pure (a : α) : Reads (pure a) [] a := fun _ _ _ _ => rfl

/-- Behind the octets that were taken the next read goes on. -/
theorem Reads.bind_run {d : Decoder α} {f : α → Decoder β} {b b' : Bytes} {a : α} (hd : Reads d b a)
    (hc : c.Inside) (hrest : c.rest = b ++ b') : (d >>= f) c = f a (c.advance b.length) ∧
      (c.advance b.length).Inside ∧ (c.advance b.length).rest = b' := by
  have hlen : b.length ≤ c.rest.length := by simp [hrest]
  exact ⟨Stateful.bind_of_run (hd c b' hc hrest), Cursor.inside_advance hc hlen,
    by simp [Cursor.advance, hrest]⟩

theorem Reads.bind {d : Decoder α} {f : α → Decoder β} {b b' : Bytes} {a : α} {a' : β}
    (hd : Reads d b a) (hf : Reads (f a) b' a') : Reads (d >>= f) (b ++ b') a' := by
  intro c rest hc hrest
  rw [List.append_assoc] at hrest
  obtain ⟨hrun, hin, hnext⟩ := hd.bind_run (f := f) hc hrest
  rw [hrun, hf _ rest hin hnext, Cursor.advance_advance, List.length_append]

theorem Reads.map {d : Decoder α} {b : Bytes} {a : α} (f : α → β) (hd : Reads d b a) :
    Reads (f <$> d) b (f a) := by
  have h := hd.bind (f := fun x => pure (f x)) (reads_pure (f a))
  rw [List.append_nil] at h
  exact h

/-- What is left of the payload behind a complete read is of no account. -/
theorem Reads.read {d : Decoder α} {b : Bytes} {a : α} (hd : Reads d b a) (rest : Bytes) :
    d.read (b ++ rest) = .ok a := by
  rw [Decoder.read, hd _ rest (Cursor.inside_start _) rfl]

/-! ## Reads up to the end -/

/-- Where just the octets `b` are left, the decoder gives `a`. -/
def ReadsLast (d : Decoder α) (b : Bytes) (a : α) : Prop :=
  ∀ c : Cursor, c.Inside → c.rest = b → Stateful.outcome (d c) = .ok a

theorem Reads.last {d : Decoder α} {b : Bytes} {a : α} (h : Reads d b a) : ReadsLast d b a := by
  intro c hc hrest
  rw [h c [] hc (hrest.trans (List.append_nil b).symm), Stateful.outcome_ok]

theorem Reads.bind_last {d : Decoder α} {f : α → Decoder β} {b b' : Bytes} {a : α} {a' : β}
    (hd : Reads d b a) (hf : ReadsLast (f a) b' a') : ReadsLast (d >>= f) (b ++ b') a' := by
  intro c hc hrest
  obtain ⟨hrun, hin, hnext⟩ := hd.bind_run hc hrest
  rw [hrun]
  exact hf _ hin hnext

theorem ReadsLast.bind_pure {d : Decoder α} {b : Bytes} {a : α} (f : α → β) (h : ReadsLast d b a) :
    ReadsLast (d >>= fun x => pure (f x)) b (f a) := by
  intro c hc hrest
  rw [(Stateful.bind_pure f).1, h c hc hrest]
  rfl

theorem ReadsLast.read {d : Decoder α} {b : Bytes} {a : α} (h : ReadsLast d b a) : d.read b = .ok a := by
  rw [read_eq_outcome]
  exact h _ (Cursor.inside_start b) rfl

/-! ## Octets and integers -/

theorem reads_skip (b : Bytes) : Reads (skip b.length) b () := by
  intro c rest hc hrest
  exact Stateful.bind_eq_ok.2 ⟨(), c, require_of_le hc (by simp [hrest]), rfl⟩

theorem reads_skip_one (x : UInt8) : Reads (skip 1) [x] () := reads_skip [x]

theorem reads_octets (b : Bytes) : Reads (octets b.length) b b := by
  intro c rest hc hrest
  refine Stateful.bind_eq_ok.2 ⟨(), c, require_of_le hc (by simp [hrest]), ?_⟩
  have htake : c.rest.take b.length = b := by simp [hrest]
  show EStateM.Result.ok (c.rest.take b.length) (c.advance b.length) = _
  rw [htake]

theorem reads_fixedInt {b : Bytes} (hb : b ≠ []) : Reads (fixedInt b.length) b b.value := by
  intro c rest hc hrest
  refine Stateful.bind_eq_ok.2 ⟨(), c, require_of_le hc (by simp [hrest]), ?_⟩
  have hnumber : number (c.rest.take b.length) = .ok b.value := by
    simp [number, hrest, hb]
  rw [get_bind, hnumber]
  rfl

theorem number_of_ne_nil {b : Bytes} (hb : b ≠ []) : number b = .ok b.value := by
  simp [number, hb]

theorem part_ne_nil {payload : Bytes} {size offset : Nat} (hsize : 1 ≤ size)
    (henough : offset + size ≤ payload.length) : (payload.drop offset).take size ≠ [] := by
  apply List.ne_nil_of_length_pos
  rw [List.length_take, List.length_drop]
  omega

/-- An integer is read where enough octets are left, and passed over. -/
theorem fixedInt_atOffset {payload : Bytes} {size offset : Nat} (hsize : 1 ≤ size)
    (henough : offset + size ≤ payload.length) :
    fixedInt size (.atOffset payload offset) =
      .ok (Bytes.value ((payload.drop offset).take size)) (.atOffset payload (offset + size)) := by
  have hlen : ((payload.drop offset).take size).length = size := by
    rw [List.length_take, List.length_drop]
    omega
  have hread := reads_fixedInt (part_ne_nil hsize henough) (.atOffset payload offset)
    ((payload.drop offset).drop size) (Cursor.inside_atOffset (by omega)) (List.take_append_drop size _).symm
  rwa [hlen, Cursor.advance_atOffset] at hread

/-- Of an integer that is too large for its octets the low ones are read back. -/
theorem reads_ofInt_mod {width : Nat} (hw : 0 < width) (v : Nat) :
    Reads (fixedInt width) (Bytes.ofInt width v) (v % Nat.pow 256 width) := by
  have h := reads_fixedInt (Bytes.ofInt_ne_nil hw v)
  have hvalue := Bytes.value_ofInt width v
  rw [Bytes.length_ofInt] at h
  rw [← Int.natCast_emod] at hvalue
  rwa [Int.ofNat_inj.1 hvalue] at h

/-- An integer that fits its octets is read back. -/
theorem reads_ofInt {width v : Nat} (hw : 0 < width) (hv : v < Nat.pow 256 width) :
    Reads (fixedInt width) (Bytes.ofInt width v) v := by
  have h := reads_ofInt_mod hw v
  rwa [Nat.mod_eq_of_lt hv] at h

/-- An integer that is not negative is a natural number. -/
theorem exists_nat {v : Int} {bound : Nat} (h : 0 ≤ v ∧ v ≤ bound) : ∃ n : Nat, v = n ∧ n ≤ bound :=
  ⟨v.toNat, by omega, by omega⟩

theorem reads_ofInt_of_le {width v bound : Nat} (hv : v ≤ bound) (hw : 0 < width)
    (hb : bound < Nat.pow 256 width) : Reads (fixedInt width) (Bytes.ofInt width v) v :=
  reads_ofInt hw (Nat.lt_of_le_of_lt hv hb)

/-! ## What stands next -/

theorem peek_of_cons {lead : UInt8} {b : Bytes} (hrest : c.rest = lead :: b) :
    peek c = .ok lead c := by
  rw [peek, get_bind, hrest]
  rfl

/-- More octets are left just where there are some behind the cursor. -/
theorem hasMore_eq (hc : c.Inside) : hasMore c = .ok (!c.rest.isEmpty) c := by
  have h : c.hasMore = !c.rest.isEmpty := by
    simp only [Cursor.Inside] at hc
    cases hrest : c.rest with
    | nil =>
      rw [hrest, List.length_nil] at hc
      simp [Cursor.hasMore, ← hc]
    | cons x b =>
      rw [hrest, List.length_cons] at hc
      simp [Cursor.hasMore, ← hc]
  rw [← h]
  rfl

theorem isNext_eq (hc : c.Inside) (octet : UInt8) :
    isNext octet c = .ok (Marker.leads octet c.rest) c := by
  rw [isNext, Stateful.bind_of_run (hasMore_eq hc)]
  cases hrest : c.rest with
  | nil => rfl
  | cons x b =>
    show (peek >>= fun x => pure (x == octet) : Decoder Bool) c = _
    rw [Stateful.bind_of_run (peek_of_cons hrest)]
    simp [Marker.leads]
    rfl

theorem hasAtLeast_eq (hc : c.Inside) (n : Nat) :
    hasAtLeast n c = .ok (decide (n ≤ c.rest.length)) c := by
  have h : (c.offset + n ≤ c.size) = (n ≤ c.rest.length) := by
    simp only [Cursor.Inside] at hc
    exact propext ⟨by omega, by omega⟩
  show EStateM.Result.ok (decide (c.offset + n ≤ c.size)) c = _
  simp only [h]

section LookingAhead

variable {f : Bool → Decoder β} {b : Bytes} {a : β}

theorem ReadsLast.isNext_bind {octet : UInt8} (h : ReadsLast (f (Marker.leads octet b)) b a) :
    ReadsLast (isNext octet >>= f) b a := by
  intro c hc hrest
  rw [Stateful.bind_of_run (isNext_eq hc octet), hrest]
  exact h c hc hrest

theorem ReadsLast.hasMore_bind (h : ReadsLast (f !b.isEmpty) b a) : ReadsLast (hasMore >>= f) b a := by
  intro c hc hrest
  rw [Stateful.bind_of_run (hasMore_eq hc), hrest]
  exact h c hc hrest

theorem ReadsLast.hasAtLeast_bind {n : Nat} (hn : n ≤ b.length) (h : ReadsLast (f true) b a) :
    ReadsLast (hasAtLeast n >>= f) b a := by
  intro c hc hrest
  rw [Stateful.bind_of_run (hasAtLeast_eq hc n), hrest, decide_eq_true hn]
  exact h c hc hrest

/-- What is to be read is there. -/
theorem Reads.hasMore_bind (h : Reads (f true) b a) (hb : b ≠ []) : Reads (hasMore >>= f) b a := by
  intro c rest hc hrest
  have hmore : (!c.rest.isEmpty) = true := by simp [hrest, hb]
  rw [Stateful.bind_of_run (hasMore_eq hc), hmore]
  exact h c rest hc hrest

end LookingAhead

/-! ## Length-encoded integers -/

theorem lengthInt_lead {lead : UInt8} {b rest : Bytes} (hc : c.Inside)
    (hrest : c.rest = lead :: b ++ rest) :
    lengthInt c = (if lead < Marker.null then some <$> fixedInt 1
      else if lead = Marker.null then skip 1 *> pure none
      else match Marker.lengthOctets lead with
        | some n => do skip 1; some <$> fixedInt n
        | none => do throw (.badPrefix lead (← get).offset) : Decoder (Option Nat)) c := by
  have hrequire : require 1 c = .ok () c := require_of_le hc (by simp [hrest])
  have hpeek : peek c = .ok lead c := peek_of_cons hrest
  rw [lengthInt, Stateful.bind_of_run hrequire, Stateful.bind_of_run hpeek]
  rfl

/-- A lead octet that announces how many octets hold the number. -/
theorem reads_announced {lead : UInt8} {width n : Nat} (hlead : Marker.null < lead)
    (hl : Marker.lengthOctets lead = some width) (hw : 0 < width) (hn : n < Nat.pow 256 width) :
    Reads lengthInt (lead :: Bytes.ofInt width n) (some n) := by
  intro c rest hc hrest
  have hlt : ¬ lead < Marker.null := by grind
  have hne : lead ≠ Marker.null := by grind
  rw [lengthInt_lead hc hrest, if_neg hlt, if_neg hne, hl]
  exact (reads_skip_one lead).bind ((reads_ofInt hw hn).map some) c rest hc hrest

/-- A number that eight octets hold is read back from its shortest form. -/
theorem reads_length {n : Nat} (hn : n < Nat.pow 256 8) :
    Reads lengthInt (Encoding.length n) (some n) := by
  rcases Encoding.length_cases hn with ⟨h, he⟩ | ⟨lead, width, hlead, hl, hw, hlt, he⟩
  · rw [he]
    intro c rest hc hrest
    have hlow : Bytes.lowOctet n < Marker.null := by
      have := Bytes.toNat_lowOctet n
      rw [UInt8.lt_iff_toNat_lt]
      omega
    rw [lengthInt_lead hc hrest, if_pos hlow]
    exact ((reads_ofInt (by decide) (Nat.lt_trans h (by decide))).map some) c rest hc hrest
  · rw [he]
    exact reads_announced hlead hl hw hlt

/-- The marker of an absent value. -/
theorem reads_null : Reads lengthInt [Marker.null] none := by
  intro c rest hc hrest
  rw [lengthInt_lead hc hrest, if_neg (by decide), if_pos rfl]
  exact (reads_skip_one Marker.null).bind (reads_pure none) c rest hc hrest

/-! ## Text -/

theorem reads_fixedText (b : Bytes) : Reads (fixedText b.length) b (Utf8.decode b) :=
  (reads_octets b).map Utf8.decode

/-- The text in the octets up to a zero, or in all of them. -/
def firstText (b : Bytes) : String := Utf8.decode (b.takeWhile (· ≠ 0))

theorem takeWhile_append_of_zero_not_mem {b : Bytes} (hb : 0 ∉ b) (rest : Bytes) :
    (b ++ rest).takeWhile (· ≠ 0) = b ++ rest.takeWhile (· ≠ 0) :=
  List.takeWhile_append_of_pos (by grind)

theorem firstText_append {b : Bytes} (hb : 0 ∉ b) (rest : Bytes) :
    firstText (b ++ 0 :: rest) = Utf8.decode b := by
  rw [firstText, takeWhile_append_of_zero_not_mem hb]
  simp

theorem firstText_eq {b : Bytes} (hb : 0 ∉ b) : firstText b = Utf8.decode b := by
  have h := takeWhile_append_of_zero_not_mem hb []
  rw [List.append_nil, List.takeWhile_nil, List.append_nil] at h
  rw [firstText, h]

theorem outcome_terminatedText (c : Cursor) :
    Stateful.outcome (terminatedText c) = .ok (firstText c.rest) := rfl

/-- The first zero octet ends a text, and is taken with it. -/
theorem reads_upTo_zero {b : Bytes} (hb : 0 ∉ b) : Reads terminatedText (b ++ [0]) (Utf8.decode b) := by
  intro c rest hc hrest
  have hwhile : c.rest.takeWhile (· ≠ 0) = b := by
    rw [hrest, List.append_assoc, takeWhile_append_of_zero_not_mem hb]
    simp
  have hlt : b.length < c.rest.length := by
    simp only [hrest, List.length_append, List.length_singleton]
    omega
  rw [terminatedText, get_bind, hwhile]
  simp only [if_pos hlt, List.length_append, List.length_singleton]
  rfl

theorem reads_terminated {s : String} (hs : '\x00' ∉ s.toList) :
    Reads terminatedText (Encoding.terminated s) s := by
  have h := reads_upTo_zero (mt Utf8.zero_mem_encode.1 hs)
  rw [Utf8.decode_encode] at h
  exact h

/-- The text in the last octets of a payload. -/
def lastText (b : Bytes) : String := Utf8.decode (if b.getLast? = some 0 then b.dropLast else b)

theorem lastText_encode {s : String} (hs : s.toList.getLast? ≠ some '\x00') :
    lastText (Utf8.encode s) = s := by
  rw [lastText, if_neg (Utf8.getLast?_encode_ne_zero hs), Utf8.decode_encode]

theorem readsLast_textToEnd (b : Bytes) : ReadsLast textToEnd b (lastText b) := by
  rintro c - rfl
  rfl

/-- Eight octets hold the length of the text, if there is one. -/
def Countable (v : Option String) : Prop := ∀ s, v = some s → (Utf8.encode s).length < Nat.pow 256 8

end Decoder

end SqlWire
