import SqlWire.Proofs.Beginning
import SqlWire.Proofs.Hostile
import SqlWire.Proofs.ResultSet
/-!
# Branches of an answer

The octets that mark errors and end marks also begin lengths, and which of the two a payload is meant
to be is told by its first octet and its size. Every payload passes the test of one branch at most
(`Passes.unique`), so it does not matter in which order the client makes the tests, and no row that is
sent is taken for a mark.
-/
namespace SqlWire

open Stateful

/-! ## First octets -/

namespace Marker

theorem eq_cons_of_leads {marker : UInt8} {payload : Bytes} (h : leads marker payload = true) :
    ∃ b, payload = marker :: b := by
  cases payload with
  | nil => cases h
  | cons x b =>
    simp only [leads, List.head?_cons, beq_iff_eq, Option.some.injEq] at h
    exact ⟨b, by rw [h]⟩

/-- A payload begins with one octet only. -/
theorem leads_unique {marker marker' : UInt8} {payload : Bytes} (h : leads marker payload = true)
    (h' : leads marker' payload = true) : marker = marker' := by
  obtain ⟨b, rfl⟩ := eq_cons_of_leads h
  obtain ⟨b', he⟩ := eq_cons_of_leads h'
  exact (List.cons.inj he).1

theorem length_le_of_isEof {payload : Bytes} (h : isEof payload = true) :
    payload.length ≤ eofMaxLength := by
  have hempty := (Bool.and_eq_true_iff.1 h).2
  rwa [List.isEmpty_iff, List.drop_eq_nil_iff] at hempty

end Marker

namespace Decoder

variable {α β : Type} {payload : Bytes} {e : DecodeError}

/-- A read in a row fails as its first part does. -/
theorem read_bind_error {d : Decoder α} (h : d.read payload = .error e) (f : α → Decoder β) :
    (d >>= f).read payload = .error e := by
  rw [read_eq_outcome] at h ⊢
  rw [bind_of_error h]
  rfl

theorem read_lengthInt_of_ok (h : Marker.isOk payload = true) : lengthInt.read payload = .ok (some 0) := by
  obtain ⟨b, rfl⟩ := Marker.eq_cons_of_leads h
  have hzero : Reads lengthInt [Marker.ok] (some 0) := reads_length (n := 0) (by decide)
  exact hzero.read b

/-- No length begins as an error does. -/
theorem read_lengthInt_of_err (h : Marker.isErr payload = true) :
    lengthInt.read payload = .error (.badPrefix Marker.err 0) := by
  obtain ⟨b, rfl⟩ := Marker.eq_cons_of_leads h
  rw [read_eq_outcome, lengthInt_lead (Cursor.inside_start _) (List.append_nil _).symm]
  rfl

/-- The length that begins as an end mark does is longer than one. -/
theorem read_lengthInt_of_eof (h : Marker.isEof payload = true) :
    ∃ needed offset size, lengthInt.read payload = .error (.tooShort needed offset size) := by
  have hsize := Marker.length_le_of_isEof h
  obtain ⟨b, rfl⟩ := Marker.eq_cons_of_leads (Bool.and_eq_true_iff.1 h).1
  have hshort : b.length < 8 := by
    simp only [Marker.eofMaxLength, List.length_cons] at hsize
    omega
  exact (misses_announced (by decide) rfl hshort).read

/-- Every value of a row and every name of a column begins with a length. -/
theorem read_nullableText_of_error (h : lengthInt.read payload = .error e) :
    nullableText.read payload = .error e :=
  read_bind_error h _

end Decoder

theorem Row.read_of_error {payload : Bytes} {e : DecodeError} {n : Nat} (hn : 1 ≤ n)
    (h : Decoder.lengthInt.read payload = .error e) : (Row.decode n).read payload = .error e := by
  obtain ⟨m, rfl⟩ := Nat.exists_eq_add_of_le' hn
  exact Decoder.read_bind_error (Decoder.read_nullableText_of_error h) _

theorem ColumnPacket.read_of_error {payload : Bytes} {e : DecodeError}
    (h : Decoder.lengthInt.read payload = .error e) : ColumnPacket.decode.read payload = .error e :=
  Decoder.read_bind_error (Decoder.read_nullableText_of_error h) _

namespace Session

variable {payload : Bytes} {n : Nat}

/-! ## Tests -/

/-- Where in an answer a payload comes; rows are of so many values. -/
inductive Phase where
  | start
  | columns
  | columnsEnd
  | rows (values : Nat)

/-- What a payload may be taken for. -/
inductive Meaning where
  | refusal
  | change
  | count (columns : Nat)
  | definition (c : Column)
  | endMark
  | row (values : List Value)

/-- The payload passes the test of a branch, whether or not another is tested before. -/
inductive Passes : Phase → Bytes → Meaning → Prop where
  | refusal {phase : Phase} {payload : Bytes} (isErr : Marker.isErr payload = true) :
      Passes phase payload .refusal
  | change {payload : Bytes} (isOk : Marker.isOk payload = true) : Passes .start payload .change
  | count {payload : Bytes} {n : Nat} (read : Decoder.lengthInt.read payload = .ok (some n))
      (positive : 1 ≤ n) : Passes .start payload (.count n)
  | definition {payload : Bytes} {p : ColumnPacket String}
      (read : ColumnPacket.decode.read payload = .ok p) :
      Passes .columns payload (.definition (columnOf p))
  | columnsEnd {payload : Bytes} (isEof : Marker.isEof payload = true) :
      Passes .columnsEnd payload .endMark
  | rowsEnd {payload : Bytes} {n : Nat} (isEof : Marker.isEof payload = true) :
      Passes (.rows n) payload .endMark
  | row {payload : Bytes} {n : Nat} {values : List Value} (positive : 1 ≤ n)
      (read : (Row.decode n).read payload = .ok values) : Passes (.rows n) payload (.row values)

/-- Whatever may come, an error is an error. -/
theorem Passes.eq_refusal {phase : Phase} {m : Meaning} (herr : Marker.isErr payload = true)
    (h : Passes phase payload m) : m = .refusal := by
  have hread := Decoder.read_lengthInt_of_err herr
  cases h with
  | refusal => rfl
  | change hok => cases Marker.leads_unique herr hok
  | count hcount => cases hread.symm.trans hcount
  | definition hcolumn => cases (ColumnPacket.read_of_error hread).symm.trans hcolumn
  | columnsEnd heof | rowsEnd heof => cases herr.symm.trans (isErr_of_isEof heof)
  | row hn hrow => cases (Row.read_of_error hn hread).symm.trans hrow

/-- A report of success counts no columns. -/
theorem Passes.eq_change {m : Meaning} (hok : Marker.isOk payload = true)
    (h : Passes .start payload m) : m = .change := by
  cases h with
  | refusal herr => cases Marker.leads_unique herr hok
  | change => rfl
  | count hcount hn =>
    cases (Decoder.read_lengthInt_of_ok hok).symm.trans hcount
    cases hn

/-- An end mark is too short for a row. -/
theorem Passes.eq_endMark {m : Meaning} (heof : Marker.isEof payload = true)
    (h : Passes (.rows n) payload m) : m = .endMark := by
  cases h with
  | refusal herr => cases herr.symm.trans (isErr_of_isEof heof)
  | rowsEnd => rfl
  | row hn hrow =>
    obtain ⟨needed, offset, size, hread⟩ := Decoder.read_lengthInt_of_eof heof
    cases (Row.read_of_error hn hread).symm.trans hrow

/-- No payload passes the tests of two branches. -/
theorem Passes.unique {phase : Phase} {m m' : Meaning} (h : Passes phase payload m)
    (h' : Passes phase payload m') : m = m' := by
  cases h with
  | refusal herr => exact (h'.eq_refusal herr).symm
  | change hok => exact (h'.eq_change hok).symm
  | count hread hn =>
    cases h' with
    | refusal herr => exact (Passes.count hread hn).eq_refusal herr
    | change hok => exact (Passes.count hread hn).eq_change hok
    | count hread' =>
      cases hread.symm.trans hread'
      rfl
  | definition hread =>
    cases h' with
    | refusal herr => exact (Passes.definition hread).eq_refusal herr
    | definition hread' =>
      cases hread.symm.trans hread'
      rfl
  | columnsEnd heof =>
    cases h' with
    | refusal herr => cases herr.symm.trans (isErr_of_isEof heof)
    | columnsEnd => rfl
  | rowsEnd heof => exact (h'.eq_endMark heof).symm
  | row hn hread =>
    cases h' with
    | refusal herr => exact (Passes.row hn hread).eq_refusal herr
    | rowsEnd heof => exact (Passes.row hn hread).eq_endMark heof
    | row _ hread' =>
      cases hread.symm.trans hread'
      rfl

/-! ## The tests of an answer -/

/-- What cannot be read is malformed. -/
theorem failsWith_parsed {α : Type} {d : Decoder α} {e : DecodeError} (he : e ≠ .noOctet)
    (h : d.read payload = .error e) : FailsWith .protocol (parsed d payload) := by
  rw [parsed, h]
  exact failsWith_error.2 (errorClass?_malformed he)

theorem announces_iff {count : Bytes} : Announces count n ↔ Passes .start count (.count n) := by
  constructor
  · intro h
    exact .count h.read h.positive
  · intro h
    cases h with
    | count hread hn =>
      refine ⟨?_, ?_, hread, hn⟩
      · rw [← Bool.not_eq_true]
        intro hok
        cases (Passes.count hread hn).eq_change hok
      · rw [← Bool.not_eq_true]
        intro herr
        cases (Passes.count hread hn).eq_refusal herr

theorem columnPayload_iff {c : Column} :
    ColumnPayload payload c ↔ Passes .columns payload (.definition c) := by
  constructor
  · rintro ⟨-, p, hread, rfl⟩
    exact .definition hread
  · intro h
    cases h with
    | definition hread =>
      refine ⟨?_, _, hread, rfl⟩
      rw [← Bool.not_eq_true]
      intro herr
      cases (Passes.definition hread).eq_refusal herr

theorem rowPayload_iff (hn : 1 ≤ n) {values : List Value} :
    RowPayload n payload values ↔ Passes (.rows n) payload (.row values) := by
  constructor
  · rintro ⟨-, -, hread⟩
    exact .row hn hread
  · intro h
    cases h with
    | row _ hread =>
      refine ⟨?_, ?_, hread⟩
      · rw [← Bool.not_eq_true]
        intro herr
        cases (Passes.row hn hread).eq_refusal herr
      · rw [← Bool.not_eq_true]
        intro heof
        cases (Passes.row hn hread).eq_endMark heof

/-- What a mark says of a payload, nothing else in an answer of `n` columns can say. -/
structure Unmistakable (n : Nat) (payload : Bytes) : Prop where
  no_row : Marker.isEof payload = true ∨ Marker.isErr payload = true →
    FailsWith .protocol (parsed (Row.decode n) payload)
  no_definition : Marker.isErr payload = true → FailsWith .protocol (parsed ColumnPacket.decode payload)
  /-- A report of success, read as a number, counts nothing. -/
  no_columns : Marker.isOk payload = true → Decoder.lengthInt.read payload = .ok (some 0)
  no_count : Marker.isErr payload = true → FailsWith .protocol (parsed Decoder.lengthInt payload)
  unique : ∀ phase m m', Passes phase payload m → Passes phase payload m' → m = m'
  /-- What is taken for a count, a definition or a row has to pass no other test than its own. -/
  announces : ∀ k, Announces payload k ↔ Passes .start payload (.count k)
  defines : ∀ c, ColumnPayload payload c ↔ Passes .columns payload (.definition c)
  holds : ∀ values, RowPayload n payload values ↔ Passes (.rows n) payload (.row values)

theorem unmistakable (hn : 1 ≤ n) (payload : Bytes) : Unmistakable n payload where
  no_row h := by
    rcases h with heof | herr
    · obtain ⟨needed, offset, size, hread⟩ := Decoder.read_lengthInt_of_eof heof
      exact failsWith_parsed (by rintro ⟨⟩) (Row.read_of_error hn hread)
    · exact failsWith_parsed (by rintro ⟨⟩) (Row.read_of_error hn (Decoder.read_lengthInt_of_err herr))
  no_definition herr := failsWith_parsed (by rintro ⟨⟩)
    (ColumnPacket.read_of_error (Decoder.read_lengthInt_of_err herr))
  no_columns hok := Decoder.read_lengthInt_of_ok hok
  no_count herr := failsWith_parsed (by rintro ⟨⟩) (Decoder.read_lengthInt_of_err herr)
  unique _ _ _ h h' := h.unique h'
  announces _ := announces_iff
  defines _ := columnPayload_iff
  holds _ := rowPayload_iff hn

end Session

/-! ## Rows that are sent -/

/-- What fits one packet has no need of the length that begins as an end mark does. -/
theorem Encoding.leads_eof_length {n : Nat} (hn : n ≤ Frame.maxPayload) (b : Bytes) :
    Marker.leads Marker.eof (length n ++ b) = false := by
  unfold length
  split
  · next h => exact leads_ofInt_one h (Nat.ne_of_gt (Nat.lt_trans h (by decide))) b
  split
  · rfl
  split
  · rfl
  · next hlong => exact absurd hn hlong

namespace Row

theorem leads_eof_encode {values : List Value} (hfit : (encode values).length ≤ Frame.maxPayload) :
    Marker.leads Marker.eof (encode values) = false := by
  match values with
  | [] => rfl
  | none :: values => rfl
  | some s :: values =>
    simp only [encode, List.flatMap_cons, Encoding.nullable, Encoding.counted, Sendable.octets,
      List.append_assoc, List.length_append] at hfit ⊢
    exact Encoding.leads_eof_length (by omega) _

end Row

namespace Session

/-- No payload can be taken for two things, and no row that is sent for a mark: however long its first
value is, the length in front is more than an end mark has room for, and in a row that fits one packet it
does not even begin as an end mark does. -/
theorem marks_unmistakable {n : Nat} (hn : 1 ≤ n) :
    (∀ payload, Unmistakable n payload) ∧ ∀ values : List Value,
      Marker.isErr (Row.encode values) = false ∧ Marker.isEof (Row.encode values) = false ∧
        ((Row.encode values).length ≤ Frame.maxPayload →
          Marker.leads Marker.eof (Row.encode values) = false) :=
  ⟨unmistakable hn, fun values =>
    ⟨Row.isErr_encode values, Row.isEof_encode values, Row.leads_eof_encode⟩⟩

/-- An end mark where a row of two values might come, and a row of three million octets. -/
theorem marks_unmistakable_of_two_values :
    let row : List Value := [some (String.ofList (List.replicate 3000000 'a')), none]
    FailsWith .protocol (parsed (Row.decode 2) [0xFE, 0, 0, 2, 0]) ∧
      Marker.isErr (Row.encode row) = false ∧ Marker.isEof (Row.encode row) = false := by
  intro row
  obtain ⟨hpayload, hrow⟩ := marks_unmistakable (n := 2) (by decide)
  exact ⟨(hpayload _).no_row (.inl rfl), (hrow row).1, (hrow row).2.1⟩

end Session

end SqlWire
