import SqlWire.Proofs.Grammar
import SqlWire.Proofs.Truncation
/-!
# Result sets

What the encodings of columns and rows write is an answer: each of their packets is taken for what
it is, and the result has the columns and rows that were written.
-/
namespace SqlWire

/-! ## First octets -/

namespace Encoding

/-- A number in one octet begins with that octet and no other. -/
theorem leads_ofInt_one {n : Nat} (hn : n < Marker.null.toNat) {marker : UInt8}
    (hm : marker.toNat ≠ n) (b : Bytes) : Marker.leads marker (Bytes.ofInt 1 n ++ b) = false := by
  have hne : Bytes.lowOctet n ≠ marker := by
    intro he
    have hlow := Bytes.toNat_lowOctet n
    have hn' : n < 0xFB := hn
    rw [he] at hlow
    omega
  simp [Marker.leads, Bytes.ofInt, hne]

theorem isErr_length (n : Nat) (b : Bytes) : Marker.isErr (length n ++ b) = false := by
  unfold length
  split
  · next h => exact leads_ofInt_one h (Nat.ne_of_gt (Nat.lt_trans h (by decide))) b
  · -- no octet that announces a longer number is the marker
    repeat' split
    all_goals rfl

/-- Only zero begins as a report of success does. -/
theorem isOk_length {n : Nat} (hn : 1 ≤ n) (b : Bytes) : Marker.isOk (length n ++ b) = false := by
  unfold length
  split
  · next h =>
    have hne : Marker.ok.toNat ≠ n := Nat.ne_of_lt hn
    exact leads_ofInt_one h hne b
  · repeat' split
    all_goals rfl

/-- A length that begins as an end mark does is longer than one. -/
theorem isEof_length (n : Nat) (b : Bytes) : Marker.isEof (length n ++ b) = false := by
  unfold length
  split
  · next h =>
    have hlead : Marker.leads Marker.eof (Bytes.ofInt 1 n ++ b) = false :=
      leads_ofInt_one h (Nat.ne_of_gt (Nat.lt_trans h (by decide))) b
    exact Bool.and_eq_false_iff.2 (.inl hlead)
  · -- the marker announces eight octets, and so many are no end mark
    repeat' split
    all_goals rfl

theorem isErr_nullable (v : Option String) (b : Bytes) : Marker.isErr (nullable v ++ b) = false := by
  cases v with
  | none => rfl
  | some s =>
    simp only [nullable, counted, List.append_assoc]
    exact isErr_length ..

theorem isEof_nullable (v : Option String) (b : Bytes) : Marker.isEof (nullable v ++ b) = false := by
  cases v with
  | none => rfl
  | some s =>
    simp only [nullable, counted, List.append_assoc]
    exact isEof_length ..

end Encoding

/-- A packet holds no text whose length could not be counted. -/
theorem countable_of_length_le {v : Option String}
    (hv : (Encoding.nullable v).length ≤ Frame.maxPayload) : Decoder.Countable v := by
  rintro s rfl
  have hlen : (Utf8.encode s).length ≤ (Encoding.nullable (some s)).length := by
    simp [Encoding.nullable, Encoding.counted, Sendable.octets]
  exact Nat.lt_of_le_of_lt (Nat.le_trans hlen hv) (by decide)

/-! ## Columns -/

namespace ColumnPacket

/-- The numbers fit the octets that hold them. -/
structure InRange (p : ColumnPacket String) : Prop where
  characterSet : 0 ≤ p.characterSet ∧ p.characterSet ≤ 0xFFFF
  columnLength : 0 ≤ p.columnLength ∧ p.columnLength ≤ 0xFFFFFFFF
  columnType : 0 ≤ p.columnType ∧ p.columnType ≤ 0xFF
  flags : 0 ≤ p.flags ∧ p.flags ≤ 0xFFFF
  decimals : 0 ≤ p.decimals ∧ p.decimals ≤ 0xFF

/-- The six names, each of which may be absent. -/
def names (p : ColumnPacket String) : List (Option String) :=
  [p.catalog, p.schema, p.table, p.orgTable, p.name, p.orgName]

/-- A definition takes just what it was written as. -/
theorem spans_encode {p : ColumnPacket String} (hp : p.InRange)
    (hnames : ∀ v ∈ p.names, Decoder.Countable v) : Decoder.Spans decode p.encode p := by
  obtain ⟨catalog, schema, table, orgTable, name, orgName, characterSet, columnLength, columnType,
    flags, decimals⟩ := p
  obtain ⟨characterSet, rfl, h1⟩ := Decoder.exists_nat hp.characterSet
  obtain ⟨columnLength, rfl, h2⟩ := Decoder.exists_nat hp.columnLength
  obtain ⟨columnType, rfl, h3⟩ := Decoder.exists_nat hp.columnType
  obtain ⟨flags, rfl, h4⟩ := Decoder.exists_nat hp.flags
  obtain ⟨decimals, rfl, h5⟩ := Decoder.exists_nat hp.decimals
  have hname (v : Option String) (hv : v ∈ [catalog, schema, table, orgTable, name, orgName]) :
      Decoder.Spans Decoder.nullableText (Encoding.nullable v) v :=
    Decoder.spans_nullable (hnames v hv)
  unfold encode
  simp only [List.append_assoc]
  rw [← List.append_nil (Encoding.zeros 2)]
  exact (hname catalog (by simp)).bind <| (hname schema (by simp)).bind <|
    (hname table (by simp)).bind <| (hname orgTable (by simp)).bind <|
    (hname name (by simp)).bind <| (hname orgName (by simp)).bind <|
    (Decoder.spans_length (by decide)).bind <|
    (Decoder.spans_ofInt h1 (by decide) (by decide)).bind <|
    (Decoder.spans_ofInt h2 (by decide) (by decide)).bind <|
    (Decoder.spans_ofInt h3 (by decide) (by decide)).bind <|
    (Decoder.spans_ofInt h4 (by decide) (by decide)).bind <|
    (Decoder.spans_ofInt h5 (by decide) (by decide)).bind <|
    (Decoder.spans_skip (Encoding.zeros 2)).bind (Decoder.spans_pure _)

theorem length_nullable_le {p : ColumnPacket String} {v : Option String} (hv : v ∈ p.names) :
    (Encoding.nullable v).length ≤ p.encode.length := by
  simp only [names, List.mem_cons, List.not_mem_nil, or_false] at hv
  simp only [encode, List.length_append]
  rcases hv with rfl | rfl | rfl | rfl | rfl | rfl
  all_goals omega

/-- A definition in one packet is read back. -/
theorem reads_encode {p : ColumnPacket String} (hp : p.InRange)
    (hlen : p.encode.length ≤ Frame.maxPayload) : Decoder.Reads decode p.encode p :=
  (spans_encode hp fun _ hv => countable_of_length_le (Nat.le_trans (length_nullable_le hv) hlen)).reads

end ColumnPacket

/-! ## Rows -/

namespace Row

theorem isErr_encode (values : List Value) : Marker.isErr (encode values) = false := by
  cases values with
  | nil => rfl
  | cons v values => exact Encoding.isErr_nullable v _

theorem isEof_encode (values : List Value) : Marker.isEof (encode values) = false := by
  cases values with
  | nil => rfl
  | cons v values => exact Encoding.isEof_nullable v _

/-- No value is longer than its row. -/
theorem countable_of_mem {values : List Value} (hlen : (encode values).length ≤ Frame.maxPayload) :
    ∀ v ∈ values, Decoder.Countable v := by
  intro v hv
  have hsub := List.sublist_flatten_of_mem (List.mem_map_of_mem (f := Encoding.nullable) hv)
  rw [← List.flatMap_def] at hsub
  exact countable_of_length_le (Nat.le_trans hsub.length_le hlen)

end Row

namespace Session

open Stateful

theorem columnPayload_encode {p : ColumnPacket String} (hp : p.InRange)
    (hlen : p.encode.length ≤ Frame.maxPayload) :
    ColumnPayload p.encode ⟨p.schema, p.table, p.name, p.columnType⟩ := by
  refine ⟨?_, p, (ColumnPacket.reads_encode hp hlen).last.read, rfl⟩
  simp only [ColumnPacket.encode, List.append_assoc]
  exact Encoding.isErr_nullable ..

/-- A row that is sent is taken for no mark, and is read back. -/
theorem rowPayload_encode {row : List Value} (hrow : ∀ v ∈ row, Decoder.Countable v) :
    RowPayload row.length (Row.encode row) row :=
  ⟨Row.isErr_encode row, Row.isEof_encode row, (Row.spans_encode hrow).reads.last.read⟩

theorem isEof_encode (p : EofPacket) : Marker.isEof p.encode = true := rfl

/-! ## Whole result sets -/

variable {columns : List (ColumnPacket String)} {rows : List (List Value)} {middle last : EofPacket}

/-- The payloads in which a server sends a result set. -/
def resultSetPayloads (columns : List (ColumnPacket String)) (middle : EofPacket)
    (rows : List (List Value)) (last : EofPacket) : List Bytes :=
  Encoding.length columns.length ::
    (columns.map ColumnPacket.encode ++ middle.encode :: (rows.map Row.encode ++ [last.encode]))

theorem answer_resultSetPayloads (hne : columns ≠ []) (hcount : columns.length ≤ 0xFFFFFFFFFFFFFFFF)
    (hrange : ∀ c ∈ columns, c.InRange) (hrows : ∀ row ∈ rows, row.length = columns.length)
    (hfit : ∀ payload ∈ resultSetPayloads columns middle rows last,
      payload.length ≤ Frame.maxPayload) :
    Answer (resultSetPayloads columns middle rows last)
      ⟨columns.map fun c => ⟨c.schema, c.table, c.name, c.columnType⟩, rows, 0, 0⟩ := by
  have hpos : 1 ≤ columns.length := List.length_pos_iff.2 hne
  -- the first payload counts the columns and is no report
  have hlead : Decoder.lengthInt.read (Encoding.length columns.length) = .ok (some columns.length) :=
    (Decoder.reads_length (Nat.lt_of_le_of_lt hcount (by decide))).last.read
  have hnotOk := Encoding.isOk_length hpos []
  have hnotErr := Encoding.isErr_length columns.length []
  rw [List.append_nil] at hnotOk hnotErr
  have hdefinitions : List.Forall₂ ColumnPayload (columns.map ColumnPacket.encode)
      (columns.map fun c => ⟨c.schema, c.table, c.name, c.columnType⟩) := by
    rw [List.forall₂_map_left_iff, List.forall₂_map_right_iff, List.forall₂_same]
    exact fun c hc => columnPayload_encode (hrange c hc)
      (hfit _ (by simp [resultSetPayloads]; exact .inr (.inl ⟨c, hc, rfl⟩)))
  have hvalues : List.Forall₂ (RowPayload columns.length) (rows.map Row.encode) rows := by
    rw [List.forall₂_map_left_iff, List.forall₂_same]
    intro row hrow
    rw [← hrows row hrow]
    exact rowPayload_encode <| Row.countable_of_mem <|
      hfit _ (by simp [resultSetPayloads]; exact .inr (.inr (.inr (.inl ⟨row, hrow, rfl⟩))))
  exact .resultSet hnotOk hnotErr hlead hpos
    (.intro (by simp) hdefinitions (isEof_encode middle) hvalues (isEof_encode last))

/-- A result set that a server sends is returned as it was sent, whatever comes behind it. Eight octets
count the columns, more than any list on a machine can have. -/
theorem execute_resultSet (columns : List (ColumnPacket String)) (middle : EofPacket)
    (rows : List (List Value)) (last : EofPacket) {sql : Datum} {query rest : Bytes} {s : Session}
    (hs : s.Reliable) (hne : columns ≠ []) (hcount : columns.length ≤ 0xFFFFFFFFFFFFFFFF)
    (hrange : ∀ c ∈ columns, c.InRange) (hrows : ∀ row ∈ rows, row.length = columns.length)
    (hfit : ∀ payload ∈ resultSetPayloads columns middle rows last,
      payload.length ≤ Frame.maxPayload)
    (hsql : StatementFits sql query)
    (hin : s.transport.incoming = chain 1 (resultSetPayloads columns middle rows last) ++ rest) :
    ∃ s', execute sql s =
        .ok ⟨columns.map fun c => ⟨c.schema, c.table, c.name, c.columnType⟩, rows, 0, 0⟩ s' ∧
      s'.transport.incoming = rest ∧
      s'.transport.consumed = s.transport.consumed +
        (chain 1 (resultSetPayloads columns middle rows last)).length ∧
      s'.transport.sent =
        (Packet.mk 0 (Marker.query :: query)).frame :: s.transport.sent ∧
      s'.sequence = (columns.length + rows.length + 4) % 256 := by
  have h : Takes (execute sql) s.sequence _ _ [requestFrame query] _ :=
    takes_execute hsql (answer_resultSetPayloads hne hcount hrange hrows hfit) hfit
  have hat : s.At s.sequence (chain 1 (resultSetPayloads columns middle rows last) ++ rest) :=
    ⟨hs, rfl, hin⟩
  obtain ⟨ho, hm, hid⟩ := h.ends s rest hat
  refine ⟨_, eq_ok_iff.2 ⟨ho, rfl⟩, hm.incoming_eq hin, hm.consumed, hm.sent, ?_⟩
  -- the request took the first id
  rw [hid, idAfter_eq ⟨by decide, by decide⟩]
  have hlen : (resultSetPayloads columns middle rows last).length = columns.length + rows.length + 3 := by
    simp [resultSetPayloads]
    omega
  rw [hlen]
  omega

/-- One column and two rows, one without a value and one with an empty text. -/
theorem execute_resultSet_of_two_rows :
    let payloads := resultSetPayloads [.initial] ⟨0, 2⟩ [[none], [some ""]] ⟨1, 2⟩
    ∃ s', execute (.text "SELECT n FROM t") (probe 9 (chain 1 payloads ++ [5])) =
        .ok ⟨[⟨some "", some "", some "", FieldType.varString⟩], [[none], [some ""]], 0, 0⟩ s' ∧
      s'.transport.incoming = [5] ∧ s'.transport.consumed = 0 + (chain 1 payloads).length ∧
      s'.transport.sent = [(Packet.mk 0 (Marker.query :: Utf8.encode "SELECT n FROM t")).frame] ∧
      s'.sequence = (1 + 2 + 4) % 256 :=
  execute_resultSet [.initial] ⟨0, 2⟩ [[none], [some ""]] ⟨1, 2⟩ ⟨rfl, rfl⟩
    (by decide) (by decide) (List.forall_mem_singleton.2 (by constructor <;> decide)) (by decide)
    (by decide) ⟨rfl, by decide⟩ rfl

end Session

end SqlWire
