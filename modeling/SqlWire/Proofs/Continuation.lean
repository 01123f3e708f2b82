import SqlWire.Proofs.Branches
import SqlWire.Proofs.Refusal
/-!
# Rows that go on in the next packet

A server sends a row that is too long for one packet in full packets and one that is not full. The client
does not put them together again. It does not misread them either: a part of a row is not a row, and where
the first packet holds all of it, the empty packet behind is none (`execute_continued`).
-/
namespace SqlWire

open Stateful

/-! ## First octets -/

theorem Marker.leads_of_part {marker : UInt8} {payload part : Bytes} (h : part <+: payload)
    (hne : part ≠ []) : leads marker part = leads marker payload := by
  obtain ⟨b, rfl⟩ := h
  cases part with
  | nil => exact absurd rfl hne
  | cons x part => rfl

/-! ## Parts of a payload -/

namespace Frame

/-- Full packets, and one that is not full and may be empty, hold the payload together. -/
structure Continued (payload : Bytes) (full : List Bytes) (last : Bytes) : Prop where
  eq_append : payload = full.flatten ++ last
  full_length : ∀ part ∈ full, part.length = maxPayload
  last_length : last.length < maxPayload

/-- A full packet holds something. -/
theorem eq_nil_of_flatten {full : List Bytes} (hfull : ∀ part ∈ full, part.length = maxPayload)
    (h : full.flatten = []) : full = [] := by
  rcases full with _ | ⟨part, full⟩
  · rfl
  · rw [List.flatten_cons, List.append_eq_nil_iff] at h
    have hlen := hfull part List.mem_cons_self
    rw [h.1] at hlen
    cases hlen

/-- The first packet holds a part of what is too long for it, or all of it and the second one nothing. -/
theorem Continued.first {payload last : Bytes} {full : List Bytes} (h : Continued payload full last)
    (hlong : maxPayload ≤ payload.length) :
    ∃ part behind, full ++ [last] = part :: behind ∧ part.length = maxPayload ∧
      (part <+: payload ∧ part ≠ payload ∨ part = payload ∧ behind = [[]]) := by
  obtain ⟨rfl, hfull, hlast⟩ := h
  rcases full with _ | ⟨part, full⟩
  · rw [List.flatten_nil, List.nil_append] at hlong
    exact absurd hlast (Nat.not_lt_of_ge hlong)
  · refine ⟨part, full ++ [last], rfl, hfull part List.mem_cons_self, ?_⟩
    rw [List.flatten_cons, List.append_assoc]
    by_cases hnil : full.flatten ++ last = []
    · obtain ⟨hflat, rfl⟩ := List.append_eq_nil_iff.1 hnil
      have hfull' (part' : Bytes) (hpart' : part' ∈ full) : part'.length = maxPayload :=
        hfull part' (List.mem_cons_of_mem part hpart')
      have hnone := eq_nil_of_flatten hfull' hflat
      rw [hnil, List.append_nil, hnone]
      exact .inr ⟨rfl, rfl⟩
    · exact .inl ⟨List.prefix_append .., by simpa using hnil⟩

theorem Continued.length_le {payload last : Bytes} {full : List Bytes} (h : Continued payload full last) :
    ∀ part ∈ full ++ [last], part.length ≤ maxPayload := by
  intro part hpart
  rcases List.mem_append.1 hpart with hpart | hpart
  · exact Nat.le_of_eq (h.full_length part hpart)
  · rw [List.mem_singleton.1 hpart]
    exact Nat.le_of_lt h.last_length

end Frame

namespace Session

variable {n : Nat} {ps : List Bytes} {payload rest : Bytes} {s : Session} {e : DecodeError}

/-! ## What is neither a row nor a mark -/

/-- The payload stands for nothing that may come among rows of `n` values. -/
structure NoRow (n : Nat) (payload : Bytes) (e : DecodeError) : Prop where
  notErr : Marker.isErr payload = false
  notEof : Marker.isEof payload = false
  read : (Row.decode n).read payload = .error e

/-- An answer of `n` columns has begun, up to some point of its rows. -/
inductive BegunRows (n : Nat) : List Bytes → Prop where
  | intro {count middle : Bytes} {columnPayloads rowPayloads : List Bytes} {columns : List Column}
      {rows : List (List Value)}
      (announced : Announces count n) (length : columnPayloads.length = n)
      (definitions : List.Forall₂ ColumnPayload columnPayloads columns)
      (middleIsEof : Marker.isEof middle = true)
      (values : List.Forall₂ (RowPayload n) rowPayloads rows) :
      BegunRows n (count :: (columnPayloads ++ middle :: rowPayloads))

/-- Decoders run out of octets, or find no length. -/
theorem NoRow.errorClass_eq (h : NoRow n payload e) :
    (Failure.malformed e).errorClass? = some .protocol := by
  apply errorClass?_malformed
  rintro rfl
  exact (Row.contained_decodeOnto n []).read_ne payload h.read

theorem BegunRows.positive (h : BegunRows n ps) : 1 ≤ n := by
  cases h with
  | intro announced => exact announced.positive

/-- Another row may come. -/
theorem BegunRows.concat {row : List Value} (h : BegunRows n ps) (hrow : RowPayload n payload row) :
    BegunRows n (ps ++ [payload]) := by
  cases h with
  | intro announced length definitions middleIsEof values =>
    have hvalues := List.rel_append values (.cons hrow .nil)
    rw [List.cons_append, List.append_assoc, List.cons_append]
    exact .intro announced length definitions middleIsEof hvalues

theorem course_receiveRowsOnto_of_noRow (done : List (List Value)) (hid : IsId s.sequence)
    (hfit : payload.length ≤ Frame.maxPayload)
    (hb : s.transport.arriving = chain s.sequence [payload] ++ rest) (h : NoRow n payload e) :
    Course (receiveRowsOnto n done) s (.error (.malformed e)) (chain s.sequence [payload]) []
      (succId s.sequence) := by
  rw [receiveRowsOnto_eq]
  refine (course_receiveAnswer hid hfit hb h.notErr).bind_silent fun s1 hid1 => ?_
  rw [if_neg (by simp [h.notEof]), ← hid1]
  have hparse := course_parse (s := s1) (Row.decode n) payload
  rw [parsed, h.read] at hparse
  exact hparse.bind_error

theorem BegunRows.course_of_noRow (h : BegunRows n ps) (hno : NoRow n payload e) (hid : IsId s.sequence)
    (hfit : ∀ p ∈ ps ++ [payload], p.length ≤ Frame.maxPayload)
    (hb : s.transport.arriving = chain s.sequence (ps ++ [payload]) ++ rest) :
    Course (receiveAnswer >>= receiveRest) s (.error (.malformed e))
      (chain s.sequence (ps ++ [payload])) [] (idAfter s.sequence (ps ++ [payload]).length) := by
  cases h with
  | intro announced length definitions middleIsEof values =>
    obtain ⟨done, f, hgoes⟩ := goesOn_begunRows announced length definitions middleIsEof values
    rw [chain_append, List.append_assoc] at hb
    rw [chain_append, List.length_append, idAfter_add]
    refine hgoes.course hid (fun p hp => hfit p (List.mem_append_left _ hp)) hb fun s1 hid1 hb1 => ?_
    rw [← hid1] at hb1 ⊢
    exact (course_receiveRowsOnto_of_noRow done (hid1 ▸ isId_idAfter hid _) (hfit payload (by simp)) hb1
      hno).bind_error

/-- A payload among the rows that is no row and no mark is malformed, and ends the answer. -/
theorem course_execute_of_noRow {sql : Datum} {query : Bytes} (hsql : StatementFits sql query)
    (hw : s.transport.Writable) (hbegun : BegunRows n ps) (hno : NoRow n payload e)
    (hfit : ∀ p ∈ ps ++ [payload], p.length ≤ Frame.maxPayload)
    (hb : s.transport.arriving = chain 1 (ps ++ [payload]) ++ rest) :
    Course (execute sql) s (.error (.malformed e)) (chain 1 (ps ++ [payload])) [requestFrame query]
      (idAfter 1 (ps ++ [payload]).length) := by
  have hrequest := course_request hsql hw
  have hb1 := hrequest.moves.arriving_eq (b := []) hb
  rw [← hrequest.sequence] at hb1
  have hid : IsId (final (request sql s)).sequence := by
    rw [hrequest.sequence]
    exact ⟨by decide, by decide⟩
  have hanswer := hbegun.course_of_noRow hno hid hfit hb1
  rw [hrequest.sequence] at hanswer
  exact .of_eq (by rw [execute_eq]) (hrequest.bind hanswer)

/-! ## Rows in several packets -/

variable {row : List Value}

/-- A smaller part of a row is no row of as many values, however it is cut. -/
theorem noRow_of_part {part : Bytes} (hrow : ∀ v ∈ row, Decoder.Countable v)
    (hpart : part <+: Row.encode row) (hne : part ≠ Row.encode row)
    (hlong : Marker.eofMaxLength < part.length) :
    ∃ e, NoRow row.length part e := by
  obtain ⟨needed, offset, size, hread⟩ := ((Row.spans_encode hrow).misses part hpart hne).read
  refine ⟨_, ?_, ?_, hread⟩
  · have hlead : Marker.isErr part = Marker.isErr (Row.encode row) :=
      Marker.leads_of_part hpart (List.ne_nil_of_length_pos (Nat.zero_lt_of_lt hlong))
    rw [hlead, Row.isErr_encode]
  · rw [← Bool.not_eq_true]
    intro heof
    exact absurd (Marker.length_le_of_isEof heof) (Nat.not_le_of_gt hlong)

/-- Nothing is neither a mark nor a row of any values. -/
theorem noRow_nil (hn : 1 ≤ n) : ∃ e, NoRow n [] e := by
  obtain ⟨needed, offset, size, hread⟩ := Decoder.misses_nil.read
  exact ⟨_, rfl, rfl, Row.read_of_error hn hread⟩

/-- A row that a server sends in several packets is never misread, and never left out: behind any number
of rows of the same columns, the answer is malformed. No text on a machine has more octets than eight
octets can count. -/
theorem execute_continued {sql : Datum} {full : List Bytes} {query last : Bytes}
    (hsql : StatementFits sql query) (hw : s.transport.Writable)
    (hbegun : BegunRows row.length ps) (hfit : ∀ p ∈ ps, p.length ≤ Frame.maxPayload)
    (hrow : ∀ v ∈ row, Decoder.Countable v) (hlong : Frame.maxPayload ≤ (Row.encode row).length)
    (hparts : Frame.Continued (Row.encode row) full last)
    (hb : s.transport.arriving = chain 1 (ps ++ (full ++ [last])) ++ rest) :
    FailsWith .protocol (outcome (execute sql s)) := by
  obtain ⟨part, behind, heq, hlen, hfirst⟩ := hparts.first hlong
  have hfits : ∀ p ∈ ps ++ part :: behind, p.length ≤ Frame.maxPayload := by
    intro p hp
    rw [← heq] at hp
    exact (List.mem_append.1 hp).elim (hfit p) (hparts.length_le p)
  rw [heq] at hb
  rcases hfirst with ⟨hpart, hne⟩ | ⟨rfl, rfl⟩
  · -- the first packet holds a part of the row
    obtain ⟨e, hno⟩ := noRow_of_part hrow hpart hne (by rw [hlen]; decide)
    have hsplit : ps ++ part :: behind = ps ++ [part] ++ behind := by simp
    rw [hsplit, chain_append, List.append_assoc] at hb
    rw [(course_execute_of_noRow hsql hw hbegun hno (fun p hp => hfits p (by grind)) hb).outcome_eq]
    exact failsWith_error.2 hno.errorClass_eq
  · -- it holds the whole row, and the next one nothing
    obtain ⟨e, hno⟩ := noRow_nil hbegun.positive
    have hsplit : ps ++ [Row.encode row, []] = ps ++ [Row.encode row] ++ [[]] := by simp
    rw [hsplit] at hb hfits
    have hwhole := hbegun.concat (rowPayload_encode hrow)
    rw [(course_execute_of_noRow hsql hw hwhole hno hfits hb).outcome_eq]
    exact failsWith_error.2 hno.errorClass_eq

/-- A text that just fills a packet, behind the four octets of its length. -/
theorem length_encode_exact {text : String} (h : (Utf8.encode text).length = 0xFFFFFB) :
    (Row.encode [some text]).length = Frame.maxPayload := by
  have hlead : (Encoding.length 0xFFFFFB).length = 4 := rfl
  simp only [Row.encode, List.flatMap_singleton, Encoding.nullable, Encoding.counted, Sendable.octets,
    List.length_append, h, hlead]
  rfl

theorem continued_exact (h : payload.length = Frame.maxPayload) : Frame.Continued payload [payload] [] where
  eq_append := by rw [List.flatten_singleton, List.append_nil]
  full_length := List.forall_mem_singleton.2 h
  last_length := by decide

/-- All of the row is in the first packet, and the second one is empty. -/
theorem execute_continued_of_exact :
    let row : List Value := [some (String.ofList (List.replicate 0xFFFFFB 'a'))]
    let begun := [[1], ColumnPacket.initial.encode, EofPacket.initial.encode]
    let s := probe 0 (chain 1 (begun ++ ([Row.encode row] ++ [[]])) ++ [5])
    (Row.encode row).length = Frame.maxPayload ∧
      FailsWith .protocol (outcome (execute (.text "SELECT t") s)) := by
  intro row begun s
  have htext (n : Nat) : (Utf8.encode (String.ofList (List.replicate n 'a'))).length = n := by
    simp [Utf8.encode, List.length_flatMap, Utf8.encodeChar]
  have hlength : (Row.encode row).length = Frame.maxPayload := length_encode_exact (htext _)
  have hcolumn : ColumnPayload ColumnPacket.initial.encode
      ⟨some "", some "", some "", FieldType.varString⟩ := ⟨rfl, _, rfl, rfl⟩
  have hbegun : BegunRows row.length begun :=
    .intro ⟨rfl, rfl, rfl, by decide⟩ rfl (.cons hcolumn .nil) rfl .nil
  have hcountable : ∀ v ∈ row, Decoder.Countable v := by
    refine List.forall_mem_singleton.2 fun t ht => ?_
    rw [← Option.some.inj ht, htext]
    decide
  have hw : s.transport.Writable := by
    rintro _ _ ⟨⟩
  have hb : s.transport.arriving = chain 1 (begun ++ ([Row.encode row] ++ [[]])) ++ [5] :=
    List.take_length
  exact ⟨hlength, execute_continued ⟨rfl, by decide⟩ hw hbegun (by decide) hcountable
    (Nat.le_of_eq hlength.symm) (continued_exact hlength) hb⟩

end Session

end SqlWire
