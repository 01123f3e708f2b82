import SqlWire.Proofs.Beginning
import SqlWire.Proofs.ErrPacket
import SqlWire.Proofs.Hostile
/-!
# Errors in the middle of an answer

The server may break off an answer at any payload and report an error instead. The report comes out
wherever it stands (`execute_of_err`): with its code, its state and its message, and instead of
everything that was received before.
-/
namespace SqlWire.Session

open Stateful

variable {s : Session} {ps : List Bytes} {payload rest : Bytes} {sql : Datum} {query : Bytes}

/-! ## Where the error comes -/

theorem course_receiveAnswer_of_err (hid : IsId s.sequence) (hfit : payload.length ≤ Frame.maxPayload)
    (hb : s.transport.arriving = chain s.sequence [payload] ++ rest)
    (herr : Marker.isErr payload = true) :
    Course receiveAnswer s (.error (reportedAs .queryRefused payload)) (chain s.sequence [payload]) []
      (succId s.sequence) := by
  refine (course_receive_payload hid hfit hb).bind_silent fun s1 hid1 => ?_
  simp only [herr]
  rw [← hid1]
  exact course_reported payload .queryRefused _

theorem Begun.course_of_err (h : Begun ps) (hid : IsId s.sequence) (herr : Marker.isErr payload = true)
    (hfit : ∀ p ∈ ps ++ [payload], p.length ≤ Frame.maxPayload)
    (hb : s.transport.arriving = chain s.sequence (ps ++ [payload]) ++ rest) :
    Course (receiveAnswer >>= receiveRest) s (.error (reportedAs .queryRefused payload))
      (chain s.sequence (ps ++ [payload])) [] (idAfter s.sequence (ps ++ [payload]).length) := by
  obtain ⟨y, hgoes, f, rfl⟩ := h.awaits
  rw [chain_append, List.append_assoc] at hb
  rw [chain_append, List.length_append, idAfter_add]
  refine hgoes.course hid (fun p hp => hfit p (List.mem_append_left _ hp)) hb fun s1 hid1 hb1 => ?_
  rw [← hid1] at hb1 ⊢
  exact (course_receiveAnswer_of_err (hid1 ▸ isId_idAfter hid ps.length) (hfit payload (by simp)) hb1
    herr).bind_error

theorem course_request (hsql : StatementFits sql query) (hw : s.transport.Writable) :
    Course (request sql) s (.ok ()) [] [requestFrame query] 1 := by
  have hreset : Course reset s (.ok ()) [] [] 0 := ⟨rfl, .of_transport_eq rfl, rfl⟩
  have hw0 : (final (reset s)).transport.Writable := hw
  have hsend : Course (send (.statement sql)) (final (reset s)) _ [] [requestFrame query] 1 :=
    course_send hsql.payload_eq hsql.length_le hw0
  refine hreset.bind (hsend.bind_silent fun s1 hid => ?_)
  rw [← hid]
  exact course_note _ _

/-- A statement that could be sent, over a transport that does not write. -/
theorem course_request_of_not_writable (hsql : StatementFits sql query) (hw : ¬ s.transport.Writable) :
    ∃ reason, Course (request sql) s (.error (.writeFailed reason)) [] [] 0 := by
  have hreset : Course reset s (.ok ()) [] [] 0 := ⟨rfl, .of_transport_eq rfl, rfl⟩
  obtain ⟨reason, hsend⟩ :=
    course_send_of_not_writable (s := final (reset s)) (m := .statement sql) hsql.payload_eq
      hsql.length_le hw
  exact ⟨reason, hreset.bind hsend.bind_error⟩

/-- What comes of an answer that a payload marked as an error breaks off. -/
structure Refused (payload : Bytes) (r : Except Failure (QueryResult String)) : Prop where
  protocol_iff : FailsWith .protocol r ↔ ErrPacket.Cut payload
  query_iff : FailsWith .query r ↔ ¬ ErrPacket.Cut payload
  reported : ∀ (code : Nat) (state message : String), code ≤ 0xFFFF → ErrPacket.IsState state →
    message.toList.getLast? ≠ some '\x00' → payload = ErrPacket.encode ⟨code, state, message⟩ →
    r = .error (.queryRefused ⟨code, state, message⟩)
  reported_withoutState : ∀ (code : Nat) (message : String), code ≤ 0xFFFF →
    message.toList.head? ≠ some '#' → message.toList.getLast? ≠ some '\x00' →
    payload = Marker.err :: (Bytes.ofInt 2 code ++ Encoding.toEnd message) →
    r = .error (.queryRefused ⟨code, "HY000", message⟩)

theorem refused_of_err (herr : Marker.isErr payload = true) :
    Refused payload (.error (reportedAs .queryRefused payload)) := by
  have hne : payload ≠ [] := by
    rintro rfl
    cases herr
  -- a payload that is cut cannot be read, and any other reports an error
  have hclass : ErrPacket.Cut payload ∧ (reportedAs .queryRefused payload).errorClass? = some .protocol ∨
      ¬ ErrPacket.Cut payload ∧ (reportedAs .queryRefused payload).errorClass? = some .query := by
    rcases ErrPacket.read_cases hne with ⟨hcut, needed, offset, size, hread⟩ | ⟨hcut, p, hread⟩
    · rw [reportedAs, hread]
      exact .inl ⟨hcut, rfl⟩
    · rw [reportedAs, hread]
      exact .inr ⟨hcut, rfl⟩
  constructor
  · rw [failsWith_error]
    rcases hclass with ⟨hcut, hclass⟩ | ⟨hcut, hclass⟩
    · simp [hcut, hclass]
    · simp [hcut, hclass]
  · rw [failsWith_error]
    rcases hclass with ⟨hcut, hclass⟩ | ⟨hcut, hclass⟩
    · simp [hcut, hclass]
    · simp [hcut, hclass]
  · rintro code state message hcode hstate hmessage rfl
    rw [reportedAs, ErrPacket.read_encode hcode hstate hmessage]
  · rintro code message hcode hmark hmessage rfl
    rw [reportedAs, ErrPacket.read_withoutState hcode hmark hmessage]
    rfl

/-- Wherever in an answer a payload comes that is marked as an error, the answer is over and the error
surfaces, with all that it says; only one that ends inside its code or its state is malformed. -/
theorem execute_of_err (hsql : StatementFits sql query) (hw : s.transport.Writable) (hbegun : Begun ps)
    (herr : Marker.isErr payload = true)
    (hfit : ∀ p ∈ ps ++ [payload], p.length ≤ Frame.maxPayload)
    (hb : s.transport.arriving = chain 1 (ps ++ [payload]) ++ rest) :
    Refused payload (outcome (execute sql s)) ∧
      Moves s (chain 1 (ps ++ [payload])) [requestFrame query] (final (execute sql s)) := by
  have hrequest := course_request hsql hw
  have hb1 := hrequest.moves.arriving_eq (b := []) hb
  rw [← hrequest.sequence] at hb1
  have hid : IsId (final (request sql s)).sequence := by
    rw [hrequest.sequence]
    exact ⟨by decide, by decide⟩
  have hanswer := hbegun.course_of_err hid herr hfit hb1
  rw [hrequest.sequence] at hanswer
  have hexecute : Course (execute sql) s _ _ _ _ := .of_eq (by rw [execute_eq]) (hrequest.bind hanswer)
  rw [hexecute.outcome_eq]
  exact ⟨refused_of_err herr, hexecute.moves⟩

/-- A row was received, and more might come, over a line that breaks right behind the error. -/
theorem execute_of_err_in_rows :
    let err := ErrPacket.encode (⟨1317, "70100", "interrupted"⟩ : ErrPacket String)
    let answer := [[1], ColumnPacket.initial.encode, EofPacket.initial.encode, [1, 0x37]] ++ [err]
    let s := Session.start { Transport.ofPeer (chain 1 answer ++ [5]) with
      offers := fun _ _ => 1
      readFault := some ((chain 1 answer).length, "reset") } (.fresh 0)
    StatementFits (.text "SELECT n") (Utf8.encode "SELECT n") ∧ s.transport.Writable ∧
      Marker.isErr err = true ∧ (∀ p ∈ answer, p.length ≤ Frame.maxPayload) ∧
      s.transport.arriving = chain 1 answer ∧
      outcome (execute (.text "SELECT n") s) =
        .error (.queryRefused ⟨1317, "70100", "interrupted"⟩) ∧
      (final (execute (.text "SELECT n") s)).transport.incoming = [5] := by
  intro err answer s
  have hcolumn : ColumnPayload ColumnPacket.initial.encode
      ⟨some "", some "", some "", FieldType.varString⟩ := ⟨rfl, _, rfl, rfl⟩
  have hrow : RowPayload 1 [1, 0x37] [some "7"] := ⟨rfl, rfl, rfl⟩
  have hbegun : Begun [[1], ColumnPacket.initial.encode, EofPacket.initial.encode, [1, 0x37]] :=
    .rows ⟨rfl, rfl, rfl, by decide⟩ rfl (.cons hcolumn .nil) rfl (.cons hrow .nil)
  have hsql : StatementFits (.text "SELECT n") (Utf8.encode "SELECT n") := ⟨rfl, by decide⟩
  have hw : s.transport.Writable := by
    rintro _ _ ⟨⟩
  have herr : Marker.isErr err = true := rfl
  have hfit : ∀ p ∈ answer, p.length ≤ Frame.maxPayload := by decide
  have hb : s.transport.arriving = chain 1 answer := by
    simp [Transport.arriving, Transport.reach, s, Session.start, Transport.ofPeer]
  have hb' : s.transport.arriving = chain 1 answer ++ [] := by rw [hb, List.append_nil]
  obtain ⟨hrefused, hmoves⟩ := execute_of_err hsql hw hbegun herr hfit hb'
  have hstate : ErrPacket.IsState "70100" := ⟨rfl, by simp⟩
  refine ⟨hsql, hw, herr, hfit, hb, ?_, ?_⟩
  · exact hrefused.reported 1317 "70100" "interrupted" (by decide) hstate (by decide) rfl
  · exact (List.append_cancel_left hmoves.incoming).symm

end SqlWire.Session
