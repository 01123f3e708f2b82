import Mathlib.Data.List.Forall2
import SqlWire.Proofs.Recognition
import SqlWire.Proofs.Steps
/-!
# The grammar of answers

`Answer` says which payloads answer a statement and what result they stand for. `execute` returns a
result just where the octets to come begin with an answer that stands for it.
-/
namespace SqlWire.Session

open Stateful

/-! ## One packet of an answer -/

/-- A packet is received only if it is the next in a row. -/
theorem receives_of_receive {s s' : Session} {p : Packet} (hs : s.Reliable)
    (h : receive s = .ok p s') : Receives s [p.payload] s' := by
  obtain ⟨ho, rfl⟩ := eq_ok_iff.1 h
  rcases Frame.frame_or_short s.transport.incoming with hshort | ⟨q, rest, hq, hb⟩
  · obtain ⟨got, wanted, _, he, -⟩ :=
      (starves_receiveAny hshort).bind s (⟨hs, rfl, rfl⟩ : s.At s.sequence _)
    cases he.symm.trans ho
  · obtain ⟨he, hm, hid⟩ := (takes_receive hq).ends s rest ⟨hs, rfl, hb⟩
    -- a packet out of order is taken too, but not given
    by_cases hseq : q.sequence = s.sequence
    · rw [if_pos hseq] at he
      cases he.symm.trans ho
      refine ⟨?_, by simpa using hq.payload_le, hid⟩
      simpa [chain, ← hseq] using hm
    · rw [if_neg hseq] at he
      cases he.symm.trans ho

/-- A payload of an answer is any that is no error. -/
theorem recognizes_receiveAnswer :
    Recognizes receiveAnswer fun ps payload => ps = [payload] ∧ Marker.isErr payload = false where
  sound hs h := by
    obtain ⟨p, s1, h1, h⟩ := bind_eq_ok.1 h
    have hr := receives_of_receive hs h1
    cases herr : Marker.isErr p.payload with
    | true =>
      simp only [herr, if_true] at h
      obtain ⟨r, s2, -, h⟩ := bind_eq_ok.1 h
      obtain ⟨u, s3, -, h⟩ := bind_eq_ok.1 h
      cases h
    | false =>
      simp only [herr] at h
      cases h
      exact ⟨[p.payload], hr, rfl, herr⟩
  complete := by
    rintro id _ payload hid hfit ⟨rfl, herr⟩
    have hp : Packet.Fits ⟨id, payload⟩ := ⟨hid.1, hid.2, by simpa using hfit⟩
    have h : Takes receive id _ _ [] _ := takes_receive hp
    rw [if_pos rfl] at h
    refine h.bind ?_
    simp only [herr]
    exact takes_pure payload

/-- The next payload of an answer decides how its rest is read. -/
theorem recognizes_next {α : Type} {f : Bytes → Exchange α} {G : Bytes → List Bytes → α → Prop}
    (hf : ∀ payload, Marker.isErr payload = false → Recognizes (f payload) (G payload)) :
    Recognizes (receiveAnswer >>= f) fun ps a =>
      ∃ payload qs, Marker.isErr payload = false ∧ G payload qs a ∧ ps = payload :: qs := by
  refine (recognizes_receiveAnswer.bind fun _ payload h => hf payload h.2).congr fun ps a => ?_
  constructor
  · rintro ⟨_, payload, qs, ⟨rfl, herr⟩, hG, rfl⟩
    exact ⟨payload, qs, herr, hG, rfl⟩
  · rintro ⟨payload, qs, herr, hG, rfl⟩
    exact ⟨[payload], payload, qs, ⟨rfl, herr⟩, hG, rfl⟩

theorem takes_next {α : Type} {f : Bytes → Exchange α} {id : Int} {payload : Bytes} {ps : List Bytes}
    {r : Except Failure α} {packets : List Bytes} (hid : IsId id)
    (hfit : payload.length ≤ Frame.maxPayload) (herr : Marker.isErr payload = false)
    (hf : Takes (f payload) (succId id) (chain (succId id) ps) r packets
      (idAfter (succId id) ps.length)) :
    Takes (receiveAnswer >>= f) id (chain id (payload :: ps)) r packets
      (idAfter id (payload :: ps).length) := by
  have h := (recognizes_receiveAnswer.complete hid (by simpa using hfit) ⟨rfl, herr⟩).bind hf
  rwa [chain, chain, List.append_nil] at h

theorem takes_parsed {α β : Type} {d : Decoder α} {payload : Bytes} {a : α} {f : α → Exchange β}
    {id id' : Int} {b : Bytes} {r : Except Failure β} {packets : List Bytes}
    (hread : d.read payload = .ok a) (hf : Takes (f a) id b r packets id') :
    Takes (parse d payload >>= f) id b r packets id' := by
  have h : Takes (parse d payload) id [] _ [] id := takes_parse d payload
  rw [parsed, hread] at h
  exact h.bind hf

/-- An error in the place of a payload ends the answer. -/
theorem takes_refusal {α : Type} {f : Bytes → Exchange α} {id : Int} {payload : Bytes}
    {e : ErrPacket String} (hid : IsId id) (hfit : payload.length ≤ Frame.maxPayload)
    (herr : Marker.isErr payload = true) (hread : ErrPacket.decode.read payload = .ok e) :
    Takes (receiveAnswer >>= f) id (chain id [payload])
      (.error (.queryRefused ⟨e.errorCode, e.sqlState, e.errorMessage⟩)) [] (succId id) := by
  have hp : Packet.Fits ⟨id, payload⟩ := ⟨hid.1, hid.2, hfit⟩
  have hreceive : Takes receive id _ _ [] _ := takes_receive hp
  rw [if_pos rfl] at hreceive
  refine (hreceive.bind ?_).bind_error
  simp only [herr]
  have hreport : Takes (parseReport payload) (succId id) [] _ [] (succId id) :=
    takes_parsed hread (takes_pure _)
  exact hreport.bind ((takes_note _ _).bind (takes_throw _))

/-! ## What an answer is -/

/-- A payload that defines a column; of its names the result keeps those that the statement gave. -/
def ColumnPayload (payload : Bytes) (c : Column) : Prop :=
  Marker.isErr payload = false ∧ ∃ p, ColumnPacket.decode.read payload = .ok p ∧
    c = ⟨p.schema, p.table, p.name, p.columnType⟩

/-- A payload that holds a row of `n` values. -/
def RowPayload (n : Nat) (payload : Bytes) (row : List Value) : Prop :=
  Marker.isErr payload = false ∧ Marker.isEof payload = false ∧
    (Row.decode n).read payload = .ok row

/-- Payloads of `n` columns, an end mark, rows, and an end mark, and the result they stand for. -/
inductive ResultSet (n : Nat) : List Bytes → QueryResult String → Prop where
  | intro {columnPayloads rowPayloads : List Bytes} {middle last : Bytes} {columns : List Column}
      {rows : List (List Value)}
      (length : columnPayloads.length = n)
      (definitions : List.Forall₂ ColumnPayload columnPayloads columns)
      (middleIsEof : Marker.isEof middle = true)
      (values : List.Forall₂ (RowPayload n) rowPayloads rows)
      (lastIsEof : Marker.isEof last = true) :
      ResultSet n (columnPayloads ++ middle :: (rowPayloads ++ [last])) ⟨columns, rows, 0, 0⟩

/-- Payloads that answer a statement, and the result they stand for. -/
inductive Answer : List Bytes → QueryResult String → Prop where
  /-- A report of success, alone. -/
  | change {payload : Bytes} {p : OkPacket String} (isOk : Marker.isOk payload = true)
      (read : OkPacket.decode.read payload = .ok p) :
      Answer [payload] (.ofChange p.affectedRows p.lastInsertId)
  /-- The number of columns, and what it announces. -/
  | resultSet {count : Bytes} {n : Nat} {rest : List Bytes} {r : QueryResult String}
      (notOk : Marker.isOk count = false) (notErr : Marker.isErr count = false)
      (read : Decoder.lengthInt.read count = .ok (some n)) (positive : 1 ≤ n)
      (announced : ResultSet n rest r) :
      Answer (count :: rest) r

/-! ## Columns -/

theorem recognizes_receiveColumnsOnto (n : Nat) (done : List Column) :
    Recognizes (receiveColumnsOnto done n) fun ps columns =>
      ps.length = n ∧ ∃ cs, List.Forall₂ ColumnPayload ps cs ∧ columns = done.reverse ++ cs := by
  induction n generalizing done with
  | zero =>
    refine (recognizes_pure done.reverse).congr fun ps columns => ?_
    constructor
    · rintro ⟨rfl, rfl⟩
      exact ⟨rfl, [], .nil, by simp⟩
    · rintro ⟨hlen, cs, h, rfl⟩
      cases List.length_eq_zero_iff.1 hlen
      cases h
      simp
  | succ n ih =>
    refine (recognizes_next fun payload _ =>
      (recognizes_parse ColumnPacket.decode payload).bind fun _ p _ =>
        ih (columnOf p :: done)).congr fun ps columns => ?_
    constructor
    · rintro ⟨payload, _, herr, ⟨_, p, qs, ⟨rfl, hread⟩, ⟨hlen, cs, h, rfl⟩, rfl⟩, rfl⟩
      exact ⟨congrArg (· + 1) hlen, columnOf p :: cs, .cons ⟨herr, p, hread, rfl⟩ h, by simp⟩
    · rintro ⟨hlen, cs, h, rfl⟩
      cases h with
      | nil => cases hlen
      | @cons payload _ qs cs hhead h =>
        obtain ⟨herr, p, hread, rfl⟩ := hhead
        exact ⟨payload, qs, herr, ⟨[], p, qs, ⟨rfl, hread⟩,
          ⟨Nat.succ.inj hlen, cs, h, by simp [columnOf]⟩, rfl⟩, rfl⟩

/-! ## End marks -/

/-- A payload is told by its first octet. -/
theorem isErr_of_leads {marker : UInt8} {payload : Bytes} (hne : marker ≠ Marker.err)
    (h : Marker.leads marker payload = true) : Marker.isErr payload = false := by
  simp only [Marker.leads, beq_iff_eq] at h
  simp [Marker.isErr, Marker.leads, h, hne]

theorem isErr_of_isEof {payload : Bytes} (h : Marker.isEof payload = true) :
    Marker.isErr payload = false :=
  isErr_of_leads (by decide) (Bool.and_eq_true_iff.1 h).1

theorem recognizes_receiveColumnsEnd (n : Nat) :
    Recognizes (receiveColumnsEnd n) fun ps _ =>
      ∃ payload, ps = [payload] ∧ Marker.isEof payload = true := by
  have hcheck (payload : Bytes) :
      Recognizes (if Marker.isEof payload then pure () else throw (.noEof n payload) : Exchange Unit)
        fun ps _ => ps = [] ∧ Marker.isEof payload = true := by
    split
    · next h => exact (recognizes_pure ()).congr (by simp [h])
    · next h => exact (recognizes_throw _).congr (by simp [h])
  refine (recognizes_next fun payload _ => hcheck payload).congr fun ps _ => ?_
  constructor
  · rintro ⟨payload, _, -, ⟨rfl, h⟩, rfl⟩
    exact ⟨payload, rfl, h⟩
  · rintro ⟨payload, rfl, h⟩
    exact ⟨payload, [], isErr_of_isEof h, ⟨rfl, h⟩, rfl⟩

/-- Every end mark can be read: a short one leaves out numbers that count as zero. -/
theorem exists_read_eof {payload : Bytes} (h : Marker.isEof payload = true) :
    ∃ e, EofPacket.decode.read payload = .ok e := by
  match payload with
  | [] => cases h
  | [_] | [_, _] | [_, _, _] | [_, _, _, _] => exact ⟨.initial, rfl⟩
  | [_, a, b, c, d] => exact ⟨⟨Bytes.value [a, b], Bytes.value [c, d]⟩, rfl⟩
  | _ :: _ :: _ :: _ :: _ :: _ :: _ => simp [Marker.isEof, Marker.eofMaxLength] at h

/-! ## Rows -/

/-- Payloads of rows of `n` values behind those that are done, and of the mark that ends them. -/
def RowsPayloads (n : Nat) (done : List (List Value)) (ps : List Bytes)
    (r : List (List Value) × EofPacket) : Prop :=
  ∃ rowPayloads rows last, List.Forall₂ (RowPayload n) rowPayloads rows ∧ Marker.isEof last = true ∧
    EofPacket.decode.read last = .ok r.2 ∧ r.1 = done.reverse ++ rows ∧ ps = rowPayloads ++ [last]

theorem receives_of_receiveRowsOnto {n : Nat} {done : List (List Value)} {s s' : Session}
    {r : List (List Value) × EofPacket} (hs : s.Reliable) (h : receiveRowsOnto n done s = .ok r s') :
    ∃ ps, Receives s ps s' ∧ RowsPayloads n done ps r := by
  -- along the recursion, with the packets of each step in front of those of the rest
  fun_induction receiveRowsOnto n done s with
  | case1 done s e s1 h1 => cases h
  | case2 done s payload s1 h1 heof =>
    obtain ⟨_, hr1, rfl, -⟩ := recognizes_receiveAnswer.sound hs h1
    obtain ⟨eof, s2, h2, h⟩ := bind_eq_ok.1 h
    cases h
    obtain ⟨_, hr2, rfl, hread⟩ :=
      (recognizes_parse EofPacket.decode payload).sound (hr1.moves.reliable hs) h2
    exact ⟨[payload] ++ [], hr1.trans hr2, [], [], payload, .nil, heof, hread, by simp, rfl⟩
  | case3 done s payload s1 h1 heof e hread => cases h
  | case4 done s payload s1 h1 heof row hread ih =>
    obtain ⟨_, hr1, rfl, herr⟩ := recognizes_receiveAnswer.sound hs h1
    obtain ⟨_, hr2, rowPayloads, rows, last, hrows, hlast, hr, hdone, rfl⟩ :=
      ih (hr1.moves.reliable hs) h
    have hrow : RowPayload n payload row := ⟨herr, by simpa using heof, hread⟩
    exact ⟨[payload] ++ _, hr1.trans hr2, payload :: rowPayloads, row :: rows, last,
      .cons hrow hrows, hlast, hr, by simp [hdone], rfl⟩

theorem takes_receiveRowsOnto {n : Nat} {rowPayloads : List Bytes} {rows : List (List Value)}
    {last : Bytes} {eof : EofPacket} (hrows : List.Forall₂ (RowPayload n) rowPayloads rows)
    (hlast : Marker.isEof last = true) (hread : EofPacket.decode.read last = .ok eof)
    (done : List (List Value)) {id : Int} (hid : IsId id)
    (hfit : ∀ payload ∈ rowPayloads ++ [last], payload.length ≤ Frame.maxPayload) :
    Takes (receiveRowsOnto n done) id (chain id (rowPayloads ++ [last]))
      (.ok (done.reverse ++ rows, eof)) [] (idAfter id (rowPayloads ++ [last]).length) := by
  -- on the rows to come, whatever rows are done and whatever id is next
  induction hrows generalizing done id with
  | nil =>
    rw [receiveRowsOnto_eq, List.append_nil]
    refine takes_next hid (hfit last (by simp)) (isErr_of_isEof hlast) ?_
    rw [if_pos hlast]
    exact takes_parsed hread (takes_pure _)
  | @cons payload row rowPayloads rows hrow _ ih =>
    obtain ⟨herr, heof, hrow⟩ := hrow
    rw [receiveRowsOnto_eq]
    refine takes_next hid (hfit payload (by simp)) herr ?_
    rw [if_neg (by simp [heof])]
    have h := ih (row :: done) (isId_succId id) fun p hp => hfit p (List.mem_cons_of_mem _ hp)
    rw [List.reverse_cons, List.append_assoc] at h
    exact takes_parsed hrow h

theorem recognizes_receiveRows (n : Nat) : Recognizes (receiveRows n) (RowsPayloads n []) where
  sound hs h := receives_of_receiveRowsOnto hs h
  complete := by
    rintro id _ ⟨_, eof⟩ hid hfit ⟨rowPayloads, rows, last, hrows, hlast, hread, rfl, rfl⟩
    exact takes_receiveRowsOnto hrows hlast hread [] hid hfit

/-! ## The whole answer -/

theorem recognizes_receiveResultSet (n : Nat) : Recognizes (receiveResultSet n) (ResultSet n) := by
  refine ((recognizes_receiveColumnsOnto n []).bind fun _ columns _ =>
    (recognizes_receiveColumnsEnd n).bind fun _ _ _ =>
      (recognizes_receiveRows n).map fun r =>
        recognizes_note_pure _ _ (⟨columns, r.1, 0, 0⟩ : QueryResult String)).congr fun ps r => ?_
  constructor
  · rintro ⟨_, _, _, ⟨hlen, columns, hcolumns, rfl⟩, ⟨_, _, _, ⟨middle, rfl, hmiddle⟩,
      ⟨⟨_, eof⟩, ⟨_, rows, last, hrows, hlast, -, rfl, rfl⟩, rfl⟩, rfl⟩, rfl⟩
    exact .intro hlen hcolumns hmiddle hrows hlast
  · rintro ⟨hlen, hcolumns, hmiddle, hrows, hlast⟩
    obtain ⟨eof, hread⟩ := exists_read_eof hlast
    exact ⟨_, _, _, ⟨hlen, _, hcolumns, rfl⟩, ⟨_, (), _, ⟨_, rfl, hmiddle⟩,
      ⟨(_, eof), ⟨_, _, _, hrows, hlast, hread, rfl, rfl⟩, rfl⟩, rfl⟩, rfl⟩

theorem recognizes_receiveRest {payload : Bytes} (herr : Marker.isErr payload = false) :
    Recognizes (receiveRest payload) fun ps r => Answer (payload :: ps) r := by
  unfold receiveRest
  cases hok : Marker.isOk payload with
  | true =>
    refine ((recognizes_parse OkPacket.decode payload).map fun p =>
      recognizes_note_pure _ _ (.ofChange p.affectedRows p.lastInsertId : QueryResult String)).congr
      fun ps r => ?_
    constructor
    · rintro ⟨p, ⟨rfl, hread⟩, rfl⟩
      exact .change hok hread
    · intro h
      cases h with
      | change _ hread => exact ⟨_, ⟨rfl, hread⟩, rfl⟩
      | resultSet notOk => cases hok.symm.trans notOk
  | false =>
    refine ((recognizes_parse Decoder.lengthInt payload).bind
      (H := fun v ps r => ∃ n, v = some n ∧ 1 ≤ n ∧ ResultSet n ps r) fun _ v _ => ?_).congr
      fun ps r => ?_
    · -- no number, no columns, and some
      rcases v with _ | _ | n
      · exact (recognizes_throw _).congr (by simp)
      · exact (recognizes_throw _).congr (by simp)
      · exact (recognizes_receiveResultSet (n + 1)).congr (by simp)
    constructor
    · rintro ⟨_, _, _, ⟨rfl, hread⟩, ⟨n, rfl, hpos, hset⟩, rfl⟩
      exact .resultSet hok herr hread hpos hset
    · intro h
      cases h with
      | change isOk => cases hok.symm.trans isOk
      | @resultSet _ n _ _ _ _ hread hpos hset =>
        exact ⟨[], _, ps, ⟨rfl, hread⟩, ⟨n, rfl, hpos, hset⟩, rfl⟩

theorem recognizes_answer : Recognizes (receiveAnswer >>= receiveRest) Answer := by
  refine (recognizes_next fun _ h => recognizes_receiveRest h).congr fun ps r => ?_
  constructor
  · rintro ⟨payload, qs, -, h, rfl⟩
    exact h
  · intro h
    cases h with
    | change hok hread => exact ⟨_, [], isErr_of_leads (by decide) hok, .change hok hread, rfl⟩
    | resultSet hok herr hread hpos hset =>
      exact ⟨_, _, herr, .resultSet hok herr hread hpos hset, rfl⟩

/-! ## Statements -/

/-- What goes before the answer. -/
def request (sql : Datum) : Exchange Unit := do
  reset
  let _ ← send (.statement sql)
  note Level.debug s!"query: {sql.shown}"

theorem execute_eq (sql : Datum) :
    execute sql = request sql >>= fun _ => receiveAnswer >>= receiveRest := by
  simp only [execute, request, bind_assoc]

/-- The one packet that is sent for a statement. -/
def requestFrame (query : Bytes) : Bytes := (Packet.mk 0 (statementPayload query)).frame

variable {sql : Datum} {query : Bytes}

theorem takes_request {id : Int} (hsql : StatementFits sql query) :
    Takes (request sql) id [] (.ok ()) [requestFrame query] 1 :=
  takes_reset.bind ((takes_send hsql.payload_eq hsql.length_le).bind (takes_note _ _))

/-- An answer is taken, whatever comes behind it. -/
theorem takes_execute {id : Int} {payloads : List Bytes} {r : QueryResult String}
    (hsql : StatementFits sql query) (hanswer : Answer payloads r)
    (hfit : ∀ payload ∈ payloads, payload.length ≤ Frame.maxPayload) :
    Takes (execute sql) id (chain 1 payloads) (.ok r) [requestFrame query] (idAfter 1 payloads.length) := by
  rw [execute_eq]
  exact (takes_request hsql).bind (recognizes_answer.complete ⟨by decide, by decide⟩ hfit hanswer)

theorem answer_of_execute {s s' : Session} {r : QueryResult String} (hs : s.Reliable)
    (hsql : StatementFits sql query) (h : execute sql s = .ok r s') :
    ∃ payloads, Answer payloads r ∧ (∀ payload ∈ payloads, payload.length ≤ Frame.maxPayload) ∧
      Moves s (chain 1 payloads) [requestFrame query] s' := by
  rw [execute_eq] at h
  obtain ⟨_, s1, h1, h2⟩ := bind_eq_ok.1 h
  obtain ⟨-, hm, hid⟩ := (takes_request hsql).ends s s.transport.incoming ⟨hs, rfl, rfl⟩
  rw [h1, final_ok] at hm hid
  obtain ⟨payloads, hr, hanswer⟩ := recognizes_answer.sound (hm.reliable hs) h2
  have hmoves := hm.trans hr.moves
  rw [hid] at hmoves
  exact ⟨payloads, hanswer, hr.fits, hmoves⟩

/-- A column of numbers with names of its own. -/
def namedColumn : ColumnPacket String :=
  { ColumnPacket.initial with schema := some "db", table := some "t", name := some "n", columnType := 3 }

end SqlWire.Session
