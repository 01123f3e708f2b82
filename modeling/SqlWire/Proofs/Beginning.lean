import SqlWire.Proofs.Course
import SqlWire.Proofs.Grammar
/-!
# Beginnings of an answer

An answer comes payload by payload. `GoesOn` says what is left to do behind some of them, and
`Begun.awaits` that behind every beginning of an answer the next payload is received in the same way.
-/
namespace SqlWire.Session

open Stateful

variable {α β : Type} {x y z : Exchange α} {s : Session} {ps qs : List Bytes} {payload rest : Bytes}

/-! ## What a run goes on as -/

/-- Where packets with these payloads arrive, `x` receives them and goes on as `y`. -/
def GoesOn (x : Exchange α) (payloads : List Bytes) (y : Exchange α) : Prop :=
  ∀ (s : Session) (rest : Bytes), IsId s.sequence →
    (∀ payload ∈ payloads, payload.length ≤ Frame.maxPayload) →
    s.transport.arriving = chain s.sequence payloads ++ rest →
    ∃ s', x s = y s' ∧ Moves s (chain s.sequence payloads) [] s' ∧
      s'.sequence = idAfter s.sequence payloads.length

theorem GoesOn.refl (x : Exchange α) : GoesOn x [] x := by
  intro s rest _ _ _
  exact ⟨s, rfl, .of_transport_eq rfl, rfl⟩

theorem GoesOn.trans (hx : GoesOn x ps y) (hy : GoesOn y qs z) : GoesOn x (ps ++ qs) z := by
  intro s rest hid hfit hb
  rw [chain_append, List.append_assoc] at hb
  obtain ⟨s1, h1, hm1, hid1⟩ := hx s _ hid (fun p hp => hfit p (List.mem_append_left qs hp)) hb
  have hb1 := hm1.arriving_eq hb
  rw [← hid1] at hb1
  obtain ⟨s2, h2, hm2, hid2⟩ := hy s1 rest (hid1 ▸ isId_idAfter hid ps.length)
    (fun p hp => hfit p (List.mem_append_right ps hp)) hb1
  refine ⟨s2, h1.trans h2, ?_, ?_⟩
  · rw [chain_append, ← hid1]
    exact hm1.trans hm2
  · rw [hid2, hid1, List.length_append, idAfter_add]

/-- What comes behind does not matter. -/
theorem GoesOn.bind (hx : GoesOn x ps y) (f : α → Exchange β) : GoesOn (x >>= f) ps (y >>= f) := by
  intro s rest hid hfit hb
  obtain ⟨s', h, hm, hid'⟩ := hx s rest hid hfit hb
  refine ⟨s', ?_, hm, hid'⟩
  show EStateM.bind x f s = EStateM.bind y f s'
  unfold EStateM.bind
  rw [h]

theorem GoesOn.course {r : Except Failure α} {b : Bytes} {packets : List Bytes} {id : Int}
    (hx : GoesOn x ps y) (hid : IsId s.sequence)
    (hfit : ∀ payload ∈ ps, payload.length ≤ Frame.maxPayload)
    (hb : s.transport.arriving = chain s.sequence ps ++ rest)
    (hy : ∀ s' : Session, s'.sequence = idAfter s.sequence ps.length → s'.transport.arriving = rest →
      Course y s' r b packets id) :
    Course x s r (chain s.sequence ps ++ b) packets id := by
  obtain ⟨s', h, hm, hid'⟩ := hx s rest hid hfit hb
  have hcourse := hy s' hid' (hm.arriving_eq hb)
  constructor
  · rw [h]
    exact hcourse.outcome_eq
  · rw [h]
    exact hm.trans hcourse.moves
  · rw [h]
    exact hcourse.sequence

/-! ## Receiving a payload of an answer -/

/-- The packet with this payload comes next. -/
theorem course_receive_payload (hid : IsId s.sequence) (hfit : payload.length ≤ Frame.maxPayload)
    (hb : s.transport.arriving = chain s.sequence [payload] ++ rest) :
    Course receive s (.ok ⟨s.sequence, payload⟩) (chain s.sequence [payload]) [] (succId s.sequence) := by
  have hp : Packet.Fits ⟨s.sequence, payload⟩ := ⟨hid.1, hid.2, hfit⟩
  rw [chain, chain, List.append_nil] at hb ⊢
  have h := course_receive hp hb
  rwa [if_pos rfl] at h

theorem course_receiveAnswer (hid : IsId s.sequence) (hfit : payload.length ≤ Frame.maxPayload)
    (hb : s.transport.arriving = chain s.sequence [payload] ++ rest)
    (herr : Marker.isErr payload = false) :
    Course receiveAnswer s (.ok payload) (chain s.sequence [payload]) [] (succId s.sequence) := by
  refine (course_receive_payload hid hfit hb).bind_silent fun s1 hid1 => ?_
  simp only [herr]
  rw [← hid1]
  exact course_pure payload

theorem goesOn_next (herr : Marker.isErr payload = false) (f : Bytes → Exchange α) :
    GoesOn (receiveAnswer >>= f) [payload] (f payload) := by
  intro s rest hid hfit hb
  have h := course_receiveAnswer hid (hfit payload List.mem_cons_self) hb herr
  exact ⟨_, bind_of_ok h.outcome_eq, h.moves, h.sequence⟩

theorem parse_bind {d : Decoder α} {a : α} (hread : d.read payload = .ok a) (f : α → Exchange β) :
    (parse d payload >>= f) = f a := by
  unfold parse
  rw [hread]
  exact pure_bind a f

/-! ## Columns and rows -/

variable {n : Nat} {columnPayloads rowPayloads : List Bytes} {columns : List Column}
  {rows : List (List Value)} {count middle : Bytes}

theorem goesOn_columns (h : List.Forall₂ ColumnPayload columnPayloads columns) (done : List Column)
    (n : Nat) : GoesOn (receiveColumnsOnto done (columnPayloads.length + n)) columnPayloads
      (receiveColumnsOnto (columns.reverse ++ done) n) := by
  -- on the definitions to come, each of which is put before those that are done
  induction h generalizing done with
  | nil =>
    rw [List.length_nil, Nat.zero_add]
    exact .refl _
  | @cons payload c columnPayloads columns hhead _ ih =>
    obtain ⟨herr, p, hread, rfl⟩ := hhead
    rw [List.length_cons, Nat.succ_add, List.reverse_cons, List.append_assoc]
    have hnext := goesOn_next herr fun payload => parse ColumnPacket.decode payload >>= fun p =>
      receiveColumnsOnto (columnOf p :: done) (columnPayloads.length + n)
    rw [parse_bind hread] at hnext
    exact hnext.trans (ih (columnOf p :: done))

theorem goesOn_columnsEnd (hmiddle : Marker.isEof middle = true) (n : Nat) :
    GoesOn (receiveColumnsEnd n) [middle] (pure ()) := by
  have h := goesOn_next (isErr_of_isEof hmiddle) fun payload =>
    (if Marker.isEof payload then pure () else throw (.noEof n payload) : Exchange Unit)
  rwa [if_pos hmiddle] at h

theorem goesOn_rows (h : List.Forall₂ (RowPayload n) rowPayloads rows) (done : List (List Value)) :
    GoesOn (receiveRowsOnto n done) rowPayloads (receiveRowsOnto n (rows.reverse ++ done)) := by
  -- on the rows to come, none of which is taken for the end mark
  induction h generalizing done with
  | nil => exact .refl _
  | @cons payload row rowPayloads rows hrow _ ih =>
    obtain ⟨herr, heof, hread⟩ := hrow
    rw [List.reverse_cons, List.append_assoc, receiveRowsOnto_eq]
    have hnext := goesOn_next herr fun payload =>
      if Marker.isEof payload then parse EofPacket.decode payload >>= fun eof => pure (done.reverse, eof)
      else parse (Row.decode n) payload >>= fun row => receiveRowsOnto n (row :: done)
    rw [if_neg (by simp [heof]), parse_bind hread] at hnext
    exact hnext.trans (ih (row :: done))

/-! ## Beginnings of an answer -/

/-- A payload that announces so many columns. -/
structure Announces (count : Bytes) (n : Nat) : Prop where
  notOk : Marker.isOk count = false
  notErr : Marker.isErr count = false
  read : Decoder.lengthInt.read count = .ok (some n)
  positive : 1 ≤ n

/-- Payloads with which an answer may begin before it is whole. -/
inductive Begun : List Bytes → Prop where
  | nothing : Begun []
  | columns {count : Bytes} {n : Nat} {columnPayloads : List Bytes} {columns : List Column}
      (announced : Announces count n) (few : columnPayloads.length ≤ n)
      (definitions : List.Forall₂ ColumnPayload columnPayloads columns) :
      Begun (count :: columnPayloads)
  | rows {count middle : Bytes} {n : Nat} {columnPayloads rowPayloads : List Bytes}
      {columns : List Column} {rows : List (List Value)}
      (announced : Announces count n) (length : columnPayloads.length = n)
      (definitions : List.Forall₂ ColumnPayload columnPayloads columns)
      (middleIsEof : Marker.isEof middle = true)
      (values : List.Forall₂ (RowPayload n) rowPayloads rows) :
      Begun (count :: (columnPayloads ++ middle :: rowPayloads))

theorem exists_forall₂_of_prefix {R : Bytes → β → Prop} {bs : List β} (h : List.Forall₂ R ps bs)
    (hqs : qs <+: ps) : ∃ bs', List.Forall₂ R qs bs' := by
  rw [List.prefix_iff_eq_take.1 hqs]
  exact ⟨_, List.forall₂_take _ h⟩

theorem ResultSet.begun {r : QueryResult String} (hcount : Announces count n) (h : ResultSet n ps r)
    (hqs : qs <+: ps) (hne : qs ≠ ps) : Begun (count :: qs) := by
  obtain ⟨length, definitions, hmiddle, values, -⟩ := h
  rename_i columnPayloads rowPayloads middle last columns rows
  -- the beginning ends in the definitions or in the rows
  rcases List.prefix_or_prefix_of_prefix hqs (List.prefix_append columnPayloads _) with hpre | ⟨t, rfl⟩
  · obtain ⟨columns', definitions'⟩ := exists_forall₂_of_prefix definitions hpre
    exact .columns hcount (length ▸ hpre.length_le) definitions'
  · have ht := (List.prefix_append_right_inj columnPayloads).1 hqs
    cases t with
    | nil =>
      rw [List.append_nil]
      exact .columns hcount (Nat.le_of_eq length) definitions
    | cons m t =>
      obtain ⟨rfl, htail⟩ := List.cons_prefix_cons.1 ht
      rcases List.prefix_concat_iff.1 htail with rfl | hpre
      · exact absurd rfl hne
      · obtain ⟨rows', values'⟩ := exists_forall₂_of_prefix values hpre
        exact .rows hcount length definitions hmiddle values'

/-- Whatever a whole answer begins with is a beginning, unless it is all of it. -/
theorem Answer.begun {r : QueryResult String} (h : Answer ps r) (hqs : qs <+: ps) (hne : qs ≠ ps) :
    Begun qs := by
  cases qs with
  | nil => exact .nothing
  | cons count qs =>
    cases h with
    | change =>
      obtain ⟨rfl, hnil⟩ := List.cons_prefix_cons.1 hqs
      rw [List.prefix_nil] at hnil
      exact absurd (by rw [hnil]) hne
    | resultSet notOk notErr read positive announced =>
      obtain ⟨rfl, hrest⟩ := List.cons_prefix_cons.1 hqs
      exact announced.begun ⟨notOk, notErr, read, positive⟩ hrest fun he => hne (by rw [he])

theorem receiveRest_of_announces (h : Announces count n) : receiveRest count = receiveResultSet n := by
  obtain ⟨m, rfl⟩ := Nat.exists_eq_add_of_le' h.positive
  unfold receiveRest
  rw [if_neg (by simp [h.notOk]), parse_bind h.read]
  rfl

theorem goesOn_count (h : Announces count n) :
    GoesOn (receiveAnswer >>= receiveRest) [count] (receiveResultSet n) := by
  have hnext := goesOn_next h.notErr receiveRest
  rwa [receiveRest_of_announces h] at hnext

/-- The first thing that is done is to receive a payload. -/
def Awaits (x : Exchange α) : Prop := ∃ f, x = receiveAnswer >>= f

theorem Awaits.bind (hx : Awaits x) (f : α → Exchange β) : Awaits (x >>= f) := by
  obtain ⟨g, rfl⟩ := hx
  exact ⟨_, bind_assoc _ _ _⟩

theorem awaits_receiveRowsOnto (n : Nat) (done : List (List Value)) : Awaits (receiveRowsOnto n done) :=
  ⟨_, receiveRowsOnto_eq n done⟩

theorem awaits_receiveColumnsEnd (n : Nat) : Awaits (receiveColumnsEnd n) := ⟨_, rfl⟩

theorem awaits_receiveColumnsOnto (done : List Column) (n : Nat) :
    Awaits (receiveColumnsOnto done (n + 1)) := ⟨_, rfl⟩

theorem receiveResultSet_eq (n : Nat) :
    ∃ f : List Column → List (List Value) × EofPacket → Exchange (QueryResult String),
      receiveResultSet n = receiveColumnsOnto [] n >>= fun columns =>
        receiveColumnsEnd n >>= fun _ => receiveRowsOnto n [] >>= f columns := ⟨_, rfl⟩

/-- Behind the columns, and however many rows, another row or the end mark is received. -/
theorem goesOn_begunRows (announced : Announces count n) (length : columnPayloads.length = n)
    (definitions : List.Forall₂ ColumnPayload columnPayloads columns)
    (middleIsEof : Marker.isEof middle = true)
    (values : List.Forall₂ (RowPayload n) rowPayloads rows) :
    ∃ (done : List (List Value)) (f : List (List Value) × EofPacket → Exchange (QueryResult String)),
      GoesOn (receiveAnswer >>= receiveRest) (count :: (columnPayloads ++ middle :: rowPayloads))
        (receiveRowsOnto n done >>= f) := by
  obtain ⟨f, hset⟩ := receiveResultSet_eq n
  have hcount := goesOn_count announced
  rw [hset] at hcount
  have hcolumns := goesOn_columns definitions [] 0
  rw [Nat.add_zero, length] at hcolumns
  have hend := (goesOn_columnsEnd middleIsEof n).bind fun _ =>
    receiveRowsOnto n [] >>= f (columns.reverse ++ []).reverse
  rw [pure_bind] at hend
  have hbehind := hcolumns.bind fun columns => receiveColumnsEnd n >>= fun _ =>
    receiveRowsOnto n [] >>= f columns
  simp only [receiveColumnsOnto, pure_bind] at hbehind
  exact ⟨_, _, hcount.trans (hbehind.trans (hend.trans ((goesOn_rows values []).bind _)))⟩

/-- Behind every beginning of an answer the next payload is received. -/
theorem Begun.awaits (h : Begun ps) :
    ∃ y, GoesOn (receiveAnswer >>= receiveRest) ps y ∧ Awaits y := by
  cases h with
  | nothing => exact ⟨_, .refl _, receiveRest, rfl⟩
  | @columns count n columnPayloads columns announced few definitions =>
    obtain ⟨f, hset⟩ := receiveResultSet_eq n
    have hcount := goesOn_count announced
    rw [hset] at hcount
    have hcolumns := goesOn_columns definitions [] (n - columnPayloads.length)
    rw [Nat.add_sub_cancel' few] at hcolumns
    refine ⟨_, hcount.trans (hcolumns.bind _), ?_⟩
    -- another definition comes, or the end mark
    cases n - columnPayloads.length with
    | zero =>
      simp only [receiveColumnsOnto, pure_bind]
      exact (awaits_receiveColumnsEnd n).bind _
    | succ m => exact (awaits_receiveColumnsOnto _ m).bind _
  | rows announced length definitions middleIsEof values =>
    obtain ⟨done, f, hgoes⟩ := goesOn_begunRows announced length definitions middleIsEof values
    exact ⟨_, hgoes, (awaits_receiveRowsOnto _ done).bind f⟩

end SqlWire.Session
