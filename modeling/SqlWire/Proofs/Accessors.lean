import SqlWire.Proofs.ResultSet
/-!
# Looking values up in a result

A result that a statement gives has a value in every row for every column, whatever the server sent
(`shaped_of_execute`). In such a result every look-up ends in the value that is asked for or in the
number or label that there is not; none finds a row too short.
-/
namespace SqlWire

open Stateful

namespace QueryResult

variable {α β : Type} {r : QueryResult α} {label : String} {i : Int}

/-! ## Numbers -/

theorem entry_succ (xs : List β) (n : Nat) : entry? xs (n + 1) = xs[n]? := by
  unfold entry?
  rw [if_pos (by omega)]
  congr 1
  omega

/-- One of the numbers of `n` entries, counted from 1. -/
def InRange (i : Int) (n : Nat) : Prop := 1 ≤ i ∧ i ≤ n

theorem inRange_iff {n : Nat} : InRange i n ↔ ∃ k : Nat, i = k + 1 ∧ k < n := by
  unfold InRange
  constructor
  · rintro ⟨hpos, hle⟩
    exact ⟨(i - 1).toNat, by omega, by omega⟩
  · rintro ⟨k, rfl, hk⟩
    omega

theorem entry_eq_none_iff {xs : List β} : entry? xs i = none ↔ ¬ InRange i xs.length := by
  constructor
  · intro h hrange
    obtain ⟨k, rfl, hk⟩ := inRange_iff.1 hrange
    rw [entry_succ, List.getElem?_eq_getElem hk] at h
    cases h
  · intro h
    unfold entry?
    unfold InRange at h
    split
    · rw [List.getElem?_eq_none_iff]
      omega
    · rfl

theorem column_succ {n : Nat} (h : n < r.columns.length) : r.column (n + 1) = .ok r.columns[n] := by
  rw [column, entry_succ, List.getElem?_eq_getElem h]

theorem column_of_not_inRange (h : ¬ InRange i r.columnCount) :
    r.column i = .error (.columnRange i r.columnCount) := by
  rw [column, entry_eq_none_iff.2 h]

/-! ## Labels -/

/-- The column has a name, and the label in small letters is that name in small letters. -/
def Named (label : String) (c : Column) : Prop :=
  ∃ name, c.name = some name ∧ Text.lower name.toList = Text.lower label.toList

theorem matchesLabel_iff {c : Column} : matchesLabel label c = true ↔ Named label c := by
  unfold matchesLabel Named
  cases c.name with
  | none => simp
  | some name => simp

/-- The label is that of the first column which it names. -/
theorem columnIndex_eq_ok_iff : r.columnIndex label = .ok i ↔
    ∃ (n : Nat) (h : n < r.columns.length), i = n + 1 ∧ Named label r.columns[n] ∧
      ∀ (m : Nat) (hm : m < n), ¬ Named label r.columns[m] := by
  have hfind (n : Nat) : r.columns.findIdx? (matchesLabel label) = some n ↔
      ∃ h : n < r.columns.length, Named label r.columns[n] ∧
        ∀ (m : Nat) (hm : m < n), ¬ Named label r.columns[m] := by
    rw [List.findIdx?_eq_some_iff_getElem]
    simp only [matchesLabel_iff]
  unfold columnIndex
  cases h : r.columns.findIdx? (matchesLabel label) with
  | none =>
    refine iff_of_false (by rintro ⟨⟩) ?_
    rintro ⟨n, hn, -, hfirst⟩
    cases h.symm.trans ((hfind n).2 ⟨hn, hfirst⟩)
  | some k =>
    constructor
    · rintro ⟨⟩
      obtain ⟨hk, hfirst⟩ := (hfind k).1 h
      exact ⟨k, hk, rfl, hfirst⟩
    · rintro ⟨n, hn, rfl, hfirst⟩
      cases h.symm.trans ((hfind n).2 ⟨hn, hfirst⟩)
      rfl

theorem columnIndex_eq_error_iff : r.columnIndex label = .error (.noColumn label) ↔
    ∀ c ∈ r.columns, ¬ Named label c := by
  have hnone : r.columns.findIdx? (matchesLabel label) = none ↔ ∀ c ∈ r.columns, ¬ Named label c := by
    simp only [List.findIdx?_eq_none_iff, ← matchesLabel_iff, Bool.not_eq_true]
  rw [← hnone]
  unfold columnIndex
  cases r.columns.findIdx? (matchesLabel label) with
  | none => simp
  | some k => simp

theorem columnIndex_cases (r : QueryResult α) (label : String) :
    (∃ i, r.columnIndex label = .ok i) ∨ r.columnIndex label = .error (.noColumn label) := by
  unfold columnIndex
  split
  · exact .inl ⟨_, rfl⟩
  · exact .inr rfl

/-- A column is found under its own name, or one before it is. -/
theorem columnIndex_of_columnName {name : String} (h : r.columnName i = .ok (some name)) :
    ∃ j, r.columnIndex name = .ok j ∧ j ≤ i := by
  by_cases hi : InRange i r.columnCount
  · obtain ⟨n, rfl, hn⟩ := inRange_iff.1 hi
    rw [columnName, column_succ hn] at h
    have hnamed : Named name r.columns[n] := ⟨name, Except.ok.inj h, rfl⟩
    rcases columnIndex_cases r name with ⟨j, hj⟩ | hnone
    · obtain ⟨k, hk, rfl, -, hfirst⟩ := columnIndex_eq_ok_iff.1 hj
      have hle : ¬ n < k := fun hlt => hfirst n hlt hnamed
      exact ⟨_, hj, by omega⟩
    · exact absurd hnamed (columnIndex_eq_error_iff.1 hnone _ (List.getElem_mem hn))
  · rw [columnName, column_of_not_inRange hi] at h
    cases h

/-! ## Values -/

theorem value_of_row_not_inRange {row : Int} (h : ¬ InRange row r.rowCount) (key : ColumnKey) :
    r.value row key = .error (.rowRange row r.rowCount) := by
  rw [value, entry_eq_none_iff.2 h]

/-- Once the row is there, a label stands for its number. -/
theorem value_label {row : Int} (h : InRange row r.rowCount) (label : String) :
    r.value row (.label label) = (r.columnIndex label).bind fun i => r.value row (.number i) := by
  obtain ⟨n, rfl, hn⟩ := inRange_iff.1 h
  unfold value
  rw [entry_succ, List.getElem?_eq_getElem hn]
  show (r.columnIndex label).bind _ = _
  cases r.columnIndex label <;> rfl

theorem value_of_column_not_inRange {row : Int} (hrow : InRange row r.rowCount)
    (h : ¬ InRange i r.columnCount) :
    r.value row (.number i) = .error (.columnRange i r.columnCount) := by
  obtain ⟨n, rfl, hn⟩ := inRange_iff.1 hrow
  unfold value
  rw [entry_succ, List.getElem?_eq_getElem hn]
  show (r.column i).bind _ = _
  rw [column_of_not_inRange h]
  rfl

/-- Every row has a value for each column. -/
def Rectangular (r : QueryResult α) : Prop := ∀ row ∈ r.rows, row.length = r.columnCount

theorem value_of_rectangular (h : r.Rectangular) {m n : Nat} (hm : m < r.rows.length)
    (hn : n < r.columns.length) : ∃ hn' : n < r.rows[m].length,
      r.value (m + 1) (.number (n + 1)) = .ok r.rows[m][n] := by
  have hn' : n < r.rows[m].length := by
    rw [h _ (List.getElem_mem hm)]
    exact hn
  refine ⟨hn', ?_⟩
  unfold value
  rw [entry_succ, List.getElem?_eq_getElem hm]
  show (r.column (n + 1)).bind _ = _
  rw [column_succ hn]
  simp only [Except.bind, entry_succ, List.getElem?_eq_getElem hn']

theorem value_ne_shortRow (h : r.Rectangular) (row : Int) (key : ColumnKey) :
    r.value row key ≠ .error .shortRow := by
  by_cases hrow : InRange row r.rowCount
  · have hnumber (i : Int) : r.value row (.number i) ≠ .error .shortRow := by
      by_cases hi : InRange i r.columnCount
      · obtain ⟨m, rfl, hm⟩ := inRange_iff.1 hrow
        obtain ⟨n, rfl, hn⟩ := inRange_iff.1 hi
        obtain ⟨hn', hv⟩ := value_of_rectangular h hm hn
        rw [hv]
        rintro ⟨⟩
      · rw [value_of_column_not_inRange hrow hi]
        rintro ⟨⟩
    cases key with
    | number i => exact hnumber i
    | label label =>
      rw [value_label hrow]
      rcases columnIndex_cases r label with ⟨i, hi⟩ | hnone
      · rw [hi]
        exact hnumber i
      · rw [hnone]
        rintro ⟨⟩
  · rw [value_of_row_not_inRange hrow]
    rintro ⟨⟩

/-- What look-ups come to. -/
structure Lookup (r : QueryResult α) : Prop where
  /-- Row and column numbers in range are met by a value, the one that stands there. -/
  value : ∀ (m n : Nat) (hm : m < r.rows.length), n < r.columns.length →
    ∃ hn : n < r.rows[m].length, r.value (m + 1) (.number (n + 1)) = .ok r.rows[m][n]
  /-- The row is looked at first. -/
  row_range : ∀ row key, ¬ InRange row r.rowCount →
    r.value row key = .error (.rowRange row r.rowCount)
  column_range : ∀ row i, InRange row r.rowCount → ¬ InRange i r.columnCount →
    r.value row (.number i) = .error (.columnRange i r.columnCount)
  never_short : ∀ row key, r.value row key ≠ .error .shortRow
  label_ok : ∀ label i, r.columnIndex label = .ok i ↔
    ∃ (n : Nat) (h : n < r.columns.length), i = n + 1 ∧ Named label r.columns[n] ∧
      ∀ (m : Nat) (hm : m < n), ¬ Named label r.columns[m]
  label_none : ∀ label, (∀ c ∈ r.columns, ¬ Named label c) →
    r.columnIndex label = .error (.noColumn label)
  value_label : ∀ row label, InRange row r.rowCount →
    r.value row (.label label) = (r.columnIndex label).bind fun i => r.value row (.number i)
  label_of_name : ∀ i name, r.columnName i = .ok (some name) →
    ∃ j, r.columnIndex name = .ok j ∧ j ≤ i

theorem lookup_of_rectangular (h : r.Rectangular) : Lookup r where
  value _ _ hm hn := value_of_rectangular h hm hn
  row_range _ key hrow := value_of_row_not_inRange hrow key
  column_range _ _ hrow hi := value_of_column_not_inRange hrow hi
  never_short row key := value_ne_shortRow h row key
  label_ok _ _ := columnIndex_eq_ok_iff
  label_none _ hnone := columnIndex_eq_error_iff.2 hnone
  value_label _ label hrow := QueryResult.value_label hrow label
  label_of_name _ _ hname := columnIndex_of_columnName hname

end QueryResult

/-! ## What statements give -/

namespace Session

variable {s s' : Session} {n : Nat}

theorem length_of_decodeOnto {done row : List Value} {c c' : Cursor}
    (h : Row.decodeOnto done n c = .ok row c') : row.length = done.length + n := by
  induction n generalizing done c with
  | zero =>
    cases h
    simp
  | succ n ih =>
    obtain ⟨v, c1, -, h⟩ := bind_eq_ok.1 h
    rw [ih h, List.length_cons]
    omega

/-- A row has as many values as it is read for. -/
theorem length_of_read_row {payload : Bytes} {row : List Value}
    (h : (Row.decode n).read payload = .ok row) : row.length = n := by
  unfold Decoder.read at h
  split at h
  · next hrun =>
    cases h
    simpa using length_of_decodeOnto hrun
  · cases h

theorem length_of_receiveColumnsOnto {done columns : List Column}
    (h : receiveColumnsOnto done n s = .ok columns s') : columns.length = done.length + n := by
  induction n generalizing done s with
  | zero =>
    cases h
    simp
  | succ n ih =>
    obtain ⟨payload, s1, -, h⟩ := bind_eq_ok.1 h
    obtain ⟨p, s2, -, h⟩ := bind_eq_ok.1 h
    rw [ih h, List.length_cons]
    omega

theorem length_of_receiveRowsOnto {done : List (List Value)} {r : List (List Value) × EofPacket}
    (hdone : ∀ row ∈ done, row.length = n) (h : receiveRowsOnto n done s = .ok r s') :
    ∀ row ∈ r.1, row.length = n := by
  -- along the recursion: the rows that are done are as long as they should be
  fun_induction receiveRowsOnto n done s with
  | case1 done s e s1 h1 => cases h
  | case2 done s payload s1 h1 heof =>
    obtain ⟨eof, s2, -, h⟩ := bind_eq_ok.1 h
    cases h
    simpa using hdone
  | case3 done s payload s1 h1 heof e hread => cases h
  | case4 done s payload s1 h1 heof row hread ih =>
    refine ih ?_ h
    simpa [length_of_read_row hread] using hdone

/-- A report of success, or a result set. -/
inductive Shaped (r : QueryResult String) : Prop where
  | change : r.columns = [] → r.rows = [] → r.hasResultSet = false → Shaped r
  | resultSet : 1 ≤ r.columnCount → (∀ row ∈ r.rows, row.length = r.columnCount) →
      r.affectedRows = 0 → r.lastInsertId = 0 → Shaped r

theorem Shaped.rectangular {r : QueryResult String} (h : Shaped r) : r.Rectangular := by
  cases h with
  | change _ hrows _ => simp [QueryResult.Rectangular, hrows]
  | resultSet _ hrows _ _ => exact hrows

theorem shaped_of_receiveResultSet {r : QueryResult String} (hn : 1 ≤ n)
    (h : receiveResultSet n s = .ok r s') : Shaped r := by
  obtain ⟨columns, s1, hcolumns, h⟩ := bind_eq_ok.1 h
  obtain ⟨_, s2, -, h⟩ := bind_eq_ok.1 h
  obtain ⟨⟨rows, eof⟩, s3, hrows, h⟩ := bind_eq_ok.1 h
  obtain ⟨_, s4, -, h⟩ := bind_eq_ok.1 h
  cases h
  have hlen : columns.length = n := by simpa using length_of_receiveColumnsOnto hcolumns
  subst hlen
  exact .resultSet hn (length_of_receiveRowsOnto (by simp) hrows) rfl rfl

theorem shaped_of_receiveRest {payload : Bytes} {r : QueryResult String}
    (h : receiveRest payload s = .ok r s') : Shaped r := by
  unfold receiveRest at h
  split at h
  · obtain ⟨ok, s1, -, h⟩ := bind_eq_ok.1 h
    obtain ⟨_, s2, -, h⟩ := bind_eq_ok.1 h
    cases h
    exact .change rfl rfl rfl
  · obtain ⟨count, s1, -, h⟩ := bind_eq_ok.1 h
    split at h
    · cases h
    · cases h
    · next n hn =>
      exact shaped_of_receiveResultSet (Nat.one_le_iff_ne_zero.2 fun h0 => hn (h0 ▸ rfl)) h

/-- Whatever the server sends and however it arrives, a result that a statement gives is a report of
success without columns and rows, or as wide in every row as it has columns; so no look-up in it finds a
row too short. -/
theorem shaped_of_execute {sql : Datum} {r : QueryResult String} (h : execute sql s = .ok r s') :
    Shaped r ∧ r.Lookup := by
  rw [execute_eq] at h
  obtain ⟨_, s1, -, h⟩ := bind_eq_ok.1 h
  obtain ⟨payload, s2, -, h⟩ := bind_eq_ok.1 h
  have hshaped := shaped_of_receiveRest h
  exact ⟨hshaped, QueryResult.lookup_of_rectangular hshaped.rectangular⟩

/-- Two columns whose names differ in case, and one row. -/
theorem shaped_of_execute_of_twin_names :
    let columns : List (ColumnPacket String) :=
      [{ ColumnPacket.initial with name := some "Id" }, { ColumnPacket.initial with name := some "ID" }]
    let payloads := resultSetPayloads columns ⟨0, 2⟩ [[none, some "7"]] ⟨0, 2⟩
    ∃ r s', execute (.text "SELECT 1") (probe 0 (chain 1 payloads ++ [])) = .ok r s' ∧
      r.value 1 (.label "iD") = .ok none ∧ r.value 1 (.number 2) = .ok (some "7") ∧
      r.value 1 (.number 3) = .error (.columnRange 3 2) ∧
      r.value 2 (.label "no") = .error (.rowRange 2 1) ∧
      r.columnIndex "no" = .error (.noColumn "no") := by
  intro columns payloads
  have hrange : ∀ c ∈ columns, c.InRange := by
    simp only [columns, List.mem_cons, List.not_mem_nil, or_false]
    rintro c (rfl | rfl) <;> constructor <;> decide
  have hfit : ∀ payload ∈ payloads, payload.length ≤ Frame.maxPayload := by decide
  have hanswer := answer_resultSetPayloads (by decide) (by decide) hrange
    (by decide) hfit
  have htakes : Takes (execute (.text "SELECT 1")) 0 (chain 1 payloads) _ _ _ :=
    takes_execute ⟨rfl, by decide⟩ hanswer hfit
  obtain ⟨ho, -, -⟩ := htakes.ends (probe 0 _) [] (probe_at 0 _)
  have hrun := eq_ok_iff.2 ⟨ho, rfl⟩
  obtain ⟨-, hlookup⟩ := shaped_of_execute hrun
  have hfirst := (hlookup.label_ok "iD" 1).2 ⟨0, by decide, rfl, ⟨"Id", rfl, by decide⟩, by simp⟩
  refine ⟨_, _, hrun, ?_, ?_, ?_, ?_, ?_⟩
  · rw [hlookup.value_label 1 "iD" ⟨by decide, by decide⟩, hfirst]
    exact (hlookup.value 0 0 (by decide) (by decide)).2
  · exact (hlookup.value 0 1 (by decide) (by decide)).2
  · exact hlookup.column_range 1 3 ⟨by decide, by decide⟩ fun h => absurd h.2 (by decide)
  · exact hlookup.row_range 2 _ fun h => absurd h.2 (by decide)
  · refine hlookup.label_none "no" ?_
    simp only [columns, List.map_cons, List.map_nil, List.mem_cons, List.not_mem_nil, or_false]
    rintro c (rfl | rfl) ⟨name, ⟨⟩, hlower⟩ <;> exact absurd hlower (by decide)

end Session

end SqlWire
