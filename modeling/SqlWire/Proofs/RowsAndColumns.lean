import SqlWire.Proofs.ResultSet
/-!
# Rows and column definitions say where they end

What a row or a definition was written as is read back whatever comes behind it, and nothing can be read from
a smaller part of it. Of a row as many values are read as are asked for, if there are so many
(`rows_and_columns_delimited`).
-/
namespace SqlWire

namespace Decoder

variable {α : Type} {d : Decoder α} {b : Bytes} {a : α}

/-- The octets `b` say where they end: with them come other octets or none, and of a smaller part of them
nothing is read. -/
structure SelfDelimiting (d : Decoder α) (b : Bytes) (a : α) : Prop where
  whole : ∀ rest, d.read (b ++ rest) = .ok a
  cut : ∀ part, part <+: b → part ≠ b →
    ∃ needed offset size, d.read part = .error (.tooShort needed offset size)

theorem Spans.selfDelimiting (h : Spans d b a) : SelfDelimiting d b a where
  whole := h.reads.read
  cut part hpart hne := (h.misses part hpart hne).read

end Decoder

namespace Row

open Decoder

variable {values : List (Option String)} {m : Nat}

theorem encode_append (values others : List (Option String)) :
    encode (values ++ others) = encode values ++ encode others := List.flatMap_append

/-- The values behind those that are asked for are left. -/
theorem read_encode_of_le (hvalues : ∀ v ∈ values, Countable v) (hm : m ≤ values.length) :
    (decode m).read (encode values) = .ok (values.take m) := by
  have hfirst : ∀ v ∈ values.take m, Countable v := fun v hv => hvalues v (List.mem_of_mem_take hv)
  have h := (spans_encode hfirst).reads.read (encode (values.drop m))
  rwa [List.length_take_of_le hm, ← encode_append, List.take_append_drop] at h

/-- Behind the last value there is no other. -/
theorem misses_decodeOnto (hvalues : ∀ v ∈ values, Countable v) (hm : values.length < m)
    (done : List (Option String)) : Misses (decodeOnto done m) (encode values) := by
  -- on the values that are there, whatever values are done
  induction values generalizing m done with
  | nil =>
    obtain ⟨m, rfl⟩ := Nat.exists_eq_add_of_lt hm
    rw [List.length_nil, Nat.zero_add]
    exact Misses.bind (d := nullableText) misses_nil.bind
  | cons v values ih =>
    obtain ⟨m, rfl⟩ := Nat.exists_eq_add_of_le' (Nat.one_le_of_lt hm)
    have hrest := ih (fun v hv => hvalues v (List.mem_cons_of_mem _ hv)) (Nat.lt_of_succ_lt_succ hm)
      (v :: done)
    exact (spans_nullable (hvalues v List.mem_cons_self)).reads.bind_misses hrest

end Row

/-- Rows and definitions are self-delimiting. Of a row any number of values is read that it has, and no larger
number. No text on a machine has more octets than eight octets can count. -/
theorem rows_and_columns_delimited (values : List (Option String)) (p : ColumnPacket String)
    (hvalues : ∀ v ∈ values, Decoder.Countable v) (hp : p.InRange)
    (hnames : ∀ v ∈ p.names, Decoder.Countable v) :
    Decoder.SelfDelimiting (Row.decode values.length) (Row.encode values) values ∧
      (∀ m ≤ values.length, (Row.decode m).read (Row.encode values) = .ok (values.take m)) ∧
      (∀ m, values.length < m → ∃ needed offset size,
        (Row.decode m).read (Row.encode values) = .error (.tooShort needed offset size)) ∧
      Decoder.SelfDelimiting ColumnPacket.decode p.encode p := by
  refine ⟨(Row.spans_encode hvalues).selfDelimiting, ?_, ?_,
    (ColumnPacket.spans_encode hp hnames).selfDelimiting⟩
  · intro m hm
    exact Row.read_encode_of_le hvalues hm
  · intro m hm
    exact (Row.misses_decodeOnto hvalues hm []).read

/-- An absent value and a text, with octets behind the definition. -/
theorem rows_and_columns_delimited_of_two_values :
    let values : List (Option String) := [none, some "é"]
    Row.encode values = [0xFB, 2, 0xC3, 0xA9] ∧
      (Row.decode 1).read (Row.encode values) = .ok [none] ∧
      (∃ needed offset size,
        (Row.decode 3).read (Row.encode values) = .error (.tooShort needed offset size)) ∧
      (∃ needed offset size,
        (Row.decode 2).read [0xFB, 2, 0xC3] = .error (.tooShort needed offset size)) ∧
      ColumnPacket.decode.read (ColumnPacket.initial.encode ++ [7]) = .ok ColumnPacket.initial := by
  intro values
  have hvalues : ∀ v ∈ values, Decoder.Countable v := by
    rintro v hv s rfl
    simp [values] at hv
    subst hv
    decide
  have hp : ColumnPacket.initial.InRange := by constructor <;> decide
  have hnames : ∀ v ∈ ColumnPacket.initial.names, Decoder.Countable v := by
    rintro v hv s rfl
    simp [ColumnPacket.names, ColumnPacket.initial] at hv
    rcases hv with rfl | rfl <;> decide
  obtain ⟨hrow, hfew, hmany, hcolumn⟩ :=
    rows_and_columns_delimited values ColumnPacket.initial hvalues hp hnames
  exact ⟨rfl, hfew 1 (by decide), hmany 3 (by decide), hrow.cut _ ⟨[0xA9], rfl⟩ (by decide),
    hcolumn.whole [7]⟩

end SqlWire
