import SqlWire.Failure
import SqlWire.Proofs.Reports
/-!
# Reports of success that are cut

Of a report of success only the first octet has to be there. A number that is missing counts as zero, and so do
the status and the warnings, which come together; but of a number that is there no octet may be missing. So each
cut of a report either falls inside one of the two numbers, and is refused, or leaves what comes before it
(`read_cut`).
-/
namespace SqlWire

open Stateful Decoder

namespace Decoder

variable {α β : Type} {d : Decoder α} {a : α} {b : Bytes} {n : Nat}

/-! ## Cuts -/

/-- Of the first `j` octets of `b`, and no more, the decoder gives `value j`, unless the cut falls `inside` a part
of which no octet may be missing. -/
structure ReadsCuts (d : Decoder α) (b : Bytes) (inside : Nat → Prop) (value : Nat → α) : Prop where
  misses : ∀ j, inside j → Misses d (b.take j)
  reads : ∀ j, ¬ inside j → ReadsLast d (b.take j) (value j)

theorem ReadsCuts.congr {inside inside' : Nat → Prop} {value value' : Nat → α} (h : ReadsCuts d b inside value)
    (hin : ∀ j, inside' j ↔ inside j) (hvalue : ∀ j, ¬ inside j → value j = value' j) :
    ReadsCuts d b inside' value' where
  misses j hj := h.misses j ((hin j).1 hj)
  reads j hj := by
    have hj' := mt (hin j).2 hj
    exact hvalue j hj' ▸ h.reads j hj'

theorem Misses.hasMore_bind {f : Bool → Decoder β} (h : Misses (f true) b) (hb : b ≠ []) :
    Misses (hasMore >>= f) b := by
  intro c hc hrest
  have hmore : (!c.rest.isEmpty) = true := by simp [hrest, hb]
  rw [bind_of_run (hasMore_eq hc), hmore]
  exact h c hc hrest

theorem ReadsLast.hasAtLeast_bind_of_lt {f : Bool → Decoder β} {a : β} (hn : b.length < n)
    (h : ReadsLast (f false) b a) : ReadsLast (hasAtLeast n >>= f) b a := by
  intro c hc hrest
  rw [bind_of_run (hasAtLeast_eq hc n), hrest, decide_eq_false (Nat.not_le_of_lt hn)]
  exact h c hc hrest

/-- A text, less one zero that ends it. -/
def lessZero (s : String) : String :=
  if s.toList.getLast? = some '\x00' then String.ofList s.toList.dropLast else s

theorem lastText_encode_eq (s : String) : lastText (Utf8.encode s) = lessZero s := by
  unfold lessZero
  split
  · next h =>
    obtain ⟨cs, hcs⟩ := List.getLast?_eq_some_iff.1 h
    have hzero : Utf8.encode s = Utf8.encode (String.ofList cs) ++ [0] := by
      simp [Utf8.encode, hcs, Utf8.encodeChar]
    rw [lastText, hzero, List.getLast?_concat, if_pos rfl, List.dropLast_concat, Utf8.decode_encode, hcs,
      List.dropLast_concat]
  · next h => exact lastText_encode h

end Decoder

namespace OkPacket

variable {β : Type} {f : Nat → Decoder β} {b : Bytes} {n k : Nat} {p : OkPacket String}

/-! ## Numbers that may be missing -/

theorem optionalNumber_of_nil {c : Cursor} (hc : c.Inside) (h : c.rest = []) :
    optionalNumber c = .ok 0 c := by
  rw [optionalNumber, bind_of_run (hasMore_eq hc), h]
  rfl

theorem readsLast_absent {v : β} (h : ReadsLast (f 0) [] v) : ReadsLast (optionalNumber >>= f) [] v := by
  intro c hc hrest
  rw [bind_of_run (optionalNumber_of_nil hc hrest)]
  exact h c hc hrest

/-- Of a number that has begun no octet may be missing. -/
theorem misses_optionalNumber {cut : Bytes} (hn : n ≤ 0xFFFFFFFFFFFFFFFF) (hcut : cut <+: Encoding.length n)
    (hne : cut ≠ Encoding.length n) (hnil : cut ≠ []) : Misses (optionalNumber >>= f) cut := by
  have h : Misses (lengthInt >>= fun v => pure (v.getD 0)) cut :=
    ((spans_length (Nat.lt_succ_of_le hn)).misses cut hcut hne).bind
  exact (h.hasMore_bind hnil).bind

/-- The cut falls in front of the number, inside it, or behind it. -/
theorem readsCuts_optionalNumber {inside : Nat → Prop} {value : Nat → β} {v : β}
    (hn : n ≤ 0xFFFFFFFFFFFFFFFF) (hnone : ReadsLast (f 0) [] v) (hsome : ReadsCuts (f n) b inside value) :
    ReadsCuts (optionalNumber >>= f) (Encoding.length n ++ b)
      (fun j => (0 < j ∧ j < (Encoding.length n).length) ∨
        ((Encoding.length n).length ≤ j ∧ inside (j - (Encoding.length n).length)))
      (fun j => if (Encoding.length n).length ≤ j then value (j - (Encoding.length n).length) else v) where
  misses j hj := by
    rcases hj with ⟨hpos, hlt⟩ | ⟨hle, hinside⟩
    · rw [List.take_append_of_le_length (Nat.le_of_lt hlt)]
      have hlen : ((Encoding.length n).take j).length = j := List.length_take_of_le (Nat.le_of_lt hlt)
      refine misses_optionalNumber hn (List.take_prefix j _) (fun he => ?_) (fun he => ?_)
      · rw [he] at hlen
        omega
      · rw [he] at hlen
        exact absurd hlen (Nat.ne_of_lt hpos)
    · rw [List.take_append, List.take_of_length_le hle]
      exact (reads_optionalNumber hn).bind_misses (hsome.misses _ hinside)
  reads j hj := by
    by_cases hle : (Encoding.length n).length ≤ j
    · rw [if_pos hle, List.take_append, List.take_of_length_le hle]
      exact (reads_optionalNumber hn).bind_last (hsome.reads _ fun h => hj (.inr ⟨hle, h⟩))
    · have hzero : j = 0 := by omega
      rw [if_neg hle, hzero, List.take_zero]
      exact readsLast_absent hnone

/-! ## The status -/

/-- What is read behind the two numbers. -/
def afterNumbers (affected lastId : Nat) : Decoder (OkPacket String) := do
  if ← hasAtLeast 4 then
    let status ← fixedInt 2
    let warnings ← fixedInt 2
    return ⟨affected, lastId, status, warnings, ← textToEnd⟩
  else return { initial with affectedRows := affected, lastInsertId := lastId }

/-- What is read behind the marker. -/
def afterMarker : Decoder (OkPacket String) := do
  let affected ← optionalNumber
  let lastId ← optionalNumber
  afterNumbers affected lastId

theorem decode_eq : decode = (skip 1 >>= fun _ => afterMarker) := rfl

/-- With too few octets for the status and the warnings, neither is read. -/
theorem readsLast_short (affected lastId : Nat) (hb : b.length < 4) :
    ReadsLast (afterNumbers affected lastId) b
      { initial with affectedRows := affected, lastInsertId := lastId } :=
  ReadsLast.hasAtLeast_bind_of_lt hb fun _ _ _ => rfl

/-- The status and the warnings come together or not at all. -/
theorem readsCuts_afterNumbers (affected lastId : Nat) {status warnings : Nat} (hstatus : status ≤ 0xFFFF)
    (hwarnings : warnings ≤ 0xFFFF) (b : Bytes) :
    ReadsCuts (afterNumbers affected lastId) (Bytes.ofInt 2 status ++ (Bytes.ofInt 2 warnings ++ b))
      (fun _ => False) (fun j => if 4 ≤ j then ⟨affected, lastId, status, warnings, lastText (b.take (j - 4))⟩
        else { initial with affectedRows := affected, lastInsertId := lastId }) where
  misses _ h := h.elim
  reads j _ := by
    by_cases hle : 4 ≤ j
    · have htake : (Bytes.ofInt 2 status ++ (Bytes.ofInt 2 warnings ++ b)).take j =
          Bytes.ofInt 2 status ++ (Bytes.ofInt 2 warnings ++ b.take (j - 4)) := by
        rw [List.take_append, List.take_append, Bytes.length_ofInt, Bytes.length_ofInt,
          List.take_of_length_le (by rw [Bytes.length_ofInt]; omega),
          List.take_of_length_le (by rw [Bytes.length_ofInt]; omega), Nat.sub_sub]
      rw [if_pos hle, htake]
      refine ReadsLast.hasAtLeast_bind ?_ <|
        (reads_ofInt_of_le hstatus (by decide) (by decide)).bind_last <|
        (reads_ofInt_of_le hwarnings (by decide) (by decide)).bind_last <|
        (readsLast_textToEnd _).bind_pure _
      simp only [List.length_append, Bytes.length_ofInt]
      omega
    · rw [if_neg hle]
      exact readsLast_short affected lastId
        (Nat.lt_of_le_of_lt (List.length_take_le j _) (Nat.lt_of_not_le hle))

/-! ## Reports -/

/-- Where the number of rows ends. -/
def affectedEnd (p : OkPacket String) : Nat := 1 + (Encoding.length p.affectedRows.toNat).length

/-- Where the last id ends. -/
def lastIdEnd (p : OkPacket String) : Nat :=
  p.affectedEnd + (Encoding.length p.lastInsertId.toNat).length

/-- Where the status and the warnings end. -/
def statusEnd (p : OkPacket String) : Nat := p.lastIdEnd + 4

/-- A cut behind `k` octets leaves some octets of a number, but not all of them. -/
def CutInNumber (p : OkPacket String) (k : Nat) : Prop :=
  (1 < k ∧ k < p.affectedEnd) ∨ (p.affectedEnd < k ∧ k < p.lastIdEnd)

instance (p : OkPacket String) (k : Nat) : Decidable (p.CutInNumber k) :=
  inferInstanceAs (Decidable ((1 < k ∧ k < p.affectedEnd) ∨ (p.affectedEnd < k ∧ k < p.lastIdEnd)))

/-- What is left of a report that is cut behind `k` octets. -/
def kept (p : OkPacket String) (k : Nat) : OkPacket String where
  affectedRows := if p.affectedEnd ≤ k then p.affectedRows else 0
  lastInsertId := if p.lastIdEnd ≤ k then p.lastInsertId else 0
  statusFlags := if p.statusEnd ≤ k then p.statusFlags else 0
  warnings := if p.statusEnd ≤ k then p.warnings else 0
  info := lastText ((Utf8.encode p.info).take (k - p.statusEnd))

theorem kept_of_lt_statusEnd (h : k < p.statusEnd) : p.kept k =
    { initial with
      affectedRows := if p.affectedEnd ≤ k then p.affectedRows else 0
      lastInsertId := if p.lastIdEnd ≤ k then p.lastInsertId else 0 } := by
  rw [kept, if_neg (Nat.not_le_of_lt h), if_neg (Nat.not_le_of_lt h), Nat.sub_eq_zero_of_le (Nat.le_of_lt h),
    List.take_zero]
  rfl

theorem kept_of_statusEnd_le (h : p.statusEnd ≤ k) :
    p.kept k = { p with info := lastText ((Utf8.encode p.info).take (k - p.statusEnd)) } := by
  have hlast : p.lastIdEnd ≤ k := Nat.le_trans (Nat.le_add_right _ _) h
  have haffected : p.affectedEnd ≤ k := Nat.le_trans (Nat.le_add_right _ _) hlast
  rw [kept, if_pos haffected, if_pos hlast, if_pos h, if_pos h]

theorem ends (affected lastId status warnings : Nat) (info : String) :
    affectedEnd ⟨affected, lastId, status, warnings, info⟩ = 1 + (Encoding.length affected).length ∧
      lastIdEnd ⟨affected, lastId, status, warnings, info⟩ =
        1 + (Encoding.length affected).length + (Encoding.length lastId).length ∧
      statusEnd ⟨affected, lastId, status, warnings, info⟩ =
        1 + (Encoding.length affected).length + (Encoding.length lastId).length + 4 :=
  ⟨rfl, rfl, rfl⟩

/-- Behind the marker a cut falls inside a number, or what is left is read. -/
theorem readsCuts_afterMarker (hp : p.InRange) : ∃ b, p.encode = .ok (Marker.ok :: b) ∧
    b.length + 1 = p.statusEnd + (Utf8.encode p.info).length ∧
    ReadsCuts afterMarker b (fun j => p.CutInNumber (j + 1)) fun j => p.kept (j + 1) := by
  obtain ⟨affectedRows, lastInsertId, statusFlags, warnings, info⟩ := p
  obtain ⟨affectedRows, rfl, h1⟩ := exists_nat hp.affectedRows
  obtain ⟨lastInsertId, rfl, h2⟩ := exists_nat hp.lastInsertId
  obtain ⟨statusFlags, rfl, h3⟩ := exists_nat hp.statusFlags
  obtain ⟨warnings, rfl, h4⟩ := exists_nat hp.warnings
  have hlast := readsCuts_optionalNumber h2 (readsLast_short affectedRows 0 (by decide))
    (readsCuts_afterNumbers affectedRows lastInsertId h3 h4 (Utf8.encode info))
  have hcuts := readsCuts_optionalNumber (f := fun n => optionalNumber >>= afterNumbers n) h1
    (readsLast_absent (readsLast_short 0 0 (by decide))) hlast
  obtain ⟨haffectedEnd, hlastIdEnd, hstatusEnd⟩ := ends affectedRows lastInsertId statusFlags warnings info
  refine ⟨_, encode_natCast .., ?_, ?_⟩
  · simp only [List.length_append, Bytes.length_ofInt]
    omega
  · refine hcuts.congr (fun j => ?_) fun j _ => ?_
    · simp only [CutInNumber, and_false, or_false]
      omega
    · split
      · split
        · split
          · rw [kept_of_statusEnd_le (by omega), hstatusEnd]
            have hsub : j + 1 - (1 + (Encoding.length affectedRows).length +
                (Encoding.length lastInsertId).length + 4) =
                j - (Encoding.length affectedRows).length - (Encoding.length lastInsertId).length - 4 := by
              omega
            rw [hsub]
          · rw [kept_of_lt_statusEnd (by omega), if_pos (by omega), if_pos (by omega)]
        · rw [kept_of_lt_statusEnd (by omega), if_pos (by omega), if_neg (by omega)]
          rfl
      · rw [kept_of_lt_statusEnd (by omega), if_neg (by omega), if_neg (by omega)]
        rfl

/-- Each cut of a report falls inside one of its numbers and is refused, or gives what is left; the whole report
gives its text, less one zero that ends it. -/
theorem read_cut (hp : p.InRange) : ∃ payload, p.encode = .ok payload ∧ ∀ k, 1 ≤ k →
    ((∃ e, decode.read (payload.take k) = .error e) ↔ p.CutInNumber k) ∧
    (∀ e, decode.read (payload.take k) = .error e → (Failure.malformed e).errorClass? = some .protocol) ∧
    (¬ p.CutInNumber k → decode.read (payload.take k) = .ok (p.kept k)) ∧
    (k = payload.length → (p.kept k).info = lessZero p.info) := by
  obtain ⟨b, henc, hlen, hcuts⟩ := readsCuts_afterMarker hp
  refine ⟨Marker.ok :: b, henc, fun k hk => ?_⟩
  obtain ⟨j, rfl⟩ := Nat.exists_eq_add_of_le' hk
  have htake : (Marker.ok :: b).take (j + 1) = [Marker.ok] ++ b.take j := rfl
  have hmisses (h : p.CutInNumber (j + 1)) : ∃ needed offset size,
      decode.read ((Marker.ok :: b).take (j + 1)) = .error (.tooShort needed offset size) := by
    rw [htake]
    exact ((reads_skip_one Marker.ok).bind_misses (hcuts.misses j h)).read
  have hreads (h : ¬ p.CutInNumber (j + 1)) :
      decode.read ((Marker.ok :: b).take (j + 1)) = .ok (p.kept (j + 1)) := by
    rw [htake]
    exact ((reads_skip_one Marker.ok).bind_last (hcuts.reads j h)).read
  refine ⟨⟨?_, ?_⟩, ?_, hreads, ?_⟩
  · rintro ⟨e, he⟩
    by_contra h
    exact nomatch he.symm.trans (hreads h)
  · intro h
    obtain ⟨needed, offset, size, he⟩ := hmisses h
    exact ⟨_, he⟩
  · intro e he
    by_cases h : p.CutInNumber (j + 1)
    · obtain ⟨needed, offset, size, he'⟩ := hmisses h
      obtain rfl := Except.error.inj (he.symm.trans he')
      rfl
    · exact nomatch he.symm.trans (hreads h)
  · intro hall
    have hstatus : j + 1 - p.statusEnd = (Utf8.encode p.info).length := by
      rw [hall, List.length_cons, hlen]
      exact Nat.add_sub_cancel_left _ _
    show lastText ((Utf8.encode p.info).take (j + 1 - p.statusEnd)) = lessZero p.info
    rw [hstatus, List.take_length, lastText_encode_eq]

/-- The numbers take three octets and nine, and a zero ends the text. -/
def wide : OkPacket String := ⟨300, 0x1000000, 2, 1, "é\x00"⟩

/-- Cut inside the first number, behind it, and inside the status. -/
theorem read_cut_of_wide : ∃ payload, wide.encode = .ok payload ∧ payload.length = 20 ∧
    (∃ e, decode.read (payload.take 3) = .error e) ∧
    decode.read (payload.take 4) = .ok ⟨300, 0, 0, 0, ""⟩ ∧
    decode.read (payload.take 16) = .ok ⟨300, 0x1000000, 0, 0, ""⟩ ∧
    decode.read payload = .ok ⟨300, 0x1000000, 2, 1, "é"⟩ := by
  obtain ⟨payload, henc, h⟩ := read_cut (p := wide) ⟨by decide, by decide, by decide, by decide⟩
  have hpayload : payload = [0, 0xFC, 0x2C, 1, 0xFE, 0, 0, 0, 1, 0, 0, 0, 0, 2, 0, 1, 0, 0xC3, 0xA9, 0] :=
    (Except.ok.inj henc).symm
  have hlen : payload.length = 20 := congrArg List.length hpayload
  have hwhole : decode.read payload = .ok (wide.kept 20) := by
    have hread := (h 20 (by decide)).2.2.1 (by decide)
    rwa [List.take_of_length_le (Nat.le_of_eq hlen)] at hread
  have hinfo : (wide.kept 20).info = "é" := ((h 20 (by decide)).2.2.2 hlen.symm).trans (by decide)
  have hkept : wide.kept 20 = { wide with info := (wide.kept 20).info } := by
    rw [kept_of_statusEnd_le (by decide)]
  refine ⟨payload, henc, hlen, (h 3 (by decide)).1.2 (by decide), (h 4 (by decide)).2.2.1 (by decide),
    (h 16 (by decide)).2.2.1 (by decide), ?_⟩
  rw [hwhole, hkept, hinfo]
  rfl

end OkPacket

end SqlWire
