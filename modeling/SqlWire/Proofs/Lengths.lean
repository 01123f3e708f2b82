import SqlWire.Failure
import SqlWire.Proofs.Truncation
/-!
# Lengths of any form

A number may come in more octets than it needs, or not at all. `Beginning` sorts what octets can begin
with where a length is read, and each case says what the read comes to. So the written form of a number is the
shortest of the forms that are read as it, and a length is refused only for want of octets or for the one octet
that begins none (`length_exact`).
-/
namespace SqlWire

open Stateful

/-! ## Forms -/

/-- The octets are a form of the number: one octet below the marks, or a mark and the octets that it announces. -/
inductive Numeral : Bytes → Nat → Prop where
  | single {x : UInt8} (small : x < Marker.null) : Numeral [x] x.toNat
  | announced {lead : UInt8} {b : Bytes} (announces : Marker.lengthOctets lead = some b.length) :
      Numeral (lead :: b) b.value

/-- There is no octet, or there are fewer than the first one announces. -/
inductive Unfinished : Bytes → Prop where
  | nothing : Unfinished []
  | announced {lead : UInt8} {b : Bytes} {n : Nat} (announces : Marker.lengthOctets lead = some n)
      (short : b.length < n) : Unfinished (lead :: b)

/-- What octets begin with where a length is expected. -/
inductive Beginning : Bytes → Prop where
  | number {b rest : Bytes} {w : Nat} (numeral : Numeral b w) : Beginning (b ++ rest)
  | absent {rest : Bytes} : Beginning (Marker.null :: rest)
  | unmarked {rest : Bytes} : Beginning (0xFF :: rest)
  | unfinished {b : Bytes} (unfinished : Unfinished b) : Beginning b

/-- An octet that announces others announces two, three or eight. -/
theorem Marker.lengthOctets_cases {lead : UInt8} {n : Nat} (h : lengthOctets lead = some n) :
    null < lead ∧ lead ≠ 0xFF ∧ (n = 2 ∨ n = 3 ∨ n = 8) := by
  unfold lengthOctets at h
  split at h
  · next hlead =>
    cases h
    exact hlead ▸ ⟨by decide, by decide, .inl rfl⟩
  split at h
  · next hlead =>
    cases h
    exact hlead ▸ ⟨by decide, by decide, .inr (.inl rfl)⟩
  split at h
  · next hlead =>
    cases h
    exact hlead ▸ ⟨by decide, by decide, .inr (.inr rfl)⟩
  · cases h

/-- Behind the mark of an absent value come the three marks, and behind these one octet only. -/
theorem Marker.eq_of_not_announcing {lead : UInt8} (hlt : ¬ lead < null) (hne : lead ≠ null)
    (h : lengthOctets lead = none) : lead = 0xFF := by
  have h2 : lead ≠ length2 := by rintro rfl; cases h
  have h3 : lead ≠ length3 := by rintro rfl; cases h
  have h8 : lead ≠ length8 := by rintro rfl; cases h
  apply UInt8.toNat_inj.1
  rw [ne_eq, ← UInt8.toNat_inj] at hne h2 h3 h8
  rw [UInt8.lt_iff_toNat_lt] at hlt
  have hlast := lead.toNat_lt
  simp only [null, length2, length3, length8, UInt8.reduceToNat] at *
  omega

/-- A number that fits two, three or eight octets is written in no more, behind its mark. -/
theorem Encoding.length_le_of_lt {w n : Nat} (hn : n = 2 ∨ n = 3 ∨ n = 8) (hw : w < Nat.pow 256 n) :
    (length w).length ≤ n + 1 := by
  have h1 : Nat.pow 256 2 = 0xFFFF + 1 := rfl
  have h2 : Nat.pow 256 3 = 0xFFFFFF + 1 := rfl
  unfold length
  split
  · rw [Bytes.length_ofInt]
    omega
  split
  · rw [List.length_cons, Bytes.length_ofInt]
    omega
  split
  · rw [List.length_cons, Bytes.length_ofInt]
    rcases hn with rfl | rfl | rfl <;> omega
  · rw [List.length_cons, Bytes.length_ofInt]
    rcases hn with rfl | rfl | rfl <;> omega

theorem beginning (b : Bytes) : Beginning b := by
  cases b with
  | nil => exact .unfinished .nothing
  | cons lead b =>
    by_cases hlt : lead < Marker.null
    · exact .number (b := [lead]) (.single hlt)
    by_cases hnull : lead = Marker.null
    · rw [hnull]
      exact .absent
    cases hl : Marker.lengthOctets lead with
    | none =>
      rw [Marker.eq_of_not_announcing hlt hnull hl]
      exact .unmarked
    | some n =>
      rcases Nat.lt_or_ge b.length n with hshort | hle
      · exact .unfinished (.announced hl hshort)
      · have hnum : Numeral (lead :: b.take n) (Bytes.value (b.take n)) :=
          .announced (by rw [hl, List.length_take_of_le hle])
        have h : Beginning (lead :: b.take n ++ b.drop n) := .number hnum
        rwa [List.cons_append, List.take_append_drop] at h

namespace Numeral

variable {b : Bytes} {w : Nat}

theorem not_unfinished (h : Numeral b w) (rest : Bytes) : ¬ Unfinished (b ++ rest) := by
  intro hshort
  cases h with
  | single small =>
    cases hshort with
    | announced announces short =>
      obtain ⟨hlt, -, -⟩ := Marker.lengthOctets_cases announces
      exact absurd (UInt8.lt_trans small hlt) (UInt8.lt_irrefl _)
  | announced announces =>
    cases hshort with
    | announced announces' short =>
      rw [announces] at announces'
      cases announces'
      exact absurd short (Nat.not_lt_of_le (List.prefix_append _ rest).length_le)

theorem head?_ne (h : Numeral b w) (rest : Bytes) :
    (b ++ rest).head? ≠ some Marker.null ∧ (b ++ rest).head? ≠ some 0xFF := by
  cases h with
  | @single x small =>
    have hx : x ≠ Marker.null := UInt8.ne_of_lt small
    have hx' : x ≠ 0xFF := by
      rintro rfl
      exact absurd small (by decide)
    simp [hx, hx']
  | @announced lead _ announces =>
    obtain ⟨hlt, hne, -⟩ := Marker.lengthOctets_cases announces
    have hlead : lead ≠ Marker.null := (UInt8.ne_of_lt hlt).symm
    simp [hlead, hne]

/-- No form holds more than eight octets can, or has fewer octets than the written one. -/
theorem bounds (h : Numeral b w) : w ≤ 0xFFFFFFFFFFFFFFFF ∧ (Encoding.length w).length ≤ b.length := by
  cases h with
  | @single x small =>
    have hlt : x.toNat < Marker.null.toNat := UInt8.lt_iff_toNat_lt.1 small
    have hx := x.toNat_lt
    rw [Encoding.length, if_pos hlt, Bytes.length_ofInt]
    exact ⟨by omega, Nat.le_refl _⟩
  | @announced lead b announces =>
    obtain ⟨-, -, hwidth⟩ := Marker.lengthOctets_cases announces
    have hvalue := Bytes.value_lt b
    have hle : Nat.pow 256 b.length ≤ Nat.pow 256 8 := Nat.pow_le_pow_right (by decide) (by omega)
    exact ⟨Nat.le_of_lt_succ (Nat.lt_of_lt_of_le hvalue hle), Encoding.length_le_of_lt hwidth hvalue⟩

theorem length_le (h : Numeral b w) : b.length ≤ 9 := by
  cases h with
  | single small => exact Nat.le_of_ble_eq_true rfl
  | announced announces =>
    obtain ⟨-, -, hwidth⟩ := Marker.lengthOctets_cases announces
    rw [List.length_cons]
    omega

end Numeral

/-! ## Reads -/

/-- Why a read is refused at the cursor: more octets are needed than are left, or the next one begins no length. -/
inductive Refuses (c : Cursor) : DecodeError → Prop where
  | tooShort {needed : Nat} (short : c.rest.length < needed) :
      Refuses c (.tooShort needed c.offset c.size)
  | unmarked (next : c.rest.head? = some 0xFF) : Refuses c (.badPrefix 0xFF c.offset)

theorem Refuses.errorClass_eq {c : Cursor} {e : DecodeError} (h : Refuses c e) :
    (Failure.malformed e).errorClass? = some .protocol := by
  cases h <;> rfl

namespace Decoder

variable {c : Cursor} {b rest : Bytes} {w : Nat}

/-- Every form of a number is read, wherever it comes. -/
theorem reads_numeral (h : Numeral b w) : Reads lengthInt b (some w) := by
  cases h with
  | @single x small =>
    intro c rest hc hrest
    rw [lengthInt_lead hc hrest, if_pos small]
    exact (reads_fixedInt (List.cons_ne_nil x [])).map some c rest hc hrest
  | @announced lead b announces =>
    obtain ⟨hlead, -, hwidth⟩ := Marker.lengthOctets_cases announces
    have h := reads_announced hlead announces (by omega) (Bytes.value_lt b)
    rwa [Bytes.ofInt_value] at h

/-- Where too few octets are left, whatever needs them fails at once. -/
theorem require_bind_of_lt {α : Type} {n : Nat} (f : Unit → Decoder α) (hc : c.Inside)
    (h : c.rest.length < n) : (require n >>= f) c = .error (.tooShort n c.offset c.size) c :=
  bind_eq_error.2 (.inl (require_of_lt hc h))

theorem lengthInt_of_unmarked (hc : c.Inside) (hrest : c.rest = 0xFF :: rest) :
    lengthInt c = .error (.badPrefix 0xFF c.offset) c := by
  rw [lengthInt_lead hc (hrest.trans (List.append_nil _).symm)]
  rfl

/-- Of an unfinished length at most the first octet is passed over. -/
theorem lengthInt_of_unfinished (hc : c.Inside) (h : Unfinished c.rest) :
    ∃ n ≤ 1, ∃ e, n ≤ c.rest.length ∧ lengthInt c = .error e (c.advance n) ∧ Refuses (c.advance n) e := by
  generalize hrest : c.rest = b at h
  cases h with
  | nothing =>
    have hlt : c.rest.length < 1 := by simp [hrest]
    exact ⟨0, Nat.zero_le 1, _, Nat.zero_le _, require_bind_of_lt _ hc hlt, .tooShort hlt⟩
  | @announced lead b n announces short =>
    obtain ⟨hlt, -, -⟩ := Marker.lengthOctets_cases announces
    have hlow : ¬ lead < Marker.null := fun h => UInt8.lt_irrefl _ (UInt8.lt_trans h hlt)
    have hskip : skip 1 c = .ok () (c.advance 1) := reads_skip_one lead c b hc hrest
    have hin : (c.advance 1).Inside := Cursor.inside_advance hc (by simp [hrest])
    have hshort : (c.advance 1).rest.length < n := by simpa [Cursor.advance, hrest] using short
    have hread : (some <$> fixedInt n) (c.advance 1) = .error _ _ :=
      bind_eq_error.2 (.inl (require_bind_of_lt _ hin hshort))
    refine ⟨1, Nat.le_refl 1, _, by simp, ?_, .tooShort hshort⟩
    rw [lengthInt_lead hc (hrest.trans (List.append_nil _).symm), if_neg hlow,
      if_neg (UInt8.ne_of_lt hlt).symm, announces]
    exact bind_eq_error.2 (.inr ⟨(), _, hskip, hread⟩)

/-- The ways that a read of a length can go. -/
inductive LengthRead (c : Cursor) : Prop where
  | number {b rest : Bytes} {w : Nat} (next : c.rest = b ++ rest) (numeral : Numeral b w)
      (run : lengthInt c = .ok (some w) (c.advance b.length))
  | absent {rest : Bytes} (next : c.rest = Marker.null :: rest) (run : lengthInt c = .ok none (c.advance 1))
  | refused {n : Nat} {e : DecodeError} (next : Unfinished c.rest ∨ c.rest.head? = some 0xFF) (few : n ≤ 1)
      (left : n ≤ c.rest.length) (run : lengthInt c = .error e (c.advance n)) (refuses : Refuses (c.advance n) e)

theorem lengthRead (hc : c.Inside) : LengthRead c := by
  have hbeginning := beginning c.rest
  generalize hrest : c.rest = b at hbeginning
  cases hbeginning with
  | number numeral => exact .number hrest numeral (reads_numeral numeral c _ hc hrest)
  | absent => exact .absent hrest (reads_null c _ hc hrest)
  | unmarked =>
    exact .refused (.inr (congrArg List.head? hrest)) (Nat.zero_le 1) (Nat.zero_le _)
      (lengthInt_of_unmarked hc hrest) (.unmarked (congrArg List.head? hrest))
  | unfinished h =>
    obtain ⟨n, hn, e, hleft, hrun, hrefuses⟩ := lengthInt_of_unfinished hc (hrest ▸ h)
    exact .refused (.inl (hrest ▸ h)) hn hleft hrun hrefuses

/-- At an offset behind the end there is no octet either. -/
theorem lengthRead_atOffset (payload : Bytes) (offset : Nat) : LengthRead (.atOffset payload offset) := by
  rcases Nat.lt_or_ge payload.length offset with hlt | hle
  · have hnil : (Cursor.atOffset payload offset).rest = [] := List.drop_eq_nil_of_le (Nat.le_of_lt hlt)
    have hrequire : require 1 (.atOffset payload offset) = .error _ _ :=
      if_neg (by simp only [Cursor.atOffset]; omega)
    refine .refused (.inl ?_) (Nat.zero_le 1) (Nat.zero_le _) (bind_eq_error.2 (.inl hrequire)) (.tooShort ?_)
    · rw [hnil]
      exact .nothing
    · simp [Cursor.advance, hnil]
  · exact lengthRead (Cursor.inside_atOffset hle)

end Decoder

/-! ## All lengths -/

open Decoder

theorem Unfinished.head?_ne {b : Bytes} (h : Unfinished b) :
    b.head? ≠ some Marker.null ∧ b.head? ≠ some 0xFF := by
  cases h with
  | nothing => simp
  | announced announces =>
    obtain ⟨hlt, hne, -⟩ := Marker.lengthOctets_cases announces
    simp [hne, (UInt8.ne_of_lt hlt).symm]

/-- No number stands at the offset: there are too few octets, or there is the one octet that begins none. -/
def NoLength (payload : Bytes) (offset : Nat) : Prop :=
  Unfinished (payload.drop offset) ∨ payload[offset]? = some 0xFF

/-- What a read of a length comes to at an offset of a payload, whatever stands there. -/
structure LengthAt (payload : Bytes) (offset : Nat) : Prop where
  absent : outcome (lengthInt (.atOffset payload offset)) = .ok none ↔
    payload[offset]? = some Marker.null
  refused : (∃ e, outcome (lengthInt (.atOffset payload offset)) = .error e) ↔ NoLength payload offset
  malformed : ∀ e, outcome (lengthInt (.atOffset payload offset)) = .error e →
    (Failure.malformed e).errorClass? = some .protocol
  number : payload[offset]? ≠ some Marker.null → ¬ NoLength payload offset →
    ∃ b w, b <+: payload.drop offset ∧ Numeral b w ∧
      lengthInt (.atOffset payload offset) = .ok (some w) (.atOffset payload (offset + b.length)) ∧
      w ≤ 0xFFFFFFFFFFFFFFFF ∧ (Encoding.length w).length ≤ b.length

theorem lengthAt (payload : Bytes) (offset : Nat) : LengthAt payload offset := by
  have hhead : (payload.drop offset).head? = payload[offset]? := List.head?_drop
  cases lengthRead_atOffset payload offset with
  | @number b rest w next numeral run =>
    have next : payload.drop offset = b ++ rest := next
    obtain ⟨hnull, hlast⟩ := numeral.head?_ne rest
    rw [← next, hhead] at hnull hlast
    have hnone : ¬ NoLength payload offset :=
      not_or.2 ⟨next ▸ numeral.not_unfinished rest, hlast⟩
    rw [Cursor.advance_atOffset] at run
    refine ⟨?_, ?_, ?_, fun _ _ => ⟨b, w, ⟨rest, next.symm⟩, numeral, run, numeral.bounds⟩⟩ <;> rw [run]
    · exact iff_of_false (by rintro ⟨⟩) hnull
    · exact iff_of_false (by rintro ⟨e, ⟨⟩⟩) hnone
    · rintro e ⟨⟩
  | @absent rest next run =>
    have next : payload.drop offset = Marker.null :: rest := next
    have hnull : payload[offset]? = some Marker.null := by
      rw [← hhead, next]
      rfl
    have hnone : ¬ NoLength payload offset := by
      rintro (h | h)
      · exact h.head?_ne.1 (hhead.trans hnull)
      · rw [hnull] at h
        cases h
    refine ⟨?_, ?_, ?_, fun hne => absurd hnull hne⟩ <;> rw [run]
    · exact iff_of_true rfl hnull
    · exact iff_of_false (by rintro ⟨e, ⟨⟩⟩) hnone
    · rintro e ⟨⟩
  | @refused n e next few left run refuses =>
    have next : Unfinished (payload.drop offset) ∨ (payload.drop offset).head? = some 0xFF := next
    have hnull : payload[offset]? ≠ some Marker.null := by
      rw [← hhead]
      rcases next with h | h
      · exact h.head?_ne.1
      · rw [h]
        decide
    rw [hhead] at next
    refine ⟨?_, ?_, ?_, fun _ hsome => absurd next hsome⟩ <;> rw [run]
    · exact iff_of_false (by rintro ⟨⟩) hnull
    · exact iff_of_true ⟨e, rfl⟩ next
    · rintro e ⟨⟩
      exact refuses.errorClass_eq

/-- A number that eight octets hold is read back from its written form wherever it stands, and from no fewer
octets; one that is negative is not written. What is read of any octets is absent, refused or a number as they
begin, and the number could not be written in more octets than it was read from. -/
theorem length_exact (v : Int) (payload : Bytes) (offset : Nat) :
    (v < 0 → Encoding.lengthInt v = .error (.negativeLength v)) ∧
    (0 ≤ v → v ≤ 0xFFFFFFFFFFFFFFFF → ∃ b, Encoding.lengthInt v = .ok b ∧
      (∀ before behind : Bytes, lengthInt (.atOffset (before ++ b ++ behind) before.length) =
        .ok (some v.toNat) (.atOffset (before ++ b ++ behind) (before.length + b.length))) ∧
      ∀ b' : Bytes, b'.length < b.length → lengthInt.read b' ≠ .ok (some v.toNat)) ∧
    LengthAt payload offset := by
  refine ⟨fun hneg => if_pos hneg, fun hpos hle => ?_, lengthAt payload offset⟩
  obtain ⟨n, rfl, hn⟩ : ∃ n : Nat, v = n ∧ n ≤ 0xFFFFFFFFFFFFFFFF := exists_nat ⟨hpos, hle⟩
  refine ⟨Encoding.length n, if_neg (by omega), ?_, ?_⟩
  · intro before behind
    have hin : (Cursor.atOffset (before ++ Encoding.length n ++ behind) before.length).Inside :=
      Cursor.inside_atOffset (by simp only [List.length_append]; omega)
    rw [reads_length (Nat.lt_succ_of_le hn) _ behind hin (by simp [Cursor.atOffset]),
      Cursor.advance_atOffset]
    rfl
  · intro b' hlt hread
    rw [read_eq_outcome] at hread
    cases lengthRead (Cursor.inside_start b') with
    | @number b rest w next numeral run =>
      rw [run] at hread
      cases hread
      have hpart : b <+: b' := ⟨rest, next.symm⟩
      exact absurd (Nat.le_trans numeral.bounds.2 hpart.length_le) (Nat.not_le_of_lt hlt)
    | absent next run =>
      rw [run] at hread
      cases hread
    | refused next few left run refuses =>
      rw [run] at hread
      cases hread

/-- The first number that needs a mark, a form that is longer than the written one, and no octets at all. -/
theorem length_exact_of_marked :
    let payload : Bytes := [7, 0xFC, 0xFA, 0]
    Encoding.lengthInt (-1) = .error (.negativeLength (-1)) ∧
      Encoding.lengthInt 251 = .ok [0xFC, 0xFB, 0] ∧
      lengthInt (.atOffset [7, 0xFC, 0xFB, 0, 9] 1) =
        .ok (some 251) (.atOffset [7, 0xFC, 0xFB, 0, 9] 4) ∧
      lengthInt.read [0xFC, 0xFB] ≠ .ok (some 251) ∧
      (∃ b w, Numeral b w ∧ b.length = 3 ∧ w = 250 ∧ (Encoding.length w).length = 1 ∧
        outcome (lengthInt (.atOffset payload 1)) = .ok (some w)) ∧
      ∃ e, outcome (lengthInt (.atOffset payload 4)) = .error e := by
  intro payload
  obtain ⟨hneg, -, -⟩ := length_exact (-1) payload 1
  obtain ⟨-, hwritten, hlong⟩ := length_exact 251 payload 1
  obtain ⟨-, -, hnothing⟩ := length_exact 251 payload 4
  obtain ⟨b, hb, hread, hfew⟩ := hwritten (by decide) (by decide)
  have hshape : b = [0xFC, 0xFB, 0] := by
    cases hb
    rfl
  have hnone : ¬ NoLength payload 1 := by
    rintro (h | h)
    · have hnum : Numeral [0xFC, 0xFA, 0] 250 := .announced (b := [0xFA, 0]) rfl
      exact hnum.not_unfinished [] h
    · exact absurd h (by decide)
  obtain ⟨form, w, hform, hnum, hrun, -, -⟩ := hlong.number (by decide) hnone
  have hw : outcome (lengthInt (.atOffset payload 1)) = .ok (some 250) := rfl
  have hlen : final (lengthInt (.atOffset payload 1)) = .atOffset payload 4 := rfl
  rw [hrun] at hw hlen
  cases hw
  have hthree : 1 + form.length = 4 := congrArg Cursor.offset hlen
  subst hshape
  exact ⟨hneg (by decide), hb, hread [7] [9], hfew _ (by decide),
    ⟨form, 250, hnum, by omega, rfl, rfl, rfl⟩, hnothing.refused.2 (.inl .nothing)⟩

end SqlWire
