import SqlWire.Proofs.Lengths
/-!
# Reads one after the other

A cursor may be asked for one read after the other, whatever came of those before. Each read either takes some
octets, and gives what it would give if these were all there are, or it fails for want of octets or of a length
(`Goes`). So no run of reads leaves the payload, and a read that fails stays where it was or behind the length
that it came by (`follows_of_run`).
-/
namespace SqlWire

open Stateful

namespace Decoder

variable {α β : Type} {d : Decoder α} {c : Cursor} {a : α} {b rest : Bytes} {n slack : Nat}

/-! ## One read -/

/-- The read passes over `n` octets. What it gives it gives of these octets alone. Where it fails it has passed
over `slack` octets at most, and what it needs does not come next. -/
structure Goes (d : Decoder α) (slack : Nat) (c : Cursor) (n : Nat) : Prop where
  left : n ≤ c.rest.length
  final_eq : final (d c) = c.advance n
  alone : ∀ a, outcome (d c) = .ok a →
    d (.start (c.rest.take n)) = .ok a (Cursor.start (c.rest.take n)).toEnd
  refuses : ∀ e, outcome (d c) = .error e → n ≤ slack ∧ Refuses (c.advance n) e

theorem Goes.map (f : α → β) (h : Goes d slack c n) : Goes (f <$> d) slack c n := by
  obtain ⟨houtcome, hfinal⟩ := bind_pure (x := d) (s := c) f
  cases ho : outcome (d c) with
  | ok a =>
    have hmap : outcome ((f <$> d) c) = .ok (f a) := houtcome.trans (by rw [ho]; rfl)
    refine ⟨h.left, hfinal.trans h.final_eq, fun v hv => ?_, fun e he => nomatch hmap.symm.trans he⟩
    obtain rfl := Except.ok.inj (hmap.symm.trans hv)
    exact bind_of_run (h.alone a ho)
  | error e' =>
    have hmap : outcome ((f <$> d) c) = .error e' := houtcome.trans (by rw [ho]; rfl)
    refine ⟨h.left, hfinal.trans h.final_eq, fun v hv => (nomatch hmap.symm.trans hv), fun e he => ?_⟩
    obtain rfl := Except.error.inj (hmap.symm.trans he)
    exact h.refuses _ ho

theorem goes_of_reads (h : Reads d b a) (hc : c.Inside) (hrest : c.rest = b ++ rest) :
    Goes d slack c b.length := by
  have hrun := h c rest hc hrest
  have htake : c.rest.take b.length = b := by simp [hrest]
  refine ⟨by simp [hrest], by rw [hrun]; rfl, fun v hv => ?_, fun e he => ?_⟩
  · rw [hrun] at hv
    cases hv
    rw [htake, toEnd_eq_advance (Cursor.inside_start b)]
    exact h _ [] (Cursor.inside_start b) (List.append_nil b).symm
  · rw [hrun] at he
    cases he

theorem goes_of_error {e : DecodeError} (hrun : d c = .error e (c.advance n)) (hleft : n ≤ c.rest.length)
    (hfew : n ≤ slack) (href : Refuses (c.advance n) e) : Goes d slack c n := by
  refine ⟨hleft, by rw [hrun]; rfl, fun v hv => ?_, fun e' he => ?_⟩
  · rw [hrun] at hv
    cases hv
  · rw [hrun] at he
    cases he
    exact ⟨hfew, href⟩

/-- A read that takes all that is left. -/
theorem goes_toEnd (h : ∀ c : Cursor, c.rest = b → d c = .ok a c.toEnd) (hc : c.Inside) (hrest : c.rest = b) :
    Goes d slack c b.length := by
  have hrun := h c hrest
  have hend := toEnd_eq_advance hc
  rw [hrest] at hend
  refine ⟨Nat.le_of_eq (by rw [hrest]), by rw [hrun, hend]; rfl, fun v hv => ?_, fun e he => ?_⟩
  · rw [hrun] at hv
    cases hv
    rw [hrest, List.take_length]
    exact h _ rfl
  · rw [hrun] at he
    cases he

/-! ## Reads of a fixed size -/

/-- The read takes `n` octets, whichever they are, and none where there are fewer. -/
structure Fixed (d : Decoder α) (n : Nat) : Prop where
  reads : ∀ b : Bytes, b.length = n → ∃ a, Reads d b a
  fails : ∀ c : Cursor, c.Inside → c.rest.length < n → d c = .error (.tooShort n c.offset c.size) c

theorem Fixed.goes (h : Fixed d n) (hc : c.Inside) : ∃ m, Goes d 0 c m := by
  rcases Nat.lt_or_ge c.rest.length n with hlt | hle
  · exact ⟨0, goes_of_error (h.fails c hc hlt) (Nat.zero_le _) (Nat.le_refl 0) (.tooShort hlt)⟩
  · obtain ⟨a, ha⟩ := h.reads _ (List.length_take_of_le hle)
    exact ⟨_, goes_of_reads ha hc (List.take_append_drop n c.rest).symm⟩

theorem Fixed.map (f : α → β) (h : Fixed d n) : Fixed (f <$> d) n where
  reads b hb := by
    obtain ⟨a, ha⟩ := h.reads b hb
    exact ⟨f a, ha.map f⟩
  fails c hc hlt := bind_eq_error.2 (.inl (h.fails c hc hlt))

theorem fixed_skip (n : Nat) : Fixed (skip n) n where
  reads b hb := ⟨(), hb ▸ reads_skip b⟩
  fails _ hc hlt := require_bind_of_lt _ hc hlt

theorem fixed_octets (n : Nat) : Fixed (octets n) n where
  reads b hb := ⟨b, hb ▸ reads_octets b⟩
  fails _ hc hlt := require_bind_of_lt _ hc hlt

theorem fixed_fixedInt (hn : 0 < n) : Fixed (fixedInt n) n where
  reads b hb := ⟨Bytes.value b, hb ▸ reads_fixedInt (List.ne_nil_of_length_pos (hb ▸ hn))⟩
  fails _ hc hlt := require_bind_of_lt _ hc hlt

theorem fixed_fixedText (n : Nat) : Fixed (fixedText n) n := (fixed_octets n).map Utf8.decode

/-! ## Lengths and texts -/

theorem goes_lengthInt (hc : c.Inside) : ∃ n, Goes lengthInt 1 c n := by
  cases lengthRead hc with
  | number next numeral => exact ⟨_, goes_of_reads (reads_numeral numeral) hc next⟩
  | absent next => exact ⟨_, goes_of_reads reads_null hc next⟩
  | refused _ few left run refuses => exact ⟨_, goes_of_error run left few refuses⟩

/-- The length may be there, and the text not. -/
theorem goes_nullableText (hc : c.Inside) : ∃ n, Goes nullableText 9 c n := by
  cases lengthRead hc with
  | @number b rest w next numeral run =>
    have hlen : b.length ≤ c.rest.length := by simp [next]
    have hin := Cursor.inside_advance hc hlen
    have hrest : (c.advance b.length).rest = rest := by simp [Cursor.advance, next]
    rcases Nat.lt_or_ge rest.length w with hlt | hle
    · have htext : (some <$> fixedText w) (c.advance b.length) = .error _ _ :=
        ((fixed_fixedText w).map some).fails _ hin (by rwa [hrest])
      have hfew : b.length ≤ 9 := numeral.length_le
      exact ⟨b.length, goes_of_error (bind_eq_error.2 (.inr ⟨some w, _, run, htext⟩)) hlen hfew
        (.tooShort (by rwa [hrest]))⟩
    · obtain ⟨s, hs⟩ := ((fixed_fixedText w).map some).reads _ (List.length_take_of_le hle)
      have hsplit : c.rest = (b ++ rest.take w) ++ rest.drop w := by
        rw [next, List.append_assoc, List.take_append_drop]
      exact ⟨_, goes_of_reads ((reads_numeral numeral).bind hs) hc hsplit⟩
  | @absent rest next run =>
    have hnone : Reads nullableText ([Marker.null] ++ []) none := reads_null.bind (reads_pure none)
    exact ⟨_, goes_of_reads hnone hc next⟩
  | refused _ few left run refuses =>
    exact ⟨_, goes_of_error (bind_eq_error.2 (.inl run)) left (Nat.le_trans few (by decide)) refuses⟩

theorem goes_terminatedText (hc : c.Inside) : ∃ n, Goes terminatedText 0 c n := by
  by_cases hzero : 0 ∈ c.rest
  · obtain ⟨b, rest, hrest, hb⟩ := List.eq_append_cons_of_mem hzero
    have hsplit : c.rest = (b ++ [0]) ++ rest := by rw [hrest, List.append_assoc]; rfl
    exact ⟨_, goes_of_reads (reads_upTo_zero hb) hc hsplit⟩
  · exact ⟨_, goes_toEnd (fun c' hrest => hrest ▸ terminatedText_of_zero_not_mem (hrest ▸ hzero)) hc rfl⟩

theorem goes_textToEnd (hc : c.Inside) : ∃ n, Goes textToEnd 0 c n :=
  ⟨_, goes_toEnd (b := c.rest) (a := lastText c.rest) (fun _ hrest => hrest ▸ rfl) hc rfl⟩

end Decoder

/-! ## All reads -/

open Decoder

/-- A read that a cursor can be asked for. No integer is read from no octets. -/
inductive Read where
  | number (size : Nat) (positive : 1 ≤ size)
  | filler (size : Nat)
  | octets (size : Nat)
  | text (size : Nat)
  | length
  | counted
  | terminated
  | toEnd

/-- What a read gives. -/
inductive Reading where
  | nothing
  | number (v : Option Nat)
  | octets (b : Bytes)
  | text (s : Option String)

namespace Read

def perform : Read → Decoder Reading
  | .number n _ => (fun v => .number (some v)) <$> fixedInt n
  | .filler n => (fun _ => .nothing) <$> skip n
  | .octets n => .octets <$> Decoder.octets n
  | .text n => (fun s => .text (some s)) <$> fixedText n
  | .length => .number <$> lengthInt
  | .counted => .text <$> nullableText
  | .terminated => (fun s => .text (some s)) <$> terminatedText
  | .toEnd => (fun s => .text (some s)) <$> textToEnd

/-- How many octets the read may have passed over when it fails. -/
def slack : Read → Nat
  | .length => 1
  | .counted => 9
  | _ => 0

theorem goes (r : Read) {c : Cursor} (hc : c.Inside) : ∃ n, Goes r.perform r.slack c n := by
  cases r with
  | number n hn => exact ((fixed_fixedInt hn).map _).goes hc
  | filler n => exact ((fixed_skip n).map _).goes hc
  | octets n => exact ((fixed_octets n).map _).goes hc
  | text n => exact ((fixed_fixedText n).map _).goes hc
  | length => exact (goes_lengthInt hc).imp fun _ h => h.map _
  | counted => exact (goes_nullableText hc).imp fun _ h => h.map _
  | terminated => exact (goes_terminatedText hc).imp fun _ h => h.map _
  | toEnd => exact (goes_textToEnd hc).imp fun _ h => h.map _

/-- The octets of a payload from one place to another. -/
def window (payload : Bytes) (place place' : Nat) : Bytes := (payload.drop place).take (place' - place)

/-- What becomes of a read at a place of a payload, from which it goes to the second place. -/
structure Follows (payload : Bytes) (r : Read) (place place' : Nat) : Prop where
  final_eq : final (r.perform (.atOffset payload place)) = .atOffset payload place'
  forward : place ≤ place'
  inside : place' ≤ payload.length
  /-- What it gives, the octets between the two places give alone, and all of them are taken. -/
  alone : ∀ v, outcome (r.perform (.atOffset payload place)) = .ok v →
    r.perform (.start (window payload place place')) =
      .ok v (Cursor.start (window payload place place')).toEnd
  malformed : ∀ e, outcome (r.perform (.atOffset payload place)) = .error e →
    (Failure.malformed e).errorClass? = some .protocol ∧ Refuses (.atOffset payload place') e
  failed : ∀ e, outcome (r.perform (.atOffset payload place)) = .error e → place' ≤ place + r.slack
  sure : r = .terminated ∨ r = .toEnd →
    ∃ v, outcome (r.perform (.atOffset payload place)) = .ok v

variable {payload : Bytes}

theorem follows (r : Read) {place : Nat} (hplace : place ≤ payload.length) :
    ∃ place', Follows payload r place place' := by
  obtain ⟨n, h⟩ := r.goes (Cursor.inside_atOffset hplace)
  have hleft : n ≤ payload.length - place := by simpa [Cursor.atOffset] using h.left
  have hsub : place + n - place = n := Nat.add_sub_cancel_left place n
  refine ⟨place + n, ?_, Nat.le_add_right place n, by omega, fun v hv => ?_, fun e he => ?_, fun e he => ?_,
    fun hsure => ?_⟩
  · rw [h.final_eq, Cursor.advance_atOffset]
  · have halone := h.alone v hv
    rw [window, hsub]
    exact halone
  · obtain ⟨-, href⟩ := h.refuses e he
    rw [Cursor.advance_atOffset] at href
    exact ⟨href.errorClass_eq, href⟩
  · exact Nat.add_le_add_left (h.refuses e he).1 place
  · rcases hsure with rfl | rfl <;> exact ⟨_, rfl⟩

/-- The cursor stands in the payload and not in front of the place. -/
def Behind (payload : Bytes) (start : Nat) (c : Cursor) : Prop :=
  ∃ place, start ≤ place ∧ place ≤ payload.length ∧ c = .atOffset payload place

/-- Wherever in a payload a cursor starts, and whatever is read of it, each read of the run goes on in the payload
from where the one before left it, and gives what the octets give that it passes over. It fails only where the payload
is malformed, and then in front of what it was to read; a text up to an end is always read. -/
theorem follows_of_run {start : Nat} (hstart : start ≤ payload.length) (done : List Read) (next : Read) :
    ∃ place place', start ≤ place ∧ (runAll perform done (.atOffset payload start)).2 = .atOffset payload place ∧
      Follows payload next place place' := by
  have hstep : ∀ (r : Read) (c : Cursor), Behind payload start c →
      Behind payload start (final (r.perform c)) := by
    rintro r c ⟨place, hle, hin, rfl⟩
    obtain ⟨place', h⟩ := r.follows hin
    exact ⟨place', Nat.le_trans hle h.forward, h.inside, h.final_eq⟩
  obtain ⟨place, hle, hin, hplace⟩ :=
    runAll_keeps hstep done ⟨start, Nat.le_refl start, hstart, rfl⟩
  obtain ⟨place', h⟩ := next.follows hin
  exact ⟨place, place', hle, hplace, h⟩

/-- A text that is cut behind its length, then a number, and then a number of which the first octet only is there. -/
theorem follows_of_run_of_failures :
    let payload : Bytes := [5, 1, 0xFE, 1]
    Follows payload .length 2 3 ∧ ∃ place, (runAll perform [.counted, .length] (.atOffset payload 0)).2 =
        .atOffset payload place ∧ place = 2 ∧
      ∃ e, outcome (perform .length (.atOffset payload place)) = .error e ∧
        (Failure.malformed e).errorClass? = some .protocol ∧ Refuses (.atOffset payload 3) e := by
  intro payload
  obtain ⟨place, place', -, hrun, h⟩ :=
    @follows_of_run payload 0 (Nat.zero_le _) [.counted, .length] .length
  have hplace : place = 2 := (congrArg Cursor.offset hrun).symm
  subst hplace
  have hplace' : place' = 3 := (congrArg Cursor.offset h.final_eq).symm
  subst hplace'
  obtain ⟨hclass, href⟩ := h.malformed _ rfl
  exact ⟨h, 2, hrun, rfl, _, rfl, hclass, href⟩

end Read

end SqlWire
