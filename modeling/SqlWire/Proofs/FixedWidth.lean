import Mathlib.Algebra.BigOperators.Fin
import Mathlib.Tactic.Ring
import SqlWire.Proofs.Lengths
import SqlWire.Wire.SignedCursor
/-!
# Integers of a fixed width

Integers are written by shifting them out octet by octet and read by shifting the octets in, the last one first
(`getElem?_ofInt`, `value_cons_eq_or`). Both ways lose nothing but what the width cannot hold, so the integers from zero
up to a power of 256 and the strings of as many octets are each other's images, and where an integer is read in
a payload it is the one that its octets stand for (`fixedInt_inverse`).
-/
namespace SqlWire

open Stateful

namespace Bytes

variable {width i : Nat}

/-! ## Shifting -/

theorem ediv_shiftRight (v : Int) (i : Nat) : (v / 256) >>> (8 * i) = v >>> (8 * (i + 1)) := by
  have hpow : (2 : Nat) ^ (8 * (i + 1)) = 256 * 2 ^ (8 * i) := by
    rw [Nat.mul_succ, Nat.pow_add, Nat.mul_comm]
  rw [Int.shiftRight_eq_div_pow, Int.shiftRight_eq_div_pow, hpow, Int.natCast_mul,
    Int.ediv_ediv_of_nonneg (by decide)]
  rfl

/-- The octets are the low ones of the integer shifted right by none, one, two and so on. -/
theorem getElem?_ofInt (v : Int) (hi : i < width) :
    (ofInt width v)[i]? = some (lowOctet (v >>> (8 * i))) := by
  induction width generalizing v i with
  | zero => omega
  | succ width ih =>
    cases i with
    | zero => simp [ofInt]
    | succ i =>
      have h := ih (v / 256) (Nat.lt_of_succ_lt_succ hi)
      rw [ediv_shiftRight] at h
      simpa [ofInt] using h

theorem foldr_or_shiftLeft (b : Bytes) :
    b.foldr (fun x n => (n ||| x.toNat) <<< 8) 0 = value b <<< 8 := by
  induction b with
  | nil => rfl
  | cons x b ih =>
    have hx : x.toNat < 2 ^ 8 := x.toNat_lt
    rw [List.foldr_cons, ih, value_cons, ← Nat.shiftLeft_add_eq_or_of_lt hx, Nat.shiftLeft_eq (value b)]
    congr 1
    omega

/-- The number that octets come to when they are shifted in, the last one first. -/
theorem value_cons_eq_or (x : UInt8) (b : Bytes) :
    value (x :: b) = b.foldr (fun y n => (n ||| y.toNat) <<< 8) 0 ||| x.toNat := by
  have hx : x.toNat < 2 ^ 8 := x.toNat_lt
  rw [foldr_or_shiftLeft, ← Nat.shiftLeft_add_eq_or_of_lt hx, Nat.shiftLeft_eq, value_cons]
  omega

theorem value_eq_sum (b : Bytes) : value b = ∑ i : Fin b.length, b[i].toNat * 256 ^ i.val := by
  induction b with
  | nil => rfl
  | cons x b ih =>
    show _ = ∑ i : Fin (b.length + 1), (x :: b)[i].toNat * 256 ^ i.val
    rw [value_cons, ih, Fin.sum_univ_succ, Finset.mul_sum]
    simp only [Fin.getElem_fin, Fin.val_zero, List.getElem_cons_zero, pow_zero, mul_one, Fin.val_succ,
      List.getElem_cons_succ, pow_succ]
    congr 1
    apply Finset.sum_congr rfl
    intro i _
    ring

end Bytes

/-! ## Reading at a place -/

namespace SignedCursor

variable {payload : Bytes}

theorem toCursor_natCast (offset : Nat) : toCursor ⟨payload, offset⟩ = .atOffset payload offset := by
  unfold toCursor before
  rw [if_neg (Int.not_lt.2 (Int.natCast_nonneg offset))]
  rfl

theorem slice_natCast (offset size : Nat) :
    slice ⟨payload, offset⟩ offset (offset + size) = (payload.drop offset).take size := by
  unfold slice before
  rw [if_neg (by omega), if_neg (by omega), List.drop_take]
  congr 1
  omega

end SignedCursor

namespace SignedDecoder

variable {α : Type} {payload : Bytes} {size : Nat} {offset : Int}

theorem require_of_le {n : Int} (henough : offset + n ≤ payload.length) :
    require n ⟨payload, offset⟩ = .ok () ⟨payload, offset⟩ := if_pos henough

theorem sized_of_neg {n : Int} (d : Nat → Decoder α) (other : SignedDecoder α) (hneg : offset < 0) :
    sized n d other ⟨payload, offset⟩ = other ⟨payload, offset⟩ :=
  if_neg fun h => absurd h.1 (Int.not_le_of_gt hneg)

theorem sized_natCast (n offset : Nat) (d : Nat → Decoder α) (other : SignedDecoder α) :
    sized n d other ⟨payload, offset⟩ = ofDecoder (d n) ⟨payload, offset⟩ :=
  if_pos ⟨Int.natCast_nonneg offset, Int.natCast_nonneg n⟩

theorem skip_of_neg {n : Int} (hneg : offset < 0) (henough : offset + n ≤ payload.length) :
    skip n ⟨payload, offset⟩ = .ok () ⟨payload, offset + n⟩ := by
  unfold skip
  rw [sized_of_neg _ _ hneg]
  exact bind_of_run (require_of_le henough)

/-- What a read of an integer between two places comes to: the number in their octets, and the second place. -/
def between (payload : Bytes) (first last : Int) : EStateM.Result DecodeError SignedCursor Nat :=
  match Decoder.number (SignedCursor.slice ⟨payload, first⟩ first last) with
  | .ok n => .ok n ⟨payload, last⟩
  | .error e => .error e ⟨payload, first⟩

/-- Wherever the cursor stands, also in front of the payload, an integer is read in the octets up to where it goes. -/
theorem fixedInt_eq (hsize : 1 ≤ size) (henough : offset + size ≤ payload.length) :
    fixedInt size ⟨payload, offset⟩ = between payload offset (offset + size) := by
  unfold fixedInt
  rcases Int.lt_or_le offset 0 with hneg | hpos
  · have hget : (get : SignedDecoder SignedCursor) ⟨payload, offset⟩ =
        .ok ⟨payload, offset⟩ ⟨payload, offset⟩ := rfl
    rw [sized_of_neg _ _ hneg, bind_of_run hget, bind_of_run (require_of_le henough)]
    unfold between
    cases Decoder.number (SignedCursor.slice ⟨payload, offset⟩ offset (offset + size)) with
    | ok n => exact bind_of_run (skip_of_neg hneg henough)
    | error e => rfl
  · obtain ⟨start, rfl⟩ := Int.eq_ofNat_of_zero_le hpos
    have henough : start + size ≤ payload.length := by omega
    unfold between
    rw [sized_natCast, ofDecoder, SignedCursor.toCursor_natCast, Decoder.fixedInt_atOffset hsize henough,
      SignedCursor.slice_natCast, Decoder.number_of_ne_nil (Decoder.part_ne_nil hsize henough)]
    rfl

end SignedDecoder

/-! ## Both ways -/

/-- The octets that an integer is written in. Each is cut out of the integer by a shift, and they are read as what is
left of the integer when its width holds no more. -/
structure WrittenIn (size : Nat) (v : Int) (b : Bytes) : Prop where
  written : Encoding.fixedInt size v = .ok b
  length_eq : b.length = size
  octet : ∀ i, i < size → b[i]? = some (Bytes.lowOctet (v >>> (8 * i)))
  read_back : ∃ n : Nat, Decoder.number b = .ok n ∧ (n : Int) = v % 2 ^ (8 * size)

/-- The number that is read in octets: the sum of what they are worth, or all of them shifted in from the last one to
the first. In as many octets it is written as these. -/
structure ReadFrom (b : Bytes) (n : Nat) : Prop where
  number : Decoder.number b = .ok n
  sum : n = ∑ i : Fin b.length, b[i].toNat * 256 ^ i.val
  shifted : ∀ x rest, b = x :: rest → n = rest.foldr (fun y n => (n ||| y.toNat) <<< 8) 0 ||| x.toNat
  written_back : Encoding.fixedInt b.length n = .ok b

theorem writtenIn_ofInt {size : Nat} (hsize : 1 ≤ size) (v : Int) : WrittenIn size v (Bytes.ofInt size v) where
  written := rfl
  length_eq := Bytes.length_ofInt size v
  octet _ hi := Bytes.getElem?_ofInt v hi
  read_back := by
    have hpow : ((Nat.pow 256 size : Nat) : Int) = 2 ^ (8 * size) := by
      rw [pow_mul]
      norm_cast
    refine ⟨_, Decoder.number_of_ne_nil (Bytes.ofInt_ne_nil hsize v), ?_⟩
    rw [Bytes.value_ofInt, hpow]

theorem readFrom_value {b : Bytes} (hb : b ≠ []) : ReadFrom b (Bytes.value b) where
  number := Decoder.number_of_ne_nil hb
  sum := Bytes.value_eq_sum b
  shifted x rest h := by
    rw [h]
    exact Bytes.value_cons_eq_or x rest
  written_back := congrArg Except.ok (Bytes.ofInt_value b)

/-- Every integer is written in octets, of which its remainder is read, and any octets are those of the number that is
read in them. The same number is read wherever the octets stand in a payload, and they are passed over. -/
theorem fixedInt_inverse {size : Nat} (hsize : 1 ≤ size) :
    (∀ v : Int, ∃ b, WrittenIn size v b) ∧
    (∀ b : Bytes, b ≠ [] → ∃ n, ReadFrom b n) ∧
    (∀ (payload : Bytes) (offset : Nat), offset + size ≤ payload.length →
      ∃ n, ReadFrom ((payload.drop offset).take size) n ∧
        Decoder.fixedInt size (.atOffset payload offset) = .ok n (.atOffset payload (offset + size))) ∧
    ∀ (payload : Bytes) (offset : Int), offset + size ≤ payload.length →
      SignedDecoder.fixedInt size ⟨payload, offset⟩ =
        SignedDecoder.between payload offset (offset + size) := by
  refine ⟨fun v => ⟨_, writtenIn_ofInt hsize v⟩, fun b hb => ⟨_, readFrom_value hb⟩, ?_, ?_⟩
  · intro payload offset henough
    exact ⟨_, readFrom_value (Decoder.part_ne_nil hsize henough), Decoder.fixedInt_atOffset hsize henough⟩
  · intro payload offset henough
    exact SignedDecoder.fixedInt_eq hsize henough

/-- A negative integer, and the number that its octets are read as, at an offset and counted from the end. -/
theorem fixedInt_inverse_of_negative :
    let payload : Bytes := [7, 0xFE, 0xFF, 9]
    Encoding.fixedInt 2 (-2) = .ok [0xFE, 0xFF] ∧
      (65534 : Int) = (-2) % 2 ^ (8 * 2) ∧
      ReadFrom [0xFE, 0xFF] 65534 ∧
      Decoder.fixedInt 2 (.atOffset payload 1) = .ok 65534 (.atOffset payload 3) ∧
      SignedDecoder.fixedInt 2 ⟨payload, -3⟩ = .ok 65534 ⟨payload, -1⟩ := by
  intro payload
  obtain ⟨hwritten, hread, hplace, hsigned⟩ := @fixedInt_inverse 2 (by decide)
  obtain ⟨b, hb⟩ := hwritten (-2)
  have hoctets : b = [0xFE, 0xFF] := by
    cases hb.written
    rfl
  subst hoctets
  obtain ⟨n, hn, hmod⟩ := hb.read_back
  cases hn
  obtain ⟨m, hm⟩ := hread [0xFE, 0xFF] (by simp)
  cases hm.number
  obtain ⟨k, hk, hrun⟩ := hplace payload 1 (by decide)
  cases hk.number
  exact ⟨hb.written, hmod, hm, hrun, hsigned payload (-3) (by decide)⟩

end SqlWire
