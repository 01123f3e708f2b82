/-!
# Octet strings

Octet strings and the little-endian integers in them. `value_ofInt` says that writing an integer
and reading it back reduces it modulo 256 to the power of the width, and `ofInt_value` that reading loses nothing.
-/
namespace SqlWire

abbrev Bytes := List UInt8

namespace Bytes

/-- The octet with the low eight bits of an integer. -/
def lowOctet (v : Int) : UInt8 := UInt8.ofNat (v % 256).toNat

/-- The `width` low octets of an integer in two's complement, least significant first. -/
def ofInt : (width : Nat) → (v : Int) → Bytes
  | 0, _ => []
  | width + 1, v => lowOctet v :: ofInt width (v / 256)

/-- The number that the octets stand for, least significant first. -/
def value (b : Bytes) : Nat := b.foldr (fun octet n => octet.toNat + 256 * n) 0

/-- Octet by octet exclusive or, as long as both last. -/
def xor (a b : Bytes) : Bytes := a.zipWith (· ^^^ ·) b

@[simp] theorem value_nil : value [] = 0 := rfl

@[simp] theorem value_cons (x : UInt8) (b : Bytes) : value (x :: b) = x.toNat + 256 * value b := rfl

@[simp] theorem length_ofInt (width : Nat) (v : Int) : (ofInt width v).length = width := by
  induction width generalizing v with
  | zero => rfl
  | succ w ih => simp [ofInt, ih]

theorem toNat_lowOctet (v : Int) : ((lowOctet v).toNat : Int) = v % 256 := by
  have h : (v % 256).toNat < 256 := by omega
  rw [lowOctet, UInt8.toNat_ofNat', Nat.mod_eq_of_lt (by simpa using h)]
  omega

theorem lowOctet_toNat_add (x : UInt8) (n : Nat) : lowOctet ((x.toNat + 256 * n : Nat) : Int) = x := by
  apply UInt8.toNat_inj.1
  have h := toNat_lowOctet ((x.toNat + 256 * n : Nat) : Int)
  have := x.toNat_lt
  omega

theorem value_ofInt (width : Nat) (v : Int) :
    (value (ofInt width v) : Int) = v % (Nat.pow 256 width : Nat) := by
  induction width generalizing v with
  | zero => exact (Int.emod_one v).symm
  | succ w ih =>
    have hp : 0 < Nat.pow 256 w := Nat.pow_pos (by decide)
    have hs : Nat.pow 256 (w + 1) = Nat.pow 256 w * 256 := rfl
    rw [ofInt, value_cons, Int.natCast_add, Int.natCast_mul, toNat_lowOctet, ih, hs,
      Int.natCast_mul]
    generalize Nat.pow 256 w = p at hp
    have hlo := Int.emod_nonneg (v / 256) (show (p : Int) ≠ 0 by omega)
    have hhi := Int.emod_lt_of_pos (v / 256) (show (0 : Int) < p by omega)
    have hq := Int.emod_add_mul_ediv (v / 256) p
    generalize v / 256 % (p : Int) = r at hlo hhi hq
    have e : v = (v % 256 + 256 * r) + (p * 256) * (v / 256 / p) := by
      rw [Int.mul_comm (p : Int) 256, Int.mul_assoc]
      omega
    have hm := Int.add_mul_emod_self_left (v % 256 + 256 * r) (p * 256) (v / 256 / p)
    have hr : (v % 256 + 256 * r) % (p * 256) = v % 256 + 256 * r :=
      Int.emod_eq_of_lt (by omega) (by omega)
    rw [← e, hr] at hm
    exact hm.symm

theorem ofInt_ne_nil {width : Nat} (hw : 0 < width) (v : Int) : ofInt width v ≠ [] := by
  intro h
  have := congrArg List.length h
  simp at this
  omega

theorem value_ofInt_of_lt {width v : Nat} (hv : v < Nat.pow 256 width) :
    value (ofInt width v) = v := by
  have := Bytes.value_ofInt width v
  rw [Int.emod_eq_of_lt (by omega) (by omega)] at this
  omega

theorem value_lt (b : Bytes) : value b < Nat.pow 256 b.length := by
  induction b with
  | nil => exact Nat.zero_lt_one
  | cons x b ih =>
    have hs : Nat.pow 256 (b.length + 1) = Nat.pow 256 b.length * 256 := rfl
    have := x.toNat_lt
    rw [value_cons, List.length_cons, hs]
    omega

theorem ofInt_value (b : Bytes) : ofInt b.length (value b) = b := by
  induction b with
  | nil => rfl
  | cons x b ih =>
    rw [List.length_cons, value_cons, ofInt, lowOctet_toNat_add]
    have : ((x.toNat + 256 * value b : Nat) : Int) / 256 = (value b : Int) := by
      have := x.toNat_lt
      omega
    rw [this, ih]

end Bytes

end SqlWire
