import Mathlib.Data.Bool.AllAny
import Mathlib.Tactic.Ring
import SqlWire.Text.Hex
import SqlWire.Text.Numeral
/-!
# Reading numerals

A number that is written in digits, in hexadecimal with so many of them or in decimal with as many as it needs, is
read back (`hexadecimal?_hexOf`, `decimal?_toString`).
-/
namespace SqlWire.Text

variable {base d : Nat} {ds : List Nat} {c : Char}

/-! ## Digits -/

def digit (d : Nat) : Char := hexDigitsUpper[d]?.getD '0'

theorem digit_mem (d : Nat) : digit d ∈ hexDigitsUpper := by
  unfold digit
  cases h : hexDigitsUpper[d]? with
  | none => decide
  | some c => exact List.mem_of_getElem? h

/-- A digit is neither a blank nor one of the marks that numerals are read with. -/
structure Unmarked (c : Char) : Prop where
  not_blank : isNumeralBlank c = false
  not_minus : c ≠ '-'
  not_plus : c ≠ '+'
  not_small_x : c ≠ 'x'
  not_large_x : c ≠ 'X'

theorem unmarked_digit (d : Nat) : Unmarked (digit d) := by
  have hall : ∀ c ∈ hexDigitsUpper,
      isNumeralBlank c = false ∧ c ≠ '-' ∧ c ≠ '+' ∧ c ≠ 'x' ∧ c ≠ 'X' := List.all_iff_forall_prop.1 rfl
  obtain ⟨h₁, h₂, h₃, h₄, h₅⟩ := hall _ (digit_mem d)
  exact ⟨h₁, h₂, h₃, h₄, h₅⟩

theorem digitIn_digit (hbase : base ≤ 16) (hd : d < base) : digitIn base (digit d) = some d := by
  have hall : ∀ d < 16, digitIn 16 (digit d) = some d := by decide +kernel
  have h := hall d (by omega)
  unfold digitIn at h ⊢
  rw [Option.filter_eq_some_iff] at h ⊢
  exact ⟨h.1, decide_eq_true hd⟩

theorem digitIn_underscore (base : Nat) : digitIn base '_' = none := by
  have h : digitValue? '_' = none := by decide +kernel
  unfold digitIn
  simp [h]

theorem digitsOnto_map (hbase : base ≤ 16) (hds : ∀ d ∈ ds, d < base) (done : List Nat) (ready : Bool)
    (hready : ready = true ∨ ds ≠ []) :
    digitsOnto base done ready (ds.map digit) = some (done.reverse ++ ds) := by
  induction ds generalizing done ready with
  | nil =>
    rcases hready with rfl | h
    · simp [digitsOnto]
    · exact absurd rfl h
  | cons d ds ih =>
    have hd := digitIn_digit hbase (hds d List.mem_cons_self)
    have hne : digit d ≠ '_' := by
      intro h
      rw [h, digitIn_underscore] at hd
      cases hd
    rw [List.map_cons, digitsOnto, if_neg hne, hd]
    simp only
    rw [ih (fun e he => hds e (List.mem_cons_of_mem d he)) _ _ (.inl rfl)]
    simp

theorem digits?_map (hbase : base ≤ 16) (hds : ∀ d ∈ ds, d < base) (hne : ds ≠ []) :
    digits? base (ds.map digit) = some ds :=
  digitsOnto_map hbase hds [] false (.inr hne)

theorem ofDigits_concat (base : Nat) (ds : List Nat) (d : Nat) :
    ofDigits base (ds ++ [d]) = ofDigits base ds * base + d := by
  simp [ofDigits]

/-! ## Numerals -/

theorem dropWhile_blank_map (ds : List Nat) : (ds.map digit).dropWhile isNumeralBlank = ds.map digit := by
  cases ds with
  | nil => rfl
  | cons d ds => exact List.dropWhile_cons_of_neg (by simp [(unmarked_digit d).not_blank])

theorem trimNumeral_map (ds : List Nat) : trimNumeral (ds.map digit) = ds.map digit := by
  unfold trimNumeral
  rw [dropWhile_blank_map, ← List.map_reverse, dropWhile_blank_map, ← List.map_reverse, List.reverse_reverse]

theorem takeSign_map (ds : List Nat) : takeSign (ds.map digit) = (false, ds.map digit) := by
  cases ds with
  | nil => rfl
  | cons d ds =>
    have h := unmarked_digit d
    rw [List.map_cons, takeSign]
    · intro rest heq
      exact h.not_minus (List.cons.inj heq).1
    · intro rest heq
      exact h.not_plus (List.cons.inj heq).1

theorem takeHexPrefix_map (ds : List Nat) : takeHexPrefix (ds.map digit) = ds.map digit := by
  match ds with
  | [] => rfl
  | [d] => rfl
  | d :: e :: ds =>
    have h := unmarked_digit e
    simp [takeHexPrefix, h.not_small_x, h.not_large_x]

theorem hexadecimal?_map (hds : ∀ d ∈ ds, d < 16) (hne : ds ≠ []) :
    hexadecimal? (ds.map digit) = some (ofDigits 16 ds : Int) := by
  unfold hexadecimal?
  rw [trimNumeral_map, takeSign_map]
  simp only
  rw [takeHexPrefix_map, digits?_map (Nat.le_refl 16) hds hne]
  rfl

theorem decimal?_map (hds : ∀ d ∈ ds, d < 10) (hne : ds ≠ []) (hlen : ds.length ≤ maxDecimalDigits) :
    decimal? (ds.map digit) = some (ofDigits 10 ds : Int) := by
  unfold decimal?
  rw [trimNumeral_map, takeSign_map]
  simp only
  rw [digits?_map (by decide) hds hne]
  exact if_pos hlen

/-! ## What is written -/

theorem exists_digits_hexOf (width n : Nat) : ∃ ds, hexOf hexDigitsUpper width n = ds.map digit ∧
    ds.length = width ∧ (∀ d ∈ ds, d < 16) ∧ ofDigits 16 ds = n % 16 ^ width := by
  induction width generalizing n with
  | zero => exact ⟨[], rfl, rfl, by simp, by simp [ofDigits, Nat.mod_one]⟩
  | succ width ih =>
    obtain ⟨ds, hds, hlen, hlt, hvalue⟩ := ih (n / 16)
    refine ⟨ds ++ [n % 16], ?_, by simp [hlen], ?_, ?_⟩
    · rw [hexOf, hds, List.map_append]
      rfl
    · intro d hd
      rcases List.mem_append.1 hd with hd | hd
      · exact hlt d hd
      · rw [List.mem_singleton.1 hd]
        exact Nat.mod_lt n (by decide)
    · rw [ofDigits_concat, hvalue, Nat.pow_succ, Nat.mul_comm (16 ^ width), Nat.mod_mul, Nat.mul_comm, Nat.add_comm]

theorem exists_digits_toDigits (n : Nat) : ∃ ds, Nat.toDigits 10 n = ds.map digit ∧ ds ≠ [] ∧
    (∀ d ∈ ds, d < 10) ∧ ofDigits 10 ds = n := by
  have hchar : ∀ d < 10, Nat.digitChar d = digit d := by decide
  -- on the number, of which the last digit is taken away
  induction n using Nat.strongRecOn with
  | ind n ih =>
    by_cases hn : n < 10
    · refine ⟨[n], ?_, by simp, by simpa using hn, by simp [ofDigits]⟩
      rw [Nat.toDigits_of_lt_base hn, hchar n hn]
      rfl
    · obtain ⟨ds, hds, -, hlt, hvalue⟩ := ih (n / 10) (by omega)
      have hlast : n % 10 < 10 := Nat.mod_lt n (by decide)
      refine ⟨ds ++ [n % 10], ?_, by simp, ?_, ?_⟩
      · rw [Nat.toDigits_of_base_le (by decide) (by omega), hds, hchar _ hlast, List.map_append]
        rfl
      · intro d hd
        rcases List.mem_append.1 hd with hd | hd
        · exact hlt d hd
        · rwa [List.mem_singleton.1 hd]
      · rw [ofDigits_concat, hvalue]
        omega

/-- Of a number in so many hexadecimal digits what they hold is read back. -/
theorem hexadecimal?_hexOf {width : Nat} (hwidth : 0 < width) (n : Nat) :
    hexadecimal? (hexOf hexDigitsUpper width n) = some ((n % 16 ^ width : Nat) : Int) := by
  obtain ⟨ds, hds, hlen, hlt, hvalue⟩ := exists_digits_hexOf width n
  rw [hds, hexadecimal?_map hlt (List.ne_nil_of_length_pos (by omega)), hvalue]

theorem toList_toString (n : Nat) : (toString n).toList = Nat.toDigits 10 n := Nat.toList_repr

theorem isDigit_of_mem_toString {n : Nat} {c : Char} (hc : c ∈ (toString n).toList) : c.isDigit = true := by
  rw [toList_toString] at hc
  exact Nat.isDigit_of_mem_toDigits (by decide) (by decide) hc

/-- A number in decimal is read back, unless it is a very long one. -/
theorem decimal?_toString {n : Nat} (hn : n < 10 ^ maxDecimalDigits) :
    decimal? (toString n).toList = some (n : Int) := by
  have hlength : (Nat.toDigits 10 n).length ≤ maxDecimalDigits :=
    (Nat.length_toDigits_le_iff (by decide) (by decide)).2 hn
  obtain ⟨ds, hds, hne, hlt, hvalue⟩ := exists_digits_toDigits n
  rw [hds, List.length_map] at hlength
  rw [toList_toString, hds, decimal?_map hlt hne hlength, hvalue]

end SqlWire.Text
