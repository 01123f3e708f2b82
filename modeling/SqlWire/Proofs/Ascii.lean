import SqlWire.Text.Blank
import SqlWire.Text.Case
/-!
# Visible ASCII

The characters from the space to the tilde. Only one of them is a blank, and they are lowered one by one.
-/
namespace SqlWire.Text

variable {c : Char} {cs : List Char}

/-- ASCII from the space to the tilde. -/
def Visible (c : Char) : Prop := 0x20 ≤ c.toNat ∧ c.toNat ≤ 0x7E

instance : DecidablePred Visible := fun _ => inferInstanceAs (Decidable (_ ∧ _))

/-- What holds for each number of a visible character holds for these characters. -/
theorem Visible.rec_on_number {P : Char → Prop} (h : ∀ n < 0x7F, 0x20 ≤ n → P (Char.ofNat n)) (hc : Visible c) :
    P c := by
  have hP := h c.toNat (Nat.lt_succ_of_le hc.2) hc.1
  rwa [Char.ofNat_toNat] at hP

theorem Visible.isBlank_iff (hc : Visible c) : isBlank c = true ↔ c = ' ' := by
  apply hc.rec_on_number
  decide +kernel

theorem Visible.not_blank (hc : Visible c) (hne : c ≠ ' ') : isBlank c = false := by
  rw [Bool.eq_false_iff]
  exact fun hblank => hne (hc.isBlank_iff.1 hblank)

theorem Visible.ne_newline (hc : Visible c) : c ≠ '\n' := by
  rintro rfl
  exact absurd hc (by decide)

theorem visible_of_between {low high : Char} (hlow : 0x20 ≤ low.toNat) (hhigh : high.toNat ≤ 0x7E)
    (hc : (decide (c.val ≥ low.val) && decide (c.val ≤ high.val)) = true) : Visible c := by
  rw [Bool.and_eq_true, decide_eq_true_eq, decide_eq_true_eq] at hc
  exact ⟨Nat.le_trans hlow (UInt32.le_iff_toNat_le.1 hc.1), Nat.le_trans (UInt32.le_iff_toNat_le.1 hc.2) hhigh⟩

theorem visible_of_isLower (hc : c.isLower = true) : Visible c :=
  visible_of_between (show 0x20 ≤ 'a'.toNat by decide) (show 'z'.toNat ≤ 0x7E by decide) hc

theorem visible_of_isDigit (hc : c.isDigit = true) : Visible c :=
  visible_of_between (show 0x20 ≤ '0'.toNat by decide) (show '9'.toNat ≤ 0x7E by decide) hc

/-! ## Small letters -/

theorem smallForm_of_ascii (hc : c.toNat < 0x80) (before rest : List Char) :
    smallForm before c rest = [smallLetter c] := by
  have hsigma : c ≠ 'Σ' := by
    rintro rfl
    exact absurd hc (by decide)
  have hdotted : c ≠ 'İ' := by
    rintro rfl
    exact absurd hc (by decide)
  unfold smallForm
  rw [if_neg hsigma, if_neg hdotted]

theorem lowerOnto_of_ascii (hcs : ∀ c ∈ cs, c.toNat < 0x80) (done before : List Char) :
    lowerOnto done before cs = done.reverse ++ cs.map smallLetter := by
  induction cs generalizing done before with
  | nil => simp [lowerOnto]
  | cons c cs ih =>
    rw [lowerOnto, smallForm_of_ascii (hcs c List.mem_cons_self),
      ih fun d hd => hcs d (List.mem_cons_of_mem c hd)]
    simp

theorem lower_of_ascii (hcs : ∀ c ∈ cs, c.toNat < 0x80) : lower cs = cs.map smallLetter :=
  lowerOnto_of_ascii hcs [] []

end SqlWire.Text
