import SqlWire.Text.Blank
/-!
# Trimming

A text is trimmed if no blank stands at either end of it (`Trimmed`). Trimming gives such a text, and from blanks
around a trimmed text it gives that text back (`trim_padded`).
-/
namespace SqlWire.Text

variable {α : Type} [Letter α] {xs l r s : List α} {x : α}

def Blanks (xs : List α) : Prop := ∀ x ∈ xs, looksBlank x

instance (xs : List α) : Decidable (Blanks xs) := decidable_of_iff (xs.all looksBlank) List.all_eq_true

/-- No blank stands at either end. -/
structure Trimmed (xs : List α) : Prop where
  head : ∀ x ∈ xs.head?, looksBlank x = false
  last : ∀ x ∈ xs.getLast?, looksBlank x = false

theorem trimmed_iff : Trimmed xs ↔
    xs.head?.all (!looksBlank ·) = true ∧ xs.getLast?.all (!looksBlank ·) = true := by
  simp only [Option.all_eq_true, Bool.not_eq_true']
  exact ⟨fun h => ⟨h.head, h.last⟩, fun h => ⟨h.1, h.2⟩⟩

instance (xs : List α) : Decidable (Trimmed xs) := decidable_of_iff' _ trimmed_iff

/-! ## At one end -/

theorem trimRight_eq (xs : List α) : trimRight xs = (trimLeft xs.reverse).reverse := rfl

theorem Blanks.reverse (h : Blanks l) : Blanks l.reverse := fun x hx => h x (List.mem_reverse.1 hx)

theorem Blanks.append (hl : Blanks l) (hr : Blanks r) : Blanks (l ++ r) :=
  fun x hx => (List.mem_append.1 hx).elim (hl x) (hr x)

theorem trimLeft_blanks_append (hl : Blanks l) (xs : List α) : trimLeft (l ++ xs) = trimLeft xs :=
  List.dropWhile_append_of_pos hl

theorem trimRight_append_blanks (hr : Blanks r) (xs : List α) : trimRight (xs ++ r) = trimRight xs := by
  rw [trimRight_eq, List.reverse_append, trimLeft_blanks_append hr.reverse, trimRight_eq]

theorem trimLeft_eq_self (h : ∀ x ∈ xs.head?, looksBlank x = false) : trimLeft xs = xs := by
  cases xs with
  | nil => rfl
  | cons x xs => exact List.dropWhile_cons_of_neg (by simp [h x rfl])

theorem trimRight_eq_self (h : ∀ x ∈ xs.getLast?, looksBlank x = false) : trimRight xs = xs := by
  have hrev : trimLeft xs.reverse = xs.reverse := trimLeft_eq_self (by rwa [List.head?_reverse])
  rw [trimRight_eq, hrev, List.reverse_reverse]

theorem head_trimLeft (xs : List α) : ∀ x ∈ (trimLeft xs).head?, looksBlank x = false := by
  intro x hx
  have h := List.head?_dropWhile_not looksBlank xs
  rw [trimLeft] at hx
  rw [Option.mem_def.1 hx] at h
  exact h

theorem last_trimRight (xs : List α) : ∀ x ∈ (trimRight xs).getLast?, looksBlank x = false := by
  rw [trimRight_eq, List.getLast?_reverse]
  exact head_trimLeft _

theorem trimRight_split (xs : List α) : ∃ r, xs = trimRight xs ++ r ∧ Blanks r := by
  refine ⟨(xs.reverse.takeWhile looksBlank).reverse, ?_, ?_⟩
  · rw [trimRight, ← List.reverse_append, List.takeWhile_append_dropWhile, List.reverse_reverse]
  · intro x hx
    exact List.all_eq_true.1 (List.all_takeWhile (p := looksBlank)) x (List.mem_reverse.1 hx)

/-! ## At both ends -/

theorem trim_blanks_append (hl : Blanks l) (xs : List α) : trim (l ++ xs) = trim xs := by
  rw [trim, trimLeft_blanks_append hl, trim]

theorem trim_blanks (hl : Blanks l) : trim l = [] := by
  have h := trim_blanks_append hl []
  rwa [List.append_nil] at h

theorem trim_eq_trimRight (h : ∀ x ∈ xs.head?, looksBlank x = false) : trim xs = trimRight xs := by
  rw [trim, trimLeft_eq_self h]

theorem trim_append_blanks (hr : Blanks r) (xs : List α) : trim (xs ++ r) = trim xs := by
  rw [trim, trimLeft, List.dropWhile_append]
  split
  · next h =>
    rw [trim, trimLeft, List.isEmpty_iff.1 h]
    exact trim_blanks hr
  · rw [trimRight_append_blanks hr, trim, trimLeft]

theorem trim_eq_self (hs : Trimmed s) : trim s = s := by
  rw [trim_eq_trimRight hs.head, trimRight_eq_self hs.last]

/-- Trimming takes away the blanks around a trimmed text and nothing else. -/
theorem trim_padded (hl : Blanks l) (hr : Blanks r) (hs : Trimmed s) : trim (l ++ s ++ r) = s := by
  rw [trim_append_blanks hr, trim_blanks_append hl, trim_eq_self hs]

theorem trim_trimRight (xs : List α) : trim (trimRight xs) = trim xs := by
  obtain ⟨r, hxs, hr⟩ := trimRight_split xs
  have h := trim_append_blanks hr (trimRight xs)
  rwa [← hxs, eq_comm] at h

/-- Behind a trimmed text blanks are only taken away from the end. -/
theorem trim_append (hs : Trimmed s) (hne : s ≠ []) (xs : List α) : trim (s ++ xs) = s ++ trimRight xs := by
  obtain ⟨r, hxs, hr⟩ := trimRight_split xs
  have htrimmed : Trimmed (s ++ trimRight xs) := by
    refine ⟨fun x hx => hs.head x ?_, fun x hx => ?_⟩
    · rwa [List.head?_append, List.head?_eq_some_head hne, Option.some_or, ← List.head?_eq_some_head hne] at hx
    · rw [List.getLast?_append, Option.mem_def, Option.or_eq_some_iff] at hx
      rcases hx with hx | ⟨-, hx⟩
      · exact last_trimRight xs x hx
      · exact hs.last x hx
  calc trim (s ++ xs) = trim (s ++ trimRight xs ++ r) := by rw [List.append_assoc, ← hxs]
    _ = s ++ trimRight xs := by rw [trim_append_blanks hr, trim_eq_self htrimmed]

/-- In front of the last character of a trimmed text, blanks are only taken away from the end. -/
theorem trim_before (h : Trimmed (xs ++ [x])) : ∃ b, xs = trim xs ++ b ∧ Blanks b := by
  have hhead : ∀ y ∈ xs.head?, looksBlank y = false := fun y hy =>
    h.head y (by rw [List.head?_append, Option.mem_def.1 hy]; rfl)
  rw [trim_eq_trimRight hhead]
  exact trimRight_split xs

theorem getLast?_trim_concat (hx : looksBlank x = false) (xs : List α) :
    (trim (xs ++ [x])).getLast? = some x := by
  have hleft : ∃ before, trimLeft (xs ++ [x]) = before ++ [x] := by
    rw [trimLeft, List.dropWhile_append]
    split
    · exact ⟨[], List.dropWhile_cons_of_neg (by simp [hx])⟩
    · exact ⟨_, rfl⟩
  obtain ⟨before, hbefore⟩ := hleft
  have hlast : ∀ y ∈ (before ++ [x]).getLast?, looksBlank y = false := by
    rw [List.getLast?_concat]
    rintro y ⟨⟩
    exact hx
  rw [trim, hbefore, trimRight_eq_self hlast, List.getLast?_concat]

theorem trimmed_trim (xs : List α) : Trimmed (trim xs) where
  head := by
    obtain ⟨r, hr, -⟩ := trimRight_split (trimLeft xs)
    intro x hx
    refine head_trimLeft xs x ?_
    rw [hr, List.head?_append, ← trim, Option.mem_def.1 hx]
    rfl
  last := last_trimRight (trimLeft xs)

end SqlWire.Text
