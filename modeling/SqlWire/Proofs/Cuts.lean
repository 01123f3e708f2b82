import SqlWire.Text.Blank
import SqlWire.Text.Split
/-!
# Cuts

Where a text that was put together with separators comes apart again: at all of them, at the first one or at the
last one.
-/
namespace SqlWire.Text

variable {sep : Char} {cs rest : List Char}

/-! ## At every separator -/

theorem splitOnto_eq (done : List (List Char)) (piece cs : List Char) :
    splitOnto sep done piece cs = done.reverse ++ cs.splitOnPPrepend (· == sep) piece := by
  induction cs generalizing done piece with
  | nil => simp [splitOnto]
  | cons c rest ih =>
    unfold splitOnto
    by_cases h : c = sep
    · rw [if_pos h, ih, List.splitOnPPrepend_cons_pos (by simp [h])]
      simp
    · rw [if_neg h, ih, List.splitOnPPrepend_cons_neg (by simp [h])]

theorem splitAt_eq_splitOn (sep : Char) (cs : List Char) : splitAt sep cs = cs.splitOn sep :=
  splitOnto_eq [] [] cs

theorem splitAt_append_cons (h : sep ∉ cs) (rest : List Char) :
    splitAt sep (cs ++ sep :: rest) = cs :: splitAt sep rest := by
  rw [splitAt_eq_splitOn, splitAt_eq_splitOn, List.splitOn_append_cons_self_of_not_mem h]

/-- Lines come apart again, and behind the end of the last one there is an empty piece. -/
theorem splitAt_lines {lines : List (List Char)} (h : ∀ line ∈ lines, sep ∉ line) :
    splitAt sep (lines.map (· ++ [sep])).flatten = lines ++ [[]] := by
  induction lines with
  | nil => rfl
  | cons line lines ih =>
    rw [List.map_cons, List.flatten_cons, List.append_assoc, List.singleton_append,
      splitAt_append_cons (h line List.mem_cons_self), ih fun l hl => h l (List.mem_cons_of_mem line hl)]
    rfl

/-! ## Words -/

/-- The pieces between blanks, where blanks in a row are one. -/
def words (cs : List Char) : List (List Char) := (splitAt ' ' cs).filter (!·.isEmpty)

theorem words_append_cons (cs rest : List Char) : words (cs ++ ' ' :: rest) = words cs ++ words rest := by
  unfold words
  rw [splitAt_eq_splitOn, List.splitOn_append_cons_self, List.filter_append, ← splitAt_eq_splitOn,
    ← splitAt_eq_splitOn]

theorem words_of_not_mem (h : ' ' ∉ cs) (hne : cs ≠ []) : words cs = [cs] := by
  unfold words
  rw [splitAt_eq_splitOn, List.splitOn_eq_singleton h]
  simp [hne]

theorem words_blanks_append (h : ∀ c ∈ cs, c = ' ') (rest : List Char) : words (cs ++ rest) = words rest := by
  induction cs with
  | nil => rfl
  | cons c cs ih =>
    rw [h c List.mem_cons_self]
    exact (words_append_cons [] (cs ++ rest)).trans (ih fun d hd => h d (List.mem_cons_of_mem c hd))

theorem words_append_blanks (h : ∀ c ∈ rest, c = ' ') (cs : List Char) : words (cs ++ rest) = words cs := by
  cases rest with
  | nil => rw [List.append_nil]
  | cons c rest =>
    have hnone : words rest = [] := by
      have happ := words_blanks_append (fun d hd => h d (List.mem_cons_of_mem c hd)) []
      rwa [List.append_nil] at happ
    rw [h c List.mem_cons_self, words_append_cons, hnone, List.append_nil]

/-- Trimming leaves the words, where blanks are the only white space. -/
theorem words_trim (h : ∀ c ∈ cs, isBlank c = true → c = ' ') : words (trim cs) = words cs := by
  obtain ⟨l, r, hcs, hl, hr⟩ := trim_eq cs
  have hl' : ∀ c ∈ l, c = ' ' := fun c hc => h c (by rw [hcs]; simp [hc]) (hl c hc)
  have hr' : ∀ c ∈ r, c = ' ' := fun c hc => h c (by rw [hcs]; simp [hc]) (hr c hc)
  conv => rhs; rw [hcs]
  rw [words_append_blanks hr', words_blanks_append hl']

/-! ## At the first or the last separator -/

theorem cutFirst_append (h : sep ∉ cs) (rest : List Char) :
    cutFirst sep (cs ++ rest) = (cs ++ (cutFirst sep rest).1, (cutFirst sep rest).2) := by
  have hall : ∀ c ∈ cs, decide (c ≠ sep) = true := fun c hc => decide_eq_true (ne_of_mem_of_not_mem hc h)
  unfold cutFirst
  rw [List.takeWhile_append_of_pos hall, List.dropWhile_append_of_pos hall]

theorem cutFirst_append_cons (h : sep ∉ cs) (rest : List Char) :
    cutFirst sep (cs ++ sep :: rest) = (cs, some rest) := by
  rw [cutFirst_append h]
  simp [cutFirst]

theorem cutFirst_of_not_mem (h : sep ∉ cs) : cutFirst sep cs = (cs, none) := by
  have happ := cutFirst_append h []
  rwa [List.append_nil, show cutFirst sep [] = ([], none) from rfl, List.append_nil] at happ

theorem cutLast_eq (sep : Char) (cs : List Char) :
    cutLast sep cs = ((cutFirst sep cs.reverse).2.map List.reverse, (cutFirst sep cs.reverse).1.reverse) := rfl

theorem cutLast_of_not_mem (h : sep ∉ cs) : cutLast sep cs = (none, cs) := by
  rw [cutLast_eq, cutFirst_of_not_mem (by simpa using h)]
  simp

theorem cutLast_append_cons (h : sep ∉ rest) (cs : List Char) :
    cutLast sep (cs ++ sep :: rest) = (some cs, rest) := by
  have hrev : (cs ++ sep :: rest).reverse = rest.reverse ++ sep :: cs.reverse := by simp
  rw [cutLast_eq, hrev, cutFirst_append_cons (by simpa using h)]
  simp

end SqlWire.Text
