import SqlWire.Proofs.Trimming
import SqlWire.Statement
/-!
# The form in which statements are sent

Of a statement there remains the part between the comments in front of it and the semicolon that ends it
(`Remains`). There is one such part in every text and normalizing finds it; so neither comments put in front of a
statement nor a semicolon put behind it change what is sent, and what is sent remains as it is when it is
normalized again, unless a semicolon still ends it (`normalizes`).
-/
namespace SqlWire.Statement

open Text

/-! ## What a statement is made of -/

def comment (body : List CodePoint) : List CodePoint := .char '/' :: .char '*' :: (body ++ [.char '*', .char '/'])

/-- Nothing in the text closes a comment. -/
def Open (body : List CodePoint) : Prop := ¬ [.char '*', .char '/'] <:+: body

/-- A complete comment stands at the front. -/
def Commented (cs : List CodePoint) : Prop := ∃ body rest, cs = comment body ++ rest

/-- Complete comments and blanks. -/
inductive Preamble : List CodePoint → Prop where
  | nil : Preamble []
  | blank {c front} (hc : looksBlank c) (h : Preamble front) : Preamble (c :: front)
  | comment {body front} (hbody : Open body) (h : Preamble front) : Preamble (comment body ++ front)

/-- Behind `s` stands one semicolon among blanks, or only blanks if no semicolon ends `s` either. -/
inductive Ending (s : List CodePoint) : List CodePoint → Prop where
  | blanks {b} (hs : s.getLast? ≠ some (.char ';')) (hb : Blanks b) : Ending s b
  | semicolon {b₁ b₂} (h₁ : Blanks b₁) (h₂ : Blanks b₂) : Ending s (b₁ ++ .char ';' :: b₂)

/-- The part between the comments in front of a statement and the semicolon that ends it. -/
structure Remains (cs s : List CodePoint) : Prop where
  trimmed : Trimmed s
  notCommented : ¬ Commented s
  split : ∃ front back, cs = front ++ s ++ back ∧ Preamble front ∧ Ending s back

/-- In `n` rounds, each of which takes a complete comment from the front and the blanks from around the rest, `s`
is left, at whose front no complete comment stands. -/
inductive Rounds : Nat → List CodePoint → List CodePoint → Prop where
  | done {s} (h : ¬ Commented s) : Rounds 0 s s
  | round {n body rest s} (hbody : Open body) (h : Rounds n (trim rest) s) :
      Rounds (n + 1) (comment body ++ rest) s

variable {cs front back body rest s b₁ b₂ : List CodePoint} {c : CodePoint} {n : Nat}

/-! ## Comments -/

theorem comment_eq (body : List CodePoint) :
    comment body = .char '/' :: .char '*' :: (body ++ [.char '*']) ++ [.char '/'] := by
  rw [comment, List.cons_append, List.cons_append, List.append_assoc]
  rfl

theorem trimmed_comment (body : List CodePoint) : Trimmed (comment body) where
  head c hc := by
    obtain rfl : .char '/' = c := Option.some.inj hc
    decide
  last c hc := by
    rw [comment_eq, List.getLast?_concat] at hc
    obtain rfl : .char '/' = c := Option.some.inj hc
    decide

theorem open_of_length_lt (h : body.length < 2) : Open body :=
  fun hclose => absurd hclose.length_le (Nat.not_le_of_lt h)

theorem open_cons_iff : Open (c :: body) ↔ ¬ [.char '*', .char '/'] <+: c :: body ∧ Open body := by
  rw [Open, List.infix_cons_iff, not_or, Open]

theorem afterClose_cons (h : ¬ [.char '*', .char '/'] <+: c :: cs) : afterClose (c :: cs) = afterClose cs := by
  cases cs with
  | nil => rfl
  | cons d cs =>
    rw [afterClose, if_neg]
    rintro ⟨hc, hd⟩
    exact h (List.cons_prefix_cons.2 ⟨hc.symm, List.cons_prefix_cons.2 ⟨hd.symm, List.nil_prefix⟩⟩)

theorem afterClose_append (hbody : Open body) (rest : List CodePoint) :
    afterClose (body ++ .char '*' :: .char '/' :: rest) = some rest := by
  induction body with
  | nil => rfl
  | cons c body ih =>
    obtain ⟨hc, hbody⟩ := open_cons_iff.1 hbody
    have hnot : ¬ [.char '*', .char '/'] <+: c :: (body ++ .char '*' :: .char '/' :: rest) := by
      cases body with
      | nil => simp [List.cons_prefix_cons]
      | cons d body => simpa [List.cons_prefix_cons] using hc
    rw [List.cons_append, afterClose_cons hnot, ih hbody]

theorem eq_of_afterClose (h : afterClose cs = some rest) :
    ∃ body, Open body ∧ cs = body ++ .char '*' :: .char '/' :: rest := by
  fun_induction afterClose cs with
  | case1 c d r hclose =>
    cases h
    obtain ⟨rfl, rfl⟩ : c = .char '*' ∧ d = .char '/' := hclose
    exact ⟨[], open_of_length_lt (by decide), rfl⟩
  | case2 c d r hno ih =>
    obtain ⟨body, hbody, hr⟩ := ih h
    refine ⟨c :: body, open_cons_iff.2 ⟨?_, hbody⟩, congrArg (c :: ·) hr⟩
    intro hclose
    obtain ⟨hc, t, rfl⟩ := List.cons_prefix_cons.1 hclose
    exact hno ⟨hc.symm, (List.cons.inj hr).1⟩
  | case3 => cases h

theorem afterComment_comment (hbody : Open body) (rest : List CodePoint) :
    afterComment (comment body ++ rest) = some rest := by
  rw [comment, List.cons_append, List.cons_append, List.append_assoc]
  exact afterClose_append hbody rest

theorem eq_of_afterComment (h : afterComment cs = some rest) :
    ∃ body, Open body ∧ cs = comment body ++ rest := by
  unfold afterComment at h
  split at h
  · next a b r =>
    split at h
    · next hopen =>
      obtain ⟨rfl, rfl⟩ : a = .char '/' ∧ b = .char '*' := hopen
      obtain ⟨body, hbody, rfl⟩ := eq_of_afterClose h
      exact ⟨body, hbody, by simp [comment]⟩
    · cases h
  · cases h

/-- Whatever is in a comment that is closed, the first place that closes it is found. -/
theorem afterComment_ne_none (h : Commented cs) : afterComment cs ≠ none := by
  obtain ⟨body, rest, rfl⟩ := h
  rw [comment, List.cons_append, List.cons_append, List.append_assoc]
  show afterClose (body ++ .char '*' :: .char '/' :: rest) ≠ none
  induction body with
  | nil => exact Option.some_ne_none rest
  | cons c body ih =>
    by_cases hc : [.char '*', .char '/'] <+: c :: (body ++ .char '*' :: .char '/' :: rest)
    · obtain ⟨t, ht⟩ := hc
      rw [List.cons_append, ← ht]
      exact Option.some_ne_none t
    · rw [List.cons_append, afterClose_cons hc]
      exact ih

theorem afterComment_eq_none_iff : afterComment cs = none ↔ ¬ Commented cs := by
  refine ⟨fun h hc => afterComment_ne_none hc h, fun h => ?_⟩
  cases hrest : afterComment cs with
  | none => rfl
  | some rest =>
    obtain ⟨body, -, hcs⟩ := eq_of_afterComment hrest
    exact absurd ⟨body, rest, hcs⟩ h

theorem Commented.append (h : Commented s) (back : List CodePoint) : Commented (s ++ back) := by
  obtain ⟨body, rest, rfl⟩ := h
  exact ⟨body, rest ++ back, List.append_assoc ..⟩

/-- What holds no slash completes no comment. -/
theorem Commented.of_append (h : Commented (s ++ back)) (hback : .char '/' ∉ back) : Commented s := by
  obtain ⟨body, rest, hs⟩ := h
  rcases List.append_eq_append_iff.1 hs with ⟨t, ht, rfl⟩ | ⟨t, ht, -⟩
  · -- the comment ends in a slash, so all of it stands in `s`
    rcases List.eq_nil_or_concat t with rfl | ⟨t, c, rfl⟩
    · exact ⟨body, [], by rw [ht, List.append_nil, List.append_nil]⟩
    · rw [comment_eq, List.concat_eq_append, ← List.append_assoc] at ht
      obtain rfl : .char '/' = c := (List.append_inj' ht rfl).2 |> List.singleton_inj.1
      exact absurd (by simp) hback
  · exact ⟨body, t, ht⟩

/-! ## Rounds -/

theorem stripComments_of_not_commented (h : ¬ Commented cs) : stripComments cs = cs := by
  rw [stripComments]
  split
  · rfl
  · next hrest => cases (afterComment_eq_none_iff.2 h).symm.trans hrest

theorem stripComments_comment (hbody : Open body) (rest : List CodePoint) :
    stripComments (comment body ++ rest) = stripComments (trim rest) := by
  have h := afterComment_comment hbody rest
  rw [stripComments]
  split
  · next hnone => cases h.symm.trans hnone
  · next r hrest =>
    obtain rfl := Option.some.inj (h.symm.trans hrest)
    rfl

/-- The comments are taken away in a round for each, and each has four characters at least. -/
theorem exists_rounds (cs : List CodePoint) : ∃ n, 4 * n ≤ cs.length ∧ Rounds n cs (stripComments cs) := by
  fun_induction stripComments cs with
  | case1 cs h => exact ⟨0, Nat.zero_le _, .done (afterComment_eq_none_iff.1 h)⟩
  | case2 cs rest h ih =>
    obtain ⟨body, hbody, rfl⟩ := eq_of_afterComment h
    obtain ⟨n, hn, hrounds⟩ := ih
    refine ⟨n + 1, ?_, .round hbody hrounds⟩
    have hle := length_trim_le rest
    simp only [comment, List.length_append, List.length_cons, List.length_nil]
    omega

theorem Rounds.not_commented (h : Rounds n cs s) : ¬ Commented s := by
  induction h with
  | done h => exact h
  | round _ _ ih => exact ih

theorem Rounds.trimmed (h : Rounds n cs s) (hcs : Trimmed cs) : Trimmed s := by
  induction h with
  | done => exact hcs
  | round _ _ ih => exact ih (trimmed_trim _)

/-! ## What stands in front -/

theorem Preamble.append (h : Preamble front) (hcs : Preamble cs) : Preamble (front ++ cs) := by
  induction h with
  | nil => exact hcs
  | blank hc _ ih => exact .blank hc ih
  | comment hbody _ ih =>
    rw [List.append_assoc]
    exact .comment hbody ih

theorem preamble_of_blanks (h : Blanks front) : Preamble front := by
  induction front with
  | nil => exact .nil
  | cons c front ih =>
    exact .blank (h c List.mem_cons_self) (ih fun d hd => h d (List.mem_cons_of_mem c hd))

/-- The rounds take away comments and blanks in front, and blanks behind. -/
theorem Rounds.split (h : Rounds n cs s) :
    ∃ front back, cs = front ++ s ++ back ∧ Preamble front ∧ Blanks back := by
  induction h with
  | done => exact ⟨[], [], by simp, .nil, nofun⟩
  | @round n body rest s hbody _ ih =>
    obtain ⟨front, back, htrim, hfront, hback⟩ := ih
    obtain ⟨l, r, hrest, hl, hr⟩ := trim_eq rest
    refine ⟨comment body ++ (l ++ front), back ++ r, ?_,
      .comment hbody ((preamble_of_blanks hl).append hfront), hback.append hr⟩
    rw [hrest, htrim]
    simp only [List.append_assoc]

/-- Comments and blanks in front of a statement do not change what is left of it. -/
theorem stripComments_preamble (h : Preamble front) (cs : List CodePoint) :
    stripComments (trim (front ++ cs)) = stripComments (trim cs) := by
  induction h with
  | nil => rfl
  | @blank c front hc _ ih =>
    rw [← ih, List.cons_append, ← List.singleton_append,
      trim_blanks_append fun d hd => List.mem_singleton.1 hd ▸ hc]
  | @comment body front hbody _ ih =>
    have hne : comment body ≠ [] := List.cons_ne_nil _ _
    rw [List.append_assoc, trim_append (trimmed_comment body) hne, stripComments_comment hbody,
      trim_trimRight, ih]

/-! ## What stands behind -/

theorem stripSemicolon_of_ne (h : cs.getLast? ≠ some (.char ';')) : stripSemicolon cs = cs := by
  rw [stripSemicolon, if_neg h]

theorem stripSemicolon_concat (cs : List CodePoint) : stripSemicolon (cs ++ [.char ';']) = trim cs := by
  rw [stripSemicolon, if_pos List.getLast?_concat, List.dropLast_concat]

/-- The blanks in front of a semicolon stay if there is something in front of them. -/
theorem trim_semicolon (hs : Trimmed s) (h₁ : Blanks b₁) (h₂ : Blanks b₂) :
    ∃ b, Blanks b ∧ trim (s ++ (b₁ ++ .char ';' :: b₂)) = s ++ b ++ [.char ';'] := by
  by_cases hne : s = []
  · refine ⟨[], nofun, ?_⟩
    have h : trim (b₁ ++ [.char ';'] ++ b₂) = [.char ';'] := trim_padded h₁ h₂ (by decide)
    rw [List.append_assoc, List.singleton_append] at h
    rw [hne]
    exact h
  · refine ⟨b₁, h₁, ?_⟩
    have hlast : ∀ c ∈ (b₁ ++ [CodePoint.char ';']).getLast?, looksBlank c = false := by
      rw [List.getLast?_concat]
      rintro c ⟨⟩
      decide
    rw [trim_append hs hne, List.append_cons, trimRight_append_blanks h₂, trimRight_eq_self hlast,
      List.append_assoc]

/-! ## What remains -/

def remainder (cs : List CodePoint) : List CodePoint := stripSemicolon (stripComments (trim cs))

/-- Nothing but what remains is left. -/
theorem Remains.remainder_eq (h : Remains cs s) : remainder cs = s := by
  obtain ⟨front, back, rfl, hfront, hback⟩ := h.split
  rw [remainder, List.append_assoc, stripComments_preamble hfront]
  cases hback with
  | blanks hlast hb =>
    rw [trim_append_blanks hb, trim_eq_self h.trimmed, stripComments_of_not_commented h.notCommented,
      stripSemicolon_of_ne hlast]
  | semicolon h₁ h₂ =>
    obtain ⟨b, hb, htrim⟩ := trim_semicolon h.trimmed h₁ h₂
    have hslash : .char '/' ∉ b ++ [.char ';'] := by
      rw [List.mem_append, not_or]
      exact ⟨fun hmem => absurd (hb (.char '/') hmem) (by decide), by decide⟩
    have hnot : ¬ Commented (s ++ b ++ [.char ';']) := by
      rw [List.append_assoc]
      exact fun hc => h.notCommented (hc.of_append hslash)
    rw [htrim, stripComments_of_not_commented hnot, stripSemicolon_concat, trim_append_blanks hb,
      trim_eq_self h.trimmed]

theorem stripComments_split (cs : List CodePoint) : ∃ front back,
    cs = front ++ stripComments (trim cs) ++ back ∧ Preamble front ∧ Blanks back := by
  obtain ⟨n, -, hrounds⟩ := exists_rounds (trim cs)
  obtain ⟨front, back, htrim, hfront, hback⟩ := hrounds.split
  obtain ⟨l, r, hcs, hl, hr⟩ := trim_eq cs
  refine ⟨l ++ front, back ++ r, ?_, (preamble_of_blanks hl).append hfront, hback.append hr⟩
  calc cs = l ++ trim cs ++ r := hcs
    _ = l ++ (front ++ stripComments (trim cs) ++ back) ++ r := by rw [← htrim]
    _ = l ++ front ++ stripComments (trim cs) ++ (back ++ r) := by simp only [List.append_assoc]

/-- Something remains of each text. -/
theorem remains_remainder (cs : List CodePoint) : Remains cs (remainder cs) := by
  obtain ⟨n, -, hrounds⟩ := exists_rounds (trim cs)
  have htrimmed := hrounds.trimmed (trimmed_trim cs)
  have hnot := hrounds.not_commented
  obtain ⟨front, back, hcs, hfront, hback⟩ := stripComments_split cs
  unfold remainder
  generalize stripComments (trim cs) = t at *
  by_cases hlast : t.getLast? = some (.char ';')
  · obtain ⟨t, rfl⟩ := List.getLast?_eq_some_iff.1 hlast
    obtain ⟨b, ht, hb⟩ := trim_before htrimmed
    rw [stripSemicolon_concat]
    refine ⟨trimmed_trim t, fun hc => hnot ?_, front, b ++ .char ';' :: back, ?_, hfront, .semicolon hb hback⟩
    · rw [ht, List.append_assoc]
      exact hc.append _
    · calc cs = front ++ (t ++ [.char ';']) ++ back := hcs
        _ = front ++ (trim t ++ b ++ [.char ';']) ++ back := by rw [← ht]
        _ = front ++ trim t ++ (b ++ .char ';' :: back) := by simp only [List.append_assoc, List.singleton_append]
  · rw [stripSemicolon_of_ne hlast]
    exact ⟨htrimmed, hnot, front, back, hcs, hfront, .blanks hlast hback⟩

/-- The text looks like a probe. -/
def LooksProbe (s : List CodePoint) : Prop := String.ofList (lower (s.map Letter.face)) ∈ probes

instance (s : List CodePoint) : Decidable (LooksProbe s) := inferInstanceAs (Decidable (_ ∈ probes))

theorem normalize_eq (sql : Wording) : normalize sql =
    if LooksProbe (remainder sql.points) then .plain probe else .ofPoints (remainder sql.points) := by
  show Wording.ofPoints (replaceProbe (remainder sql.points)) = _
  by_cases h : LooksProbe (remainder sql.points)
  · rw [if_pos h, replaceProbe, if_pos (List.contains_iff_mem.2 h)]
    exact Wording.ofPoints_points (.plain probe)
  · rw [if_neg h, replaceProbe, if_neg fun hmem => h (List.contains_iff_mem.1 hmem)]

theorem normalize_of_remains {sql : Wording} (h : Remains sql.points s) :
    normalize sql = if LooksProbe s then .plain probe else .ofPoints s := by
  rw [normalize_eq, h.remainder_eq]

/-! ## Laws -/

theorem Remains.preamble (h : Remains cs s) (hfront : Preamble front) : Remains (front ++ cs) s := by
  obtain ⟨before, back, rfl, hbefore, hback⟩ := h.split
  exact ⟨h.trimmed, h.notCommented, front ++ before, back, by simp only [List.append_assoc],
    hfront.append hbefore, hback⟩

/-- One semicolon is taken away, if none stands at the end of the text already. -/
theorem Remains.semicolon (h : Remains cs s) (hlast : (trim cs).getLast? ≠ some (.char ';')) (h₁ : Blanks b₁)
    (h₂ : Blanks b₂) : Remains (cs ++ b₁ ++ .char ';' :: b₂) s := by
  obtain ⟨front, back, rfl, hfront, hback⟩ := h.split
  cases hback with
  | blanks hs hb =>
    exact ⟨h.trimmed, h.notCommented, front, back ++ b₁ ++ .char ';' :: b₂, by simp only [List.append_assoc],
      hfront, .semicolon (hb.append h₁) h₂⟩
  | @semicolon b b' _ hb' =>
    refine absurd ?_ hlast
    rw [List.append_cons, ← List.append_assoc, ← List.append_assoc, trim_append_blanks hb']
    exact getLast?_trim_concat (by decide) _

theorem remains_self (hs : Trimmed s) (hnot : ¬ Commented s) (hlast : s.getLast? ≠ some (.char ';')) : Remains s s :=
  ⟨hs, hnot, [], [], by simp, .nil, .blanks hlast nofun⟩

/-- The laws of normalizing. -/
structure Normalizes (sql : Wording) : Prop where
  /-- A probe is replaced; another statement is the part that remains. -/
  remains : ∃ s, Remains sql.points s ∧
    normalize sql = if LooksProbe s then .plain probe else .ofPoints s
  preamble : ∀ front, Preamble front → normalize (.ofPoints (front ++ sql.points)) = normalize sql
  semicolon : (trim sql.points).getLast? ≠ some (.char ';') → ∀ b₁ b₂, Blanks b₁ → Blanks b₂ →
    normalize (.ofPoints (sql.points ++ b₁ ++ .char ';' :: b₂)) = normalize sql
  again : (normalize sql).points.getLast? ≠ some (.char ';') → normalize (normalize sql) = normalize sql
  ends : ∃ n, 4 * n ≤ (trim sql.points).length ∧
    Rounds n (trim sql.points) (stripComments (trim sql.points))

theorem normalize_probe : normalize probe = .plain probe := by
  have h : Remains (Wording.plain probe).points (Wording.plain probe).points :=
    remains_self (by decide) (afterComment_eq_none_iff.1 rfl) (by decide)
  rw [normalize_of_remains h, if_neg (by decide), Wording.ofPoints_points]

end SqlWire.Statement
