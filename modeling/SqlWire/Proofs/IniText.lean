import Mathlib.Data.List.Forall2
import SqlWire.Ini
import SqlWire.Proofs.Ascii
import SqlWire.Proofs.Cuts
import SqlWire.Proofs.Trimming
/-!
# Writing ini files

A section is written with a line for each option, each percent sign twice, and with blank lines and comments wherever
they please. The section that is read has these options (`Ini.parse_file`), and looking one up gives its value
(`Ini.value?_written`).
-/
namespace SqlWire

open Text

namespace Ini

variable {c : Char} {cs line name : List Char} {lines before blanks : List (List Char)} {o : String × String}
  {options : List (String × String)} {r : Reader}

/-! ## Percent signs -/

/-- With each percent sign twice. -/
def doubled (cs : List Char) : List Char := cs.flatMap fun c => if c = '%' then [c, c] else [c]

theorem mem_doubled (hc : c ∈ doubled cs) : c ∈ cs := by
  obtain ⟨d, hd, hcd⟩ := List.mem_flatMap.1 hc
  split at hcd
  · simp only [List.mem_cons, List.not_mem_nil, or_false, or_self] at hcd
    rwa [hcd]
  · rwa [List.mem_singleton.1 hcd]

theorem head?_doubled (cs : List Char) : (doubled cs).head? = cs.head? := by
  cases cs with
  | nil => rfl
  | cons c cs =>
    rw [doubled, List.flatMap_cons]
    split
    · rfl
    · rfl

theorem reverse_doubled (cs : List Char) : (doubled cs).reverse = doubled cs.reverse := by
  unfold doubled
  rw [List.reverse_flatMap]
  congr 1
  funext c
  simp only [Function.comp_apply]
  split
  · rfl
  · rfl

theorem trimmed_doubled (h : Trimmed cs) : Trimmed (doubled cs) where
  head := by
    rw [head?_doubled]
    exact h.head
  last := by
    rw [← List.head?_reverse, reverse_doubled, head?_doubled, List.head?_reverse]
    exact h.last

/-- Doubled percent signs are percent signs again, and no reference begins at them. -/
theorem expandWith_doubled (value : List Char → Except IniError (List Char)) (done cs : List Char) :
    expandWith value done (doubled cs) = .ok (done.reverse ++ cs) := by
  induction cs generalizing done with
  | nil => simp [doubled, expandWith]
  | cons c cs ih =>
    rw [doubled, List.flatMap_cons, ← doubled]
    by_cases hc : c = '%'
    · rw [if_pos hc, hc]
      show expandWith value done ('%' :: '%' :: doubled cs) = _
      rw [expandWith, ih]
      simp
    · rw [if_neg hc, List.singleton_append, expandWith, ih]
      · simp
      · exact fun _ h _ => hc h
      · exact fun _ h _ => hc h
      · exact hc

/-! ## Lines -/

/-- A blank line or a comment. -/
def Filler (line : List Char) : Prop := '\n' ∉ line ∧ ∀ c ∈ (trim line).head?, c = '#' ∨ c = ';'

/-- A name in small letters. -/
def Key (name : String) : Prop := name ≠ "" ∧ name.toList.all Char.isLower = true

instance : DecidablePred Key := fun _ => inferInstanceAs (Decidable (_ ∧ _))

/-- A value of visible characters with none of its own blanks at its ends. -/
structure Plain (value : String) : Prop where
  visible : ∀ c ∈ value.toList, Visible c
  head : value.toList.head? ≠ some ' '
  last : value.toList.getLast? ≠ some ' '

/-- An option as it is written. -/
def optionLine (o : String × String) : List Char := o.1.toList ++ [' ', '=', ' '] ++ doubled o.2.toList

/-- An option that can be written. -/
def Writable (o : String × String) : Prop := Key o.1 ∧ Plain o.2

/-- Lines that write options in their order. -/
inductive Writes : List (String × String) → List (List Char) → Prop
  | nil : Writes [] []
  | filler {l os ls} (hline : Filler l) (h : Writes os ls) : Writes os (l :: ls)
  | option {x os ls} (h : Writes os ls) : Writes (x :: os) (optionLine x :: ls)

theorem Plain.trimmed {value : String} (h : Plain value) : Trimmed value.toList where
  head c hc := (h.visible c (List.mem_of_mem_head? hc)).not_blank fun heq => h.head (heq ▸ hc)
  last c hc := (h.visible c (List.mem_of_getLast? hc)).not_blank fun heq => h.last (heq ▸ hc)

/-- A small letter is no mark of a file. -/
theorem small_ne (hc : c.isLower = true) :
    isBlank c = false ∧ c ∉ ['#', ';', '[', '=', ':', '\n'] ∧ smallLetter c = c := by
  have hall : c.isLower = true → isBlank c = false ∧ c ∉ ['#', ';', '[', '=', ':', '\n'] ∧ smallLetter c = c := by
    apply (visible_of_isLower hc).rec_on_number
    decide +kernel
  exact hall hc

theorem Key.small {name : String} (h : Key name) : ∀ c ∈ name.toList, c.isLower = true := List.all_eq_true.1 h.2

theorem Key.exists_cons {name : String} (h : Key name) : ∃ c cs, name.toList = c :: cs ∧ c.isLower = true := by
  cases hname : name.toList with
  | nil => exact absurd (String.toList_eq_nil_iff.1 hname) h.1
  | cons c cs => exact ⟨c, cs, rfl, h.small c (by rw [hname]; exact List.mem_cons_self)⟩

theorem Key.trimmed {name : String} (h : Key name) : Trimmed name.toList where
  head c hc := (small_ne (h.small c (List.mem_of_mem_head? hc))).1
  last c hc := (small_ne (h.small c (List.mem_of_getLast? hc))).1

theorem Key.lower_eq {name : String} (h : Key name) : lower name.toList = name.toList := by
  rw [lower_of_ascii fun c hc => Nat.lt_of_le_of_lt (visible_of_isLower (h.small c hc)).2 (by decide)]
  exact (List.map_congr_left fun c hc => (small_ne (h.small c hc)).2.2).trans (List.map_id _)

/-- Trimming an option's line leaves a blank between the name and the sign. -/
theorem trim_optionLine (hkey : Key o.1) :
    trim (optionLine o) = o.1.toList ++ ' ' :: '=' :: trimRight (' ' :: doubled o.2.toList) := by
  obtain ⟨c, cs, hname, hc⟩ := hkey.exists_cons
  have htrimmed : Trimmed (o.1.toList ++ [' ', '=']) := by
    refine ⟨?_, ?_⟩
    · rw [hname]
      rintro d ⟨⟩
      exact (small_ne hc).1
    · rw [List.getLast?_append]
      rintro d ⟨⟩
      decide
  have hline : optionLine o = o.1.toList ++ [' ', '='] ++ ' ' :: doubled o.2.toList := by
    unfold optionLine
    simp
  rw [hline, trim_append htrimmed (by simp), List.append_assoc]
  rfl

theorem option?_optionLine (hkey : Key o.1) (hvalue : Plain o.2) :
    option? (trim (optionLine o)) = some (o.1.toList, doubled o.2.toList) := by
  have hall : ∀ c ∈ o.1.toList, (!isDelimiter c) = true := by
    intro c hc
    have hne := (small_ne (hkey.small c hc)).2.1
    simp only [List.mem_cons, not_or] at hne
    simp [isDelimiter, hne]
  have hspace : Blanks [' '] := by decide
  have hname : trimRight (o.1.toList ++ [' ']) = o.1.toList := by
    rw [trimRight_append_blanks hspace, trimRight_eq_self hkey.trimmed.last]
  have htext : trim (trimRight (' ' :: doubled o.2.toList)) = doubled o.2.toList := by
    rw [trim_trimRight]
    exact (trim_blanks_append hspace _).trans (trim_eq_self (trimmed_doubled hvalue.trimmed))
  rw [trim_optionLine hkey, option?, List.takeWhile_append_of_pos hall, List.dropWhile_append_of_pos hall]
  show some (trimRight (o.1.toList ++ [' ']), trim (trimRight (' ' :: doubled o.2.toList))) = _
  rw [hname, htext]

theorem newline_not_mem_optionLine (ho : Writable o) : '\n' ∉ optionLine o := by
  obtain ⟨hkey, hvalue⟩ := ho
  unfold optionLine
  simp only [List.mem_append, not_or]
  refine ⟨⟨fun hmem => ?_, by decide⟩, fun hmem => ?_⟩
  · exact (small_ne (hkey.small _ hmem)).2.1 (by simp)
  · exact (hvalue.visible _ (mem_doubled hmem)).ne_newline rfl

theorem Writes.newline_not_mem (h : Writes options lines) (hoptions : ∀ o ∈ options, Writable o) :
    ∀ l ∈ lines, '\n' ∉ l := by
  induction h with
  | nil => simp
  | filler hline _ ih =>
    intro l hl
    rcases List.mem_cons.1 hl with rfl | hl
    · exact hline.1
    · exact ih hoptions l hl
  | option _ ih =>
    intro l hl
    rcases List.mem_cons.1 hl with rfl | hl
    · exact newline_not_mem_optionLine (hoptions _ List.mem_cons_self)
    · exact ih (fun p hp => hoptions p (List.mem_cons_of_mem _ hp)) l hl

/-! ## The reader, line by line -/

/-- The draft of an option that was read: its value, and empty lines behind it. -/
structure DraftOf (d : List Char × List (List Char)) (o : String × String) : Prop where
  name : d.1 = o.1.toList
  plain : Plain o.2
  lines : ∃ empty, d.2 = empty ++ [doubled o.2.toList] ∧ ∀ l ∈ empty, l = []

/-- The reader is in its first section and has read these options of it, the last one first. -/
structure Reads (name : List Char) (options : List (String × String)) (r : Reader) : Prop where
  done : r.done = []
  current : ∃ drafts, r.current = some ⟨name, drafts⟩ ∧ List.Forall₂ DraftOf drafts options
  sound : r.faulty = false

theorem Reads.extend (h : Reads name options r) : Reads name options (r.extend []) := by
  obtain ⟨drafts, hcurrent, hdrafts⟩ := h.current
  unfold Reader.extend
  rw [hcurrent]
  cases hdrafts with
  | nil => exact h
  | @cons d o drafts options hd hrest =>
    obtain ⟨empty, hlines, hempty⟩ := hd.lines
    refine ⟨h.done, ⟨_, rfl, .cons ⟨hd.name, hd.plain, [] :: empty, ?_, ?_⟩ hrest⟩, h.sound⟩
    · rw [hlines]
      rfl
    · simpa using hempty

theorem take_filler (hline : Filler line) (r : Reader) :
    r.take line = .ok r ∨ r.take line = .ok (r.extend []) := by
  unfold Reader.take
  cases htrim : trim line with
  | nil =>
    simp only
    split
    · exact .inr rfl
    · exact .inl rfl
  | cons c cs =>
    left
    exact if_pos (hline.2 c (by rw [htrim]; rfl))

theorem Reads.filler (h : Reads name options r) (hline : Filler line) :
    ∃ r', r.take line = .ok r' ∧ Reads name options r' := by
  rcases take_filler hline r with htake | htake
  · exact ⟨r, htake, h⟩
  · exact ⟨r.extend [], htake, h.extend⟩

theorem take_optionLine (hkey : Key o.1) (r : Reader) :
    r.take (optionLine o) = Reader.takeItem { r with indent := 0 } (trim (optionLine o)) := by
  obtain ⟨c, cs, hname, hc⟩ := hkey.exists_cons
  obtain ⟨hblank, hmem, -⟩ := small_ne hc
  simp only [List.mem_cons, not_or] at hmem
  -- without indentation it is no part of the value before it
  have hindent : ((optionLine o).takeWhile isBlank).length = 0 := by
    unfold optionLine
    rw [hname]
    simp [hblank]
  unfold Reader.take
  rw [hindent, trim_optionLine hkey, hname]
  simp [hmem]

theorem takeItem_optionLine {draft : Draft} (hkey : Key o.1) (hvalue : Plain o.2) (hcurrent : r.current = some draft) :
    r.takeItem (trim (optionLine o)) = r.add draft o.1.toList (doubled o.2.toList) := by
  have hheader : header? (trim (optionLine o)) = none := by
    obtain ⟨c, cs, hname, hc⟩ := hkey.exists_cons
    have hmem := (small_ne hc).2.1
    simp only [List.mem_cons, not_or] at hmem
    rw [trim_optionLine hkey, hname, List.cons_append, header?]
    intro rest heq
    exact hmem.2.2.1 (List.cons.inj heq).1
  unfold Reader.takeItem
  rw [hheader, hcurrent, option?_optionLine hkey hvalue]

theorem add_of_new {draft : Draft} (hkey : Key o.1) (hnew : ∀ d ∈ draft.options, d.1 ≠ o.1.toList)
    (value : List Char) : r.add draft o.1.toList value = .ok { r with
      current := some { draft with options := (o.1.toList, [value]) :: draft.options }
      inValue := true } := by
  have hany : draft.options.any (·.1 = o.1.toList) = false := by
    rw [List.any_eq_false]
    intro d hd
    simpa using hnew d hd
  have hne : o.1.toList.isEmpty = false := by simpa using hkey.1
  unfold Reader.add
  rw [hkey.lower_eq]
  simp [hany, hne]

theorem map_fst_drafts {drafts : List (List Char × List (List Char))} (h : List.Forall₂ DraftOf drafts options) :
    drafts.map Prod.fst = options.map (·.1.toList) := by
  induction h with
  | nil => rfl
  | cons hd _ ih => rw [List.map_cons, List.map_cons, hd.name, ih]

theorem Reads.option (h : Reads name options r) (ho : Writable o) (hnew : o.1 ∉ options.map Prod.fst) :
    ∃ r', r.take (optionLine o) = .ok r' ∧ Reads name (o :: options) r' := by
  obtain ⟨hkey, hvalue⟩ := ho
  obtain ⟨drafts, hcurrent, hdrafts⟩ := h.current
  have hother : ∀ d ∈ drafts, d.1 ≠ o.1.toList := by
    intro d hd heq
    have hmem := List.mem_map_of_mem (f := Prod.fst) hd
    rw [map_fst_drafts hdrafts] at hmem
    obtain ⟨p, hp, hname⟩ := List.mem_map.1 hmem
    exact hnew (List.mem_map.2 ⟨p, hp, String.toList_inj.1 (hname.trans heq)⟩)
  have hzero : ({ r with indent := 0 } : Reader).current = some ⟨name, drafts⟩ := hcurrent
  rw [take_optionLine hkey, takeItem_optionLine hkey hvalue hzero, add_of_new hkey hother]
  exact ⟨_, rfl, h.done, ⟨_, rfl, .cons ⟨rfl, hvalue, [], rfl, by simp⟩ hdrafts⟩, h.sound⟩

/-! ## Whole files -/

/-- What the reader holds after lines that write options. -/
theorem Reads.run {read : List (String × String)} (h : Reads name read r) (hwrites : Writes options lines)
    (hoptions : ∀ o ∈ options, Writable o) (hnodup : ((options.reverse ++ read).map Prod.fst).Nodup) :
    ∃ r', lines.foldlM Reader.take r = .ok r' ∧ Reads name (options.reverse ++ read) r' := by
  -- on the lines to come, with any options read before them
  induction hwrites generalizing read r with
  | nil => exact ⟨r, rfl, h⟩
  | filler hline _ ih =>
    obtain ⟨r₁, htake, h₁⟩ := h.filler hline
    obtain ⟨r', hfold, h'⟩ := ih h₁ hoptions hnodup
    refine ⟨r', ?_, h'⟩
    rw [List.foldlM_cons, htake]
    exact hfold
  | @option o os ls _ ih =>
    rw [List.reverse_cons, List.append_assoc, List.singleton_append] at hnodup ⊢
    have hnew : o.1 ∉ read.map Prod.fst := by
      rw [List.map_append, List.map_cons] at hnodup
      exact (List.nodup_cons.1 (List.nodup_append.1 hnodup).2.1).1
    obtain ⟨r₁, htake, h₁⟩ := h.option (hoptions o List.mem_cons_self) hnew
    obtain ⟨r', hfold, h'⟩ := ih h₁ (fun p hp => hoptions p (List.mem_cons_of_mem o hp)) hnodup
    refine ⟨r', ?_, h'⟩
    rw [List.foldlM_cons, htake]
    exact hfold

/-- Nothing happens in front of the first header. -/
theorem foldlM_fillers (hlines : ∀ l ∈ lines, Filler l) : lines.foldlM Reader.take .start = .ok .start := by
  induction lines with
  | nil => rfl
  | cons l lines ih =>
    have htake : Reader.start.take l = .ok .start := by
      rcases take_filler (hlines l List.mem_cons_self) .start with htake | htake
      · exact htake
      · exact htake
    rw [List.foldlM_cons, htake]
    exact ih fun m hm => hlines m (List.mem_cons_of_mem l hm)

def headerLine (name : List Char) : List Char := '[' :: name ++ [']']

theorem take_headerLine (hne : name ≠ []) :
    ∃ r, Reader.start.take (headerLine name) = .ok r ∧ Reads name [] r := by
  have htrimmed : Trimmed (headerLine name) := by
    refine ⟨?_, ?_⟩
    · rintro c ⟨⟩
      decide
    · rw [headerLine, List.getLast?_concat]
      rintro c ⟨⟩
      decide
  have hheader : header? (headerLine name) = some name := by
    have hcut : cutLast ']' (name ++ [']']) = (some name, []) := cutLast_append_cons (by simp) name
    show (cutLast ']' (name ++ [']'])).1.filter _ = some name
    rw [hcut]
    simp [hne]
  refine ⟨⟨[], some ⟨name, []⟩, false, 0, false⟩, ?_, rfl, ⟨[], rfl, .nil⟩, rfl⟩
  unfold Reader.take
  rw [trim_eq_self htrimmed]
  show Reader.takeItem ⟨[], none, false, 0, false⟩ (headerLine name) = _
  unfold Reader.takeItem
  rw [hheader]
  rfl

/-! ## Values -/

theorem intercalate_empty (hempty : ∀ l ∈ lines, l = []) (cs : List Char) :
    ∃ blanks, ['\n'].intercalate (cs :: lines) = cs ++ blanks ∧ Blanks blanks := by
  induction lines generalizing cs with
  | nil => exact ⟨[], by simp [List.intercalate], by simp [Blanks]⟩
  | cons l lines ih =>
    obtain ⟨blanks, heq, hblanks⟩ := ih (fun m hm => hempty m (List.mem_cons_of_mem l hm)) []
    refine ⟨'\n' :: blanks, ?_, ?_⟩
    · rw [hempty l List.mem_cons_self, List.intercalate_cons_cons, heq]
      simp
    · intro c hc
      rcases List.mem_cons.1 hc with rfl | hc
      · decide
      · exact hblanks c hc

theorem joined_draft {d : List Char × List (List Char)} (h : DraftOf d o) :
    joined d.2 = String.ofList (doubled o.2.toList) := by
  obtain ⟨empty, hlines, hempty⟩ := h.lines
  obtain ⟨blanks, heq, hblanks⟩ := intercalate_empty (fun l hl => hempty l (List.mem_reverse.1 hl))
    (doubled o.2.toList)
  unfold joined
  rw [hlines, List.reverse_append, List.reverse_singleton, List.singleton_append, heq,
    trimRight_append_blanks hblanks, trimRight_eq_self (trimmed_doubled h.plain.trimmed).last]

/-- An option with its value as it stands in the file. -/
def written (o : String × String) : String × String := (o.1, String.ofList (doubled o.2.toList))

theorem finish_drafts {drafts : List (List Char × List (List Char))} (h : List.Forall₂ DraftOf drafts options)
    (name : List Char) : Draft.finish ⟨name, drafts⟩ = ⟨String.ofList name, options.map written⟩ := by
  unfold Draft.finish
  congr 1
  induction h with
  | nil => rfl
  | @cons d o drafts options hd _ ih =>
    obtain ⟨dname, dlines⟩ := d
    have hdname : dname = o.1.toList := hd.name
    have hdlines : joined dlines = String.ofList (doubled o.2.toList) := joined_draft hd
    rw [List.map_cons, List.map_cons, ih]
    show (String.ofList dname, joined dlines) :: _ = written o :: _
    rw [hdname, hdlines, String.ofList_toList]
    rfl

/-- The file with one section, behind lines that say nothing. -/
def fileText (before : List (List Char)) (name : String) (lines : List (List Char)) : String :=
  String.ofList (['\n'].intercalate (before ++ headerLine name.toList :: lines))

/-- A section that was written is read, with its options from the last one to the first. -/
theorem parse_file {name : String} (hne : name ≠ "") (hname : '\n' ∉ name.toList)
    (hbefore : ∀ l ∈ before, Filler l) (hwrites : Writes options lines) (hoptions : ∀ o ∈ options, Writable o)
    (hnodup : (options.map Prod.fst).Nodup) :
    parse (fileText before name lines) = .ok ⟨[⟨name, options.reverse.map written⟩]⟩ := by
  have hlines : ∀ l ∈ before ++ headerLine name.toList :: lines, '\n' ∉ l := by
    intro l hl
    simp only [List.mem_append, List.mem_cons] at hl
    rcases hl with hl | rfl | hl
    · exact (hbefore l hl).1
    · simpa [headerLine] using hname
    · exact hwrites.newline_not_mem hoptions l hl
  have hsplit : splitAt '\n' (fileText before name lines).toList = before ++ headerLine name.toList :: lines := by
    rw [fileText, String.toList_ofList, splitAt_eq_splitOn]
    exact List.splitOn_intercalate '\n' hlines (by simp)
  obtain ⟨r, hheader, hr⟩ := @take_headerLine name.toList (by simpa using hne)
  have hkeys : ((options.reverse ++ []).map Prod.fst).Nodup := by
    rw [List.append_nil, List.map_reverse]
    exact (List.reverse_perm _).nodup_iff.2 hnodup
  obtain ⟨r', hrun, hr'⟩ := hr.run hwrites hoptions hkeys
  obtain ⟨drafts, hcurrent, hdrafts⟩ := hr'.current
  have hfold : (before ++ headerLine name.toList :: lines).foldlM Reader.take .start = .ok r' := by
    rw [List.foldlM_append, foldlM_fillers hbefore]
    show (headerLine name.toList :: lines).foldlM Reader.take .start = .ok r'
    rw [List.foldlM_cons, hheader]
    exact hrun
  unfold parse
  rw [hsplit, hfold]
  show (if r'.faulty = true then _ else Except.ok _) = _
  rw [hr'.sound, hcurrent, hr'.done]
  show Except.ok (Ini.mk [Draft.finish ⟨name.toList, drafts⟩]) = _
  rw [finish_drafts hdrafts, String.ofList_toList, List.append_nil]

/-! ## Looking up -/

variable {entries : List (String × Option String)}

theorem lookup_perm {l l' : List (String × String)} (h : l.Perm l') (hnodup : (l.map Prod.fst).Nodup) (k : String) :
    l.lookup k = l'.lookup k := by
  induction h with
  | nil => rfl
  | cons o _ ih => rw [List.lookup_cons, List.lookup_cons, ih (List.nodup_cons.1 hnodup).2]
  | swap o o' l =>
    -- the name that is looked up is that of one of them at most
    have hne : o.1 ≠ o'.1 := by
      intro h
      simp [h] at hnodup
    rw [List.lookup_cons, List.lookup_cons, List.lookup_cons, List.lookup_cons]
    split
    · next h =>
      split
      · next h' => exact absurd ((beq_iff_eq.1 h').symm.trans (beq_iff_eq.1 h)) hne
      · rfl
    · rfl
  | trans h _ ih ih' => rw [ih hnodup, ih' ((h.map Prod.fst).nodup_iff.1 hnodup)]

theorem lookup_written (options : List (String × String)) (k : String) :
    (options.map written).lookup k = (options.lookup k).map fun v => String.ofList (doubled v.toList) := by
  induction options with
  | nil => rfl
  | cons o options ih =>
    rw [List.map_cons, written, List.lookup_cons, List.lookup_cons, ih]
    split
    · rfl
    · rfl

/-- The value of an option that was written, in whatever order of the options. -/
theorem value?_written {options' : List (String × String)} (h : options.Perm options')
    (hnodup : (options.map Prod.fst).Nodup) (k : String) :
    value? (options.reverse.map written) k = .ok (options'.lookup k) := by
  have hlookup : (options.reverse.map written).lookup k =
      (options'.lookup k).map fun v => String.ofList (doubled v.toList) := by
    rw [lookup_written, ← lookup_perm (options.reverse_perm.symm) hnodup, lookup_perm h hnodup]
  unfold value?
  rw [hlookup]
  cases options'.lookup k with
  | none => rfl
  | some v =>
    have hexpand : expand (options.reverse.map written) maxDepth (doubled v.toList) = .ok v.toList := by
      rw [maxDepth, expand]
      exact expandWith_doubled _ [] v.toList
    simp only [Option.map_some, String.toList_ofList, hexpand]
    show Except.ok (some (String.ofList v.toList)) = _
    rw [String.ofList_toList]

end Ini

end SqlWire
