import SqlWire.Proofs.Ascii
import SqlWire.Proofs.Cuts
import SqlWire.Proofs.Framing
import SqlWire.Proofs.Numerals
import SqlWire.Session
/-!
# Reading hex dumps

A dump shows a packet part by part, each part of sixteen octets in a line of its own. The octets stand in the same
columns of every line, so they can be read there without the characters that are shown beside them, and all lines
together give the packet back (`noteDump_shows`).
-/
namespace SqlWire

open Text

/-! ## Hexadecimal numbers of a fixed width -/

theorem Text.hexWidth_le {width n : Nat} (hwidth : 0 < width) (hn : n < 16 ^ width) : hexWidth n ≤ width := by
  unfold hexWidth
  by_cases hzero : n = 0
  · rw [hzero]
    exact hwidth
  · have hpow : 16 ^ width = 2 ^ (4 * width) := by rw [Nat.pow_mul]
    have hlog := (Nat.log2_lt hzero).2 (hpow ▸ hn)
    omega

theorem Text.hexPaddedUpper_eq {width n : Nat} (hwidth : 0 < width) (hn : n < 16 ^ width) :
    hexPaddedUpper width n = hexOf hexDigitsUpper width n := by
  unfold hexPaddedUpper
  rw [Nat.max_eq_left (hexWidth_le hwidth hn)]

theorem Text.length_hexOf (digits : List Char) (width n : Nat) : (hexOf digits width n).length = width := by
  induction width generalizing n with
  | zero => rfl
  | succ width ih => simp [hexOf, ih]

/-- A hexadecimal number stands in digits, whatever its width. -/
theorem Text.mem_of_mem_hexOf {width n : Nat} {c : Char} (hc : c ∈ hexOf hexDigitsUpper width n) :
    c ∈ hexDigitsUpper := by
  obtain ⟨ds, hds, -⟩ := exists_digits_hexOf width n
  rw [hds] at hc
  obtain ⟨d, -, rfl⟩ := List.mem_map.1 hc
  exact digit_mem d

theorem Text.visible_of_mem_hexDigits {c : Char} (hc : c ∈ hexDigitsUpper) : Visible c ∧ c ≠ ' ' := by
  have hall : ∀ c ∈ hexDigitsUpper, Visible c ∧ c ≠ ' ' := List.all_iff_forall_prop.1 rfl
  exact hall c hc

theorem Bytes.lowOctet_toNat (x : UInt8) : lowOctet x.toNat = x := by
  have h := lowOctet_toNat_add x 0
  rwa [Nat.mul_zero, Nat.add_zero] at h

namespace HexDump

variable {b : Bytes} {offset : Nat} {cell : Nat → UInt8 → List Char} {word : UInt8 → List Char}

/-! ## Cells -/

theorem cells_cons (cell : Nat → UInt8 → List Char) (x : UInt8) (b : Bytes) :
    cells cell (x :: b) = cell 0 x ++ cells (fun i => cell (i + 1)) b := by
  simp [cells, List.mapIdx_cons]

theorem length_cells {width : Nat → Nat} (hcell : ∀ i x, (cell i x).length = width i) (b : Bytes) :
    (cells cell b).length = ((List.range b.length).map width).sum := by
  induction b generalizing cell width with
  | nil => rfl
  | cons x b ih =>
    rw [cells_cons, List.length_append, hcell, ih fun i x => hcell (i + 1) x, List.length_cons,
      List.range_succ_eq_map, List.map_cons, List.sum_cons, List.map_map]
    rfl

theorem mem_cells {P : Char → Prop} (hcell : ∀ i x, ∀ c ∈ cell i x, P c) (b : Bytes) :
    ∀ c ∈ cells cell b, P c := by
  induction b generalizing cell with
  | nil => simp [cells]
  | cons x b ih =>
    intro c hc
    rw [cells_cons] at hc
    rcases List.mem_append.1 hc with hc | hc
    · exact hcell 0 x c hc
    · exact ih (fun i x => hcell (i + 1) x) c hc

/-- Where a blank stands behind each word, the words of the cells are one for each octet. -/
theorem words_cells (hword : ∀ x, words (word x) = [word x])
    (hcell : ∀ i x, ∃ gap, cell i x = word x ++ ' ' :: gap ∧ ∀ c ∈ gap, c = ' ') (b : Bytes) :
    words (cells cell b) = b.map word := by
  induction b generalizing cell with
  | nil => rfl
  | cons x b ih =>
    obtain ⟨gap, hgap, hblank⟩ := hcell 0 x
    rw [cells_cons, hgap, List.append_assoc, List.cons_append, words_append_cons, hword,
      words_blanks_append hblank, ih fun i x => hcell (i + 1) x]
    rfl

/-! ## The hexadecimal column -/

theorem hexCell_eq (i : Nat) (x : UInt8) :
    ∃ gap, hexCell i x = hexOf hexDigitsUpper 2 x.toNat ++ ' ' :: gap ∧ ∀ c ∈ gap, c = ' ' := by
  unfold hexCell
  rw [hexPaddedUpper_eq (by decide) x.toNat_lt]
  split
  · exact ⟨[' '], rfl, by simp⟩
  · exact ⟨[], rfl, by simp⟩

theorem length_hexCell (i : Nat) (x : UInt8) : (hexCell i x).length = if i = 7 then 4 else 3 := by
  unfold hexCell
  rw [hexPaddedUpper_eq (by decide) x.toNat_lt, List.length_append, length_hexOf]
  split <;> rfl

/-- The gap behind the eighth octet is there if the eighth octet is. -/
theorem length_hexCells (hb : b.length ≤ lineLength) :
    (cells hexCell b).length = 3 * b.length + if 8 ≤ b.length then 1 else 0 := by
  have hsum : ∀ n ≤ 16, ((List.range n).map fun i => if i = 7 then 4 else 3).sum =
      3 * n + if 8 ≤ n then 1 else 0 := by decide
  rw [length_cells length_hexCell, hsum b.length hb]

theorem mem_hexCells (b : Bytes) : ∀ c ∈ cells hexCell b, Visible c := by
  apply mem_cells
  intro i x c hc
  obtain ⟨gap, hgap, hblank⟩ := hexCell_eq i x
  rw [hgap] at hc
  rcases List.mem_append.1 hc with hc | hc
  · exact (visible_of_mem_hexDigits (mem_of_mem_hexOf hc)).1
  · have hspace : c = ' ' := by
      rcases List.mem_cons.1 hc with hc | hc
      · exact hc
      · exact hblank c hc
    rw [hspace]
    decide

theorem words_hexCells (b : Bytes) :
    words (cells hexCell b) = b.map fun x => hexOf hexDigitsUpper 2 x.toNat := by
  apply words_cells _ hexCell_eq
  intro x
  apply words_of_not_mem
  · intro hmem
    exact (visible_of_mem_hexDigits (mem_of_mem_hexOf hmem)).2 rfl
  · apply List.ne_nil_of_length_pos
    rw [length_hexOf]
    decide

theorem mapM_map_of_forall_mem {α β γ : Type} {f : β → Option γ} {g : α → β} {k : α → γ} (as : List α)
    (h : ∀ a ∈ as, f (g a) = some (k a)) : (as.map g).mapM f = some (as.map k) := by
  induction as with
  | nil => rfl
  | cons a as ih =>
    rw [List.map_cons, List.mapM_cons, h a List.mem_cons_self, ih fun a ha => h a (List.mem_cons_of_mem _ ha)]
    rfl

/-- Octets in hexadecimal with blanks behind them are read. -/
theorem parse_hexCells {blanks : List Char} (hblanks : ∀ c ∈ blanks, c = ' ') (b : Bytes) :
    parse (String.ofList (cells hexCell b ++ blanks)) = some b := by
  have hspace : ∀ c ∈ cells hexCell b ++ blanks, isBlank c = true → c = ' ' := by
    intro c hc hblank
    rcases List.mem_append.1 hc with hc | hc
    · exact (mem_hexCells b c hc).isBlank_iff.1 hblank
    · exact hblanks c hc
  unfold parse
  rw [String.toList_ofList]
  show (words (trim (cells hexCell b ++ blanks))).mapM _ = some b
  rw [words_trim hspace, words_append_blanks hblanks, words_hexCells]
  refine (mapM_map_of_forall_mem b ?_).trans (congrArg some (List.map_id b))
  intro x _
  have hx : x.toNat < 16 ^ 2 := x.toNat_lt
  rw [hexadecimal?_hexOf (by decide), Nat.mod_eq_of_lt hx]
  exact (if_pos (by omega)).trans (congrArg some (Bytes.lowOctet_toNat x))

/-! ## Lines -/

/-- A line without its end. -/
def lineBody (offset : Nat) (b : Bytes) : List Char :=
  hexPaddedUpper 8 offset ++ [' ', ' '] ++ cells hexCell b
    ++ List.replicate (3 * (lineLength - b.length)) ' ' ++ [' ', ' '] ++ cells charCell b

theorem line_eq (offset : Nat) (b : Bytes) : line offset b = lineBody offset b ++ ['\n'] := rfl

/-- The hexadecimal column of a line. -/
def column (line : List Char) : List Char := (line.drop 10).take 49

theorem mem_charCells (b : Bytes) : ∀ c ∈ cells charCell b, Visible c := by
  apply mem_cells
  intro i x c hc
  unfold charCell at hc
  rcases List.mem_cons.1 hc with hc | hc
  · rw [hc]
    split
    · decide
    · next hn =>
      have hvalid : (x.toNat).isValidChar := Or.inl (by omega)
      have hnum : (Char.ofNat x.toNat).toNat = x.toNat := by
        rw [Char.ofNat, dif_pos hvalid]
        rfl
      unfold Visible
      omega
  · split at hc
    · rw [List.mem_singleton.1 hc]
      decide
    · cases hc

theorem visible_of_mem_lineBody (hoffset : offset < 16 ^ 8) (b : Bytes) : ∀ c ∈ lineBody offset b, Visible c := by
  intro c hc
  unfold lineBody at hc
  rw [hexPaddedUpper_eq (by decide) hoffset] at hc
  have hspace : Visible ' ' := by decide
  simp only [List.mem_append, List.mem_cons, List.not_mem_nil, or_false, or_self] at hc
  rcases hc with ((((hc | hc) | hc) | hc) | hc) | hc
  · exact (visible_of_mem_hexDigits (mem_of_mem_hexOf hc)).1
  · rwa [hc]
  · exact mem_hexCells b c hc
  · rwa [List.eq_of_mem_replicate hc]
  · rwa [hc]
  · exact mem_charCells b c hc

/-- What is behind the octets in their column is blank. -/
theorem column_lineBody (hoffset : offset < 16 ^ 8) (hb : b.length ≤ lineLength) :
    ∃ blanks, column (lineBody offset b) = cells hexCell b ++ blanks ∧ ∀ c ∈ blanks, c = ' ' := by
  have hlen := length_hexCells hb
  have hhead : (hexPaddedUpper 8 offset ++ [' ', ' ']).length = 10 := by
    rw [hexPaddedUpper_eq (by decide) hoffset, List.length_append, length_hexOf]
    rfl
  have hbody : lineBody offset b = (hexPaddedUpper 8 offset ++ [' ', ' ']) ++
      (cells hexCell b ++ (List.replicate (3 * (lineLength - b.length) + 2) ' ' ++ cells charCell b)) := by
    rw [← List.replicate_append_replicate]
    simp only [lineBody, List.append_assoc]
    rfl
  have hfits : (cells hexCell b).length ≤ 49 := by
    simp only [lineLength] at hb
    split at hlen <;> omega
  -- on a short line the padding and the gap behind it reach the end of the column
  have hfills : 49 - (cells hexCell b).length ≤ 3 * (lineLength - b.length) + 2 := by
    simp only [lineLength] at hb ⊢
    omega
  refine ⟨List.replicate (49 - (cells hexCell b).length) ' ', ?_, fun c hc => List.eq_of_mem_replicate hc⟩
  unfold column
  rw [hbody, ← hhead, List.drop_left, List.take_append, List.take_of_length_le hfits,
    List.take_append_of_le_length (by rwa [List.length_replicate]), List.take_replicate,
    Nat.min_eq_left hfills]

/-- A line shows octets at an offset. It begins with the offset in eight capital digits, and in the columns from the
eleventh to the fifty-ninth the octets are read. -/
structure Shows (line : List Char) (offset : Nat) (b : Bytes) : Prop where
  digits : line.take 8 = hexOf hexDigitsUpper 8 offset
  offset_eq : hexadecimal? (line.take 8) = some (offset : Int)
  octets : parse (String.ofList (column line)) = some b

theorem shows_lineBody (hoffset : offset < 16 ^ 8) (hb : b.length ≤ lineLength) :
    Shows (lineBody offset b) offset b := by
  have htake : (lineBody offset b).take 8 = hexOf hexDigitsUpper 8 offset := by
    unfold lineBody
    simp only [List.append_assoc]
    rw [hexPaddedUpper_eq (by decide) hoffset]
    exact List.take_left' (length_hexOf hexDigitsUpper 8 offset)
  refine ⟨htake, ?_, ?_⟩
  · rw [htake, hexadecimal?_hexOf (by decide), Nat.mod_eq_of_lt hoffset]
  · obtain ⟨blanks, hcolumn, hblanks⟩ := column_lineBody hoffset hb
    rw [hcolumn]
    exact parse_hexCells hblanks b

/-! ## Parts -/

/-- The octets of the line with that number, counted from zero. -/
def part (b : Bytes) (i : Nat) : Bytes := (b.drop (lineLength * i)).take lineLength

/-- How many lines the octets take. -/
def lineCount (b : Bytes) : Nat := (b.length + (lineLength - 1)) / lineLength

theorem lineCount_of_ne_nil (hb : b ≠ []) : lineCount b = lineCount (b.drop lineLength) + 1 := by
  have hpos := List.length_pos_iff.2 hb
  simp only [lineCount, lineLength, List.length_drop]
  omega

theorem part_succ (b : Bytes) (i : Nat) : part b (i + 1) = part (b.drop lineLength) i := by
  unfold part
  rw [List.drop_drop, Nat.mul_succ, Nat.add_comm]

/-- The first line is that of the first part, and the others are those of the rest. -/
theorem map_range_lineCount {α : Type} (f : Nat → Bytes → α) (hb : b ≠ []) :
    (List.range (lineCount b)).map (fun i => f i (part b i)) =
      f 0 (b.take lineLength) ::
        (List.range (lineCount (b.drop lineLength))).map fun i => f (i + 1) (part (b.drop lineLength) i) := by
  rw [lineCount_of_ne_nil hb, List.range_succ_eq_map, List.map_cons, List.map_map]
  congr 1
  apply List.map_congr_left
  intro i _
  show f (i + 1) (part b (i + 1)) = _
  rw [part_succ]

theorem flatten_parts (b : Bytes) : ((List.range (lineCount b)).map (part b)).flatten = b := by
  -- by the number of octets, which the first line lowers
  induction hlen : b.length using Nat.strongRecOn generalizing b with
  | ind n ih =>
    by_cases hb : b = []
    · rw [hb]
      rfl
    · have hpos := List.length_pos_iff.2 hb
      have hlt : (b.drop lineLength).length < n := by
        simp only [List.length_drop, lineLength]
        omega
      rw [map_range_lineCount (fun _ p => p) hb, List.flatten_cons, ih _ hlt _ rfl, List.take_append_drop]

theorem linesOnto_eq (done : List String) (offset : Nat) (b : Bytes) :
    linesOnto done offset b = done.reverse ++ (List.range (lineCount b)).map fun i =>
      String.ofList (line (offset + lineLength * i) (part b i)) := by
  fun_induction linesOnto done offset b with
  | case1 done offset =>
    exact (List.append_nil _).symm
  | case2 done offset b hb ih =>
    rw [ih, map_range_lineCount (fun i p => String.ofList (line (offset + lineLength * i) p)) hb]
    simp [Nat.mul_add, Nat.add_assoc, Nat.add_comm lineLength]

/-! ## Whole dumps -/

/-- The first octet of the payload, or zero if the payload is empty. -/
def lead (packet : Bytes) : Nat := ((packet.drop Frame.headerLength).head?.map UInt8.toNat).getD 0

/-- The line in front of the others, without its end. -/
def heading (size id lead : Nat) : String :=
  s!"Length: {size}, SequenceId: {id}, Header: {Marker.name lead}={lead} "

theorem newline_not_mem_repr (n : Nat) : '\n' ∉ n.repr.toList := by
  intro hmem
  exact absurd (isDigit_of_mem_toString hmem) (by decide)

theorem newline_not_mem_name (n : Int) : '\n' ∉ (Marker.name n).toList := by
  unfold Marker.name
  repeat' split
  all_goals decide

theorem heading_eq (size id lead : Nat) : heading size id lead =
    "Length: " ++ size.repr ++ ", SequenceId: " ++ id.repr ++ ", Header: " ++ Marker.name lead ++ "=" ++ lead.repr ++
      " " := rfl

theorem newline_not_mem_heading (size id lead : Nat) : '\n' ∉ (heading size id lead).toList := by
  rw [heading_eq]
  simp only [String.toList_append, List.mem_append, not_or]
  exact ⟨⟨⟨⟨⟨⟨⟨⟨by decide, newline_not_mem_repr size⟩, by decide⟩, newline_not_mem_repr id⟩, by decide⟩,
    newline_not_mem_name lead⟩, by decide⟩, newline_not_mem_repr lead⟩, by decide⟩

theorem title_eq {packet : Bytes} {size id : Nat} (hsize : Frame.size packet = .ok size)
    (hid : Frame.sequence packet = .ok id) :
    title packet = .ok (heading size id (lead packet) ++ "\n") := by
  have hend : " " ++ "\n" = " \n" := rfl
  unfold title
  rw [hsize, hid, heading_eq, String.append_assoc, hend]
  rfl

/-- The lines of a dump behind the first one, without their ends. -/
def bodies (packet : Bytes) : List (List Char) :=
  (List.range (lineCount packet)).map fun i => lineBody (lineLength * i) (part packet i)

theorem offset_lt {packet : Bytes} {i : Nat} (hlen : packet.length < 16 ^ 8) (hi : i < lineCount packet) :
    lineLength * i < 16 ^ 8 := by
  simp only [lineCount, lineLength] at hi ⊢
  omega

theorem flatMap_linesOnto (packet : Bytes) :
    (linesOnto [] 0 packet).flatMap String.toList = ((bodies packet).map (· ++ ['\n'])).flatten := by
  rw [linesOnto_eq, List.reverse_nil, List.nil_append, ← List.flatMap_def, bodies, List.flatMap_map,
    List.flatMap_map]
  simp only [String.toList_ofList, Nat.zero_add, line_eq]

theorem dump_eq {packet : Bytes} {first : String} (htitle : title packet = .ok first) :
    dump packet = .ok (String.join (first :: linesOnto [] 0 packet)) := by
  unfold dump
  rw [htitle]
  rfl

theorem splitAt_dump {packet : Bytes} {size id : Nat} (hlen : packet.length < 16 ^ 8)
    (hsize : Frame.size packet = .ok size) (hid : Frame.sequence packet = .ok id) :
    ∃ text, dump packet = .ok text ∧
      splitAt '\n' text.toList = (heading size id (lead packet)).toList :: (bodies packet ++ [[]]) := by
  have hlines : ∀ l ∈ bodies packet, '\n' ∉ l := by
    intro l hl hmem
    obtain ⟨i, hi, rfl⟩ := List.mem_map.1 hl
    have hoffset := offset_lt hlen (List.mem_range.1 hi)
    exact (visible_of_mem_lineBody hoffset _ _ hmem).ne_newline rfl
  refine ⟨_, dump_eq (title_eq hsize hid), ?_⟩
  rw [String.toList_join, List.flatMap_cons, flatMap_linesOnto, String.toList_append,
    show "\n".toList = ['\n'] from rfl, List.append_assoc, List.singleton_append,
    splitAt_append_cons (newline_not_mem_heading _ _ _), splitAt_lines hlines]

/-- A heading and lines that show a packet: its size and id as they are read in it, and in each line the next sixteen
octets, or fewer in the last one. Together the lines show all of it. -/
structure ShowsPacket (packet : Bytes) (head : List Char) (lines : List (List Char)) : Prop where
  head_eq : ∃ size id, Frame.size packet = .ok size ∧ Frame.sequence packet = .ok id ∧
    head = (heading size id (lead packet)).toList
  count : lines.length = (packet.length + 15) / 16
  line : ∀ (i : Nat) (hi : i < lines.length), Shows lines[i] (16 * i) ((packet.drop (16 * i)).take 16)
  whole : (lines.mapM fun l => parse (String.ofList (column l))).map List.flatten = some packet

theorem showsPacket_bodies {packet : Bytes} {size id : Nat} (hlen : packet.length < 16 ^ 8)
    (hsize : Frame.size packet = .ok size) (hid : Frame.sequence packet = .ok id) :
    ShowsPacket packet (heading size id (lead packet)).toList (bodies packet) := by
  have hshows : ∀ i < lineCount packet, Shows (lineBody (lineLength * i) (part packet i)) (lineLength * i)
      (part packet i) := fun i hi => shows_lineBody (offset_lt hlen hi) (List.length_take_le _ _)
  refine ⟨⟨size, id, hsize, hid, rfl⟩, ?_, ?_, ?_⟩
  · rw [bodies, List.length_map, List.length_range]
    rfl
  · intro i hi
    rw [bodies, List.length_map, List.length_range] at hi
    simp only [bodies, List.getElem_map, List.getElem_range]
    exact hshows i hi
  · have hread : (bodies packet).mapM (fun l => parse (String.ofList (column l))) =
        some ((List.range (lineCount packet)).map (part packet)) :=
      mapM_map_of_forall_mem _ fun i hi => (hshows i (List.mem_range.1 hi)).octets
    rw [hread]
    exact congrArg some (flatten_parts packet)

end HexDump

/-- The dump that a journal keeps of a packet shows it. -/
theorem Session.noteDump_shows {packet : Bytes} {s : Session} (hheader : 4 ≤ packet.length)
    (hlen : packet.length < 2 ^ 32) (hkeeps : s.journal.keeps Level.debug = true) :
    ∃ text head lines,
      noteDump packet s =
        .ok () { s with journal := { s.journal with records := ⟨Level.debug, text⟩ :: s.journal.records } } ∧
      splitAt '\n' text.toList = head :: (lines ++ [[]]) ∧ HexDump.ShowsPacket packet head lines := by
  have hsize := Frame.size_eq hheader
  have hid := Frame.sequence_eq hheader
  have hoffsets : packet.length < 16 ^ 8 := hlen
  obtain ⟨text, hdump, hlines⟩ := HexDump.splitAt_dump hoffsets hsize hid
  refine ⟨text, _, _, ?_, hlines, HexDump.showsPacket_bodies hoffsets hsize hid⟩
  unfold noteDump
  rw [if_pos hkeeps, hdump]
  show EStateM.Result.ok () { s with journal := s.journal.note Level.debug text } = _
  unfold Journal.note
  rw [if_pos hkeeps]

/-- A packet of eighteen octets takes two lines, of which the last shows two octets. -/
theorem Session.noteDump_shows_short_line :
    let packet : Bytes := [14, 0, 0, 1, 3, 83, 69, 76, 69, 67, 84, 32, 49, 32, 43, 32, 65, 10]
    let s := start (.ofPeer []) (.fresh Level.debug)
    4 ≤ packet.length ∧ packet.length < 2 ^ 32 ∧ s.journal.keeps Level.debug = true ∧
      ∃ text lines,
        (noteDump packet s = .ok () { s with journal := { s.journal with records := [⟨Level.debug, text⟩] } }) ∧
        splitAt '\n' text.toList = "Length: 14, SequenceId: 1, Header: =3 ".toList :: (lines ++ [[]]) ∧
        ∃ hlines : lines.length = 2, HexDump.Shows lines[1] 16 [65, 10] := by
  intro packet s
  obtain ⟨text, head, lines, hnote, hsplit, hshows⟩ := @noteDump_shows packet s (by decide) (by decide) (by decide)
  obtain ⟨size, id, hsize, hid, hhead⟩ := hshows.head_eq
  have hcount : lines.length = 2 := hshows.count.trans (by decide)
  refine ⟨by decide, by decide, by decide, text, lines, hnote, ?_, hcount, hshows.line 1 (by omega)⟩
  have hsize' : size = 14 := Except.ok.inj (hsize.symm.trans (Frame.size_eq (by decide)))
  have hid' : id = 1 := Except.ok.inj (hid.symm.trans (Frame.sequence_eq (by decide)))
  rw [hsplit, hhead, hsize', hid']
  exact congrArg (· :: (lines ++ [[]])) (show _ = _ by decide)

end SqlWire
