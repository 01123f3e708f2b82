import SqlWire.Text.Utf8
/-!
# Text survives UTF-8

Octets that were written from a text are read back as that text (`decode_encode`): between
characters, the octets of one character bring the reader to that character and back between. Of any
octets, written from a text or not, no character zero is read unless there is a zero among them
(`zero_not_mem_decode`).
-/
namespace SqlWire.Utf8

theorem run_append (a b : Bytes) (start : List Char × State) :
    run (a ++ b) start = run b (run a start) := List.foldl_append

theorem run_cons (x : UInt8) (b : Bytes) (done : List Char) (state : State) :
    run (x :: b) (done, state) =
      run b ((step state x.toNat).1 ++ done, (step state x.toNat).2) := rfl

theorem toNat_octet {n : Nat} (h : n < 0x100) : (UInt8.ofNat n).toNat = n := by
  rw [UInt8.toNat_ofNat', Nat.mod_eq_of_lt (by omega)]

/-! ## Inside a character -/

/-- An octet of the character, with more of them to come. -/
theorem step_more {tails low high scalar b : Nat} (hl : low ≤ b) (hh : b ≤ high) (ht : tails ≠ 1) :
    step (.inside tails low high scalar) b =
      ([], .inside (tails - 1) 0x80 0xBF (scalar * 0x40 + (b - 0x80))) := by
  rw [step, if_pos ⟨hl, hh⟩, if_neg ht]

/-- The last octet of the character. -/
theorem step_last {low high scalar b : Nat} (hl : low ≤ b) (hh : b ≤ high) :
    step (.inside 1 low high scalar) b =
      ([Char.ofNat (scalar * 0x40 + (b - 0x80))], .between) := by
  rw [step, if_pos ⟨hl, hh⟩, if_pos rfl]

/-- The two octets that end a character of three or four. -/
theorem run_two (done : List Char) {low high scalar b n : Nat} (hl : low ≤ b) (hh : b ≤ high)
    (hb : b < 0x100) (hn : scalar * 0x1000 + (b - 0x80) * 0x40 + n % 0x40 = n) :
    run [UInt8.ofNat b, UInt8.ofNat (0x80 + n % 0x40)] (done, .inside 2 low high scalar) =
      (Char.ofNat n :: done, .between) := by
  have hlast : (scalar * 0x40 + (b - 0x80)) * 0x40 + (0x80 + n % 0x40 - 0x80) = n := by omega
  rw [run_cons, toNat_octet hb, step_more hl hh (by decide), run_cons, toNat_octet (by omega),
    step_last (by omega) (by omega), hlast]
  rfl

/-! ## One character -/

theorem first_two {b : Nat} (hl : 0xC2 ≤ b) (hh : b < 0xE0) :
    first b = ([], .inside 1 0x80 0xBF (b - 0xC0)) := by
  rw [first, if_neg (by omega), if_neg (by omega), if_pos hh]

theorem first_three {b : Nat} (hl : 0xE0 ≤ b) (hh : b < 0xF0) :
    first b = ([], .inside 2 (if b = 0xE0 then 0xA0 else 0x80) (if b = 0xED then 0x9F else 0xBF)
      (b - 0xE0)) := by
  rw [first, if_neg (by omega), if_neg (by omega), if_neg (by omega), if_pos hh]

theorem first_four {b : Nat} (hl : 0xF0 ≤ b) (hh : b < 0xF5) :
    first b = ([], .inside 3 (if b = 0xF0 then 0x90 else 0x80) (if b = 0xF4 then 0x8F else 0xBF)
      (b - 0xF0)) := by
  rw [first, if_neg (by omega), if_neg (by omega), if_neg (by omega), if_neg (by omega), if_pos hh]

/-- A character is no surrogate and has a scalar value below 0x110000. -/
theorem toNat_valid (c : Char) : c.toNat < 0xD800 ∨ 0xDFFF < c.toNat ∧ c.toNat < 0x110000 :=
  c.valid

theorem run_encodeChar (done : List Char) (c : Char) :
    run (encodeChar c) (done, .between) = (c :: done, .between) := by
  have hc := toNat_valid c
  have he : Char.ofNat c.toNat = c := Char.ofNat_toNat c
  unfold encodeChar
  generalize c.toNat = n at hc he
  dsimp only
  -- one, two, three or four octets
  split
  · next h1 =>
    rw [run_cons, toNat_octet (by omega), step, first, if_pos h1, he]
    rfl
  split
  · next h1 h2 =>
    have hn : (0xC0 + n / 0x40 - 0xC0) * 0x40 + (0x80 + n % 0x40 - 0x80) = n := by omega
    rw [run_cons, toNat_octet (by omega), step, first_two (by omega) (by omega), run_cons,
      toNat_octet (by omega), step_last (by omega) (by omega), hn, he]
    rfl
  split
  · next h1 h2 h3 =>
    rw [run_cons, toNat_octet (by omega), step, first_three (by omega) (by omega),
      run_two _ (by split <;> omega) (by split <;> omega) (by omega) (by omega), he]
    rfl
  · next h1 h2 h3 =>
    rw [run_cons, toNat_octet (by omega), step, first_four (by omega) (by omega), run_cons,
      toNat_octet (by omega), step_more (by split <;> omega) (by split <;> omega) (by decide),
      run_two _ (by omega) (by omega) (by omega) (by omega), he]
    rfl

/-- Only the character zero has a zero octet. -/
theorem zero_mem_encodeChar {c : Char} : 0 ∈ encodeChar c ↔ c.toNat = 0 := by
  have hc := toNat_valid c
  have hzero {n : Nat} (hn : n < 0x100) : (0 : UInt8) = UInt8.ofNat n ↔ n = 0 := by
    rw [← UInt8.toNat_inj, toNat_octet hn]
    exact eq_comm
  unfold encodeChar
  generalize c.toNat = n at hc
  dsimp only
  split
  · simp only [List.mem_singleton]
    rw [hzero (by omega)]
  split
  · simp only [List.mem_cons, List.not_mem_nil, or_false]
    rw [hzero (by omega), hzero (by omega)]
    omega
  split
  · simp only [List.mem_cons, List.not_mem_nil, or_false]
    rw [hzero (by omega), hzero (by omega), hzero (by omega)]
    omega
  · simp only [List.mem_cons, List.not_mem_nil, or_false]
    rw [hzero (by omega), hzero (by omega), hzero (by omega), hzero (by omega)]
    omega

/-! ## Text -/

theorem zero_mem_encode {s : String} : 0 ∈ encode s ↔ '\x00' ∈ s.toList := by
  simp only [encode, List.mem_flatMap, zero_mem_encodeChar]
  constructor
  · rintro ⟨c, hc, hz⟩
    rwa [show c = '\x00' from Char.toNat_inj.1 hz] at hc
  · exact fun h => ⟨_, h, rfl⟩

theorem run_flatMap (done : List Char) (cs : List Char) :
    run (cs.flatMap encodeChar) (done, .between) = (cs.reverse ++ done, .between) := by
  induction cs generalizing done with
  | nil => rfl
  | cons c cs ih => simp [run_append, run_encodeChar, ih]

/-- Reading what was written gives the same text. -/
theorem decode_encode (s : String) : decode (encode s) = s := by
  rw [decode, encode, run_flatMap]
  simp [close]

/-! ## The ends of a text -/

/-- What a character begins with is an octet of its own, or none that stands for a character alone. -/
theorem head_encodeChar (c : Char) : ∃ x b, encodeChar c = x :: b ∧ (x.toNat = c.toNat ∨ 0x80 ≤ x.toNat) := by
  have hc := toNat_valid c
  unfold encodeChar
  generalize c.toNat = n at hc
  dsimp only
  split
  · exact ⟨_, _, rfl, .inl (toNat_octet (by omega))⟩
  split
  · exact ⟨_, _, rfl, .inr (by rw [toNat_octet (by omega)]; omega)⟩
  split
  · exact ⟨_, _, rfl, .inr (by rw [toNat_octet (by omega)]; omega)⟩
  · exact ⟨_, _, rfl, .inr (by rw [toNat_octet (by omega)]; omega)⟩

/-- The octets of a text begin with the octet of an ASCII character only if the text begins with it. -/
theorem head?_encode_ne {s : String} {d : Char} (hd : d.toNat < 0x80) (hs : s.toList.head? ≠ some d) :
    (encode s).head? ≠ some (UInt8.ofNat d.toNat) := by
  unfold encode
  cases hcs : s.toList with
  | nil => simp
  | cons c cs =>
    obtain ⟨x, b, hx, hlead⟩ := head_encodeChar c
    rw [List.flatMap_cons, hx]
    intro h
    have hxd : x.toNat = d.toNat := by
      rw [List.cons_append, List.head?_cons, Option.some.injEq] at h
      rw [h, toNat_octet (by omega)]
    rcases hlead with hlead | hlead
    · rw [hcs, ← Char.toNat_inj.1 (hlead.symm.trans hxd)] at hs
      exact hs rfl
    · omega

/-- The octets of a text end in zero only if the text does. -/
theorem getLast?_encode_ne_zero {s : String} (hs : s.toList.getLast? ≠ some '\x00') :
    (encode s).getLast? ≠ some 0 := by
  unfold encode
  rcases List.eq_nil_or_concat s.toList with hnil | ⟨cs, c, hcs⟩
  · simp [hnil]
  · obtain ⟨x, b, hx, -⟩ := head_encodeChar c
    have hne : encodeChar c ≠ [] := by simp [hx]
    rw [hcs, List.concat_eq_append, List.flatMap_append, List.flatMap_singleton, List.getLast?_append,
      List.getLast?_eq_some_getLast hne, Option.some_or]
    intro h
    have hmem : 0 ∈ encodeChar c := Option.some.inj h ▸ List.getLast_mem hne
    have hzero : c = '\x00' := Char.toNat_inj.1 (zero_mem_encodeChar.1 hmem)
    rw [hcs, List.concat_eq_append, List.getLast?_concat, hzero] at hs
    exact hs rfl

/-- ASCII characters are written in one octet each. -/
theorem length_encode_of_ascii {s : String} (hs : ∀ c ∈ s.toList, c.toNat < 0x80) :
    (encode s).length = s.toList.length := by
  unfold encode
  rw [List.length_flatMap]
  have hone : ∀ c ∈ s.toList, (encodeChar c).length = 1 := by
    intro c hc
    rw [encodeChar, if_pos (hs c hc)]
    rfl
  rw [List.map_eq_replicate_iff.2 hone]
  simp

/-! ## Octets that hold no zero -/

/-- The number of a character other than zero. -/
def IsScalar (n : Nat) : Prop := 0 < n ∧ (n < 0xD800 ∨ 0xDFFF < n ∧ n < 0x110000)

/-- Whichever octets go on with it, a character comes of it, and not zero. -/
def Completes : (tails low high scalar : Nat) → Prop
  | 0, _, _, _ => False
  | 1, low, high, scalar => ∀ b, low ≤ b → b ≤ high → IsScalar (scalar * 0x40 + (b - 0x80))
  | tails + 2, low, high, scalar =>
    ∀ b, low ≤ b → b ≤ high → Completes (tails + 1) 0x80 0xBF (scalar * 0x40 + (b - 0x80))

/-- The reader is between characters, or inside one that can only end well. -/
def State.Sound : State → Prop
  | .between => True
  | .inside tails low high scalar => Completes tails low high scalar

theorem ofNat_ne_zero {n : Nat} (h : IsScalar n) : Char.ofNat n ≠ '\x00' := by
  obtain ⟨hpos, hvalid⟩ := h
  intro he
  have hn : (Char.ofNat n).toNat = n := by
    rw [Char.ofNat, dif_pos hvalid]
    rfl
  rw [he] at hn
  exact absurd hn (Nat.ne_of_lt hpos)

/-- An octet other than zero is no zero, and begins no character that could end as one. -/
theorem first_sound {b : Nat} (hb : 0 < b) :
    '\x00' ∉ (first b).1 ∧ (first b).2.Sound := by
  unfold first
  split
  · next h =>
    have hne := ofNat_ne_zero (n := b) ⟨hb, .inl (by omega)⟩
    exact ⟨by simpa using hne.symm, trivial⟩
  split
  · exact ⟨by decide, trivial⟩
  split
  · refine ⟨by simp, ?_⟩
    intro x hl hh
    unfold IsScalar
    omega
  split
  · refine ⟨by simp, ?_⟩
    intro x hl hh y hl' hh'
    unfold IsScalar
    split at hl <;> split at hh <;> omega
  split
  · refine ⟨by simp, ?_⟩
    intro x hl hh y hl' hh' z hl'' hh''
    unfold IsScalar
    split at hl <;> split at hh <;> omega
  · exact ⟨by decide, trivial⟩

theorem step_sound {state : State} {b : Nat} (hs : state.Sound) (hb : 0 < b) :
    '\x00' ∉ (step state b).1 ∧ (step state b).2.Sound := by
  cases state with
  | between => exact first_sound hb
  | inside tails low high scalar =>
    by_cases h : low ≤ b ∧ b ≤ high
    · obtain ⟨hl, hh⟩ := h
      -- the last octet of the character, or one with others to come
      match tails, hs with
      | 1, hs =>
        have hne := ofNat_ne_zero (hs b hl hh)
        rw [step_last hl hh]
        exact ⟨by simpa using hne.symm, trivial⟩
      | tails + 2, hs =>
        rw [step_more hl hh (by omega)]
        exact ⟨List.not_mem_nil, hs b hl hh⟩
    · obtain ⟨hfound, hnext⟩ := first_sound hb
      rw [step, if_neg h]
      refine ⟨?_, hnext⟩
      rw [List.mem_append, not_or]
      exact ⟨hfound, by decide⟩

theorem run_sound {b : Bytes} (hb : 0 ∉ b) {done : List Char} {state : State} (hdone : '\x00' ∉ done)
    (hs : state.Sound) : '\x00' ∉ (run b (done, state)).1 := by
  induction b generalizing done state with
  | nil => exact hdone
  | cons x b ih =>
    rw [List.mem_cons, not_or] at hb
    have hx : 0 < x.toNat := Nat.pos_of_ne_zero fun h => hb.1 (UInt8.toNat_inj.1 h.symm)
    obtain ⟨hfound, hnext⟩ := step_sound hs hx
    rw [run_cons]
    refine ih hb.2 ?_ hnext
    rw [List.mem_append, not_or]
    exact ⟨hfound, hdone⟩

/-- Octets that hold no zero are read as a text that holds none. -/
theorem zero_not_mem_decode {b : Bytes} (hb : 0 ∉ b) : '\x00' ∉ (decode b).toList := by
  have h : '\x00' ∉ (run b ([], .between)).1 := run_sound hb List.not_mem_nil trivial
  rw [decode, String.toList_ofList]
  -- a character that is cut short is no zero either
  generalize run b ([], .between) = r at h
  obtain ⟨done, state⟩ := r
  cases state with
  | between => simpa [close] using h
  | inside =>
    have hne : '\x00' ≠ replacement := by decide
    simpa [close, hne] using h

end SqlWire.Utf8
