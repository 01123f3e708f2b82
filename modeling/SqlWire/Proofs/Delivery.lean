import SqlWire.Transport
/-!
# What a transport delivers

The octets arrive in pieces, and reading may start to fail. `readExactly_of_le` and
`readExactly_of_lt` say what a read of so many octets comes to: neither the value nor the octets
left over hang on how the pieces were cut.
-/
namespace SqlWire.Transport

variable {t : Transport} {asked wanted : Nat}

/-! ## How far reads reach -/

/-- How many of the octets to come arrive before reads fail. -/
def reach (t : Transport) : Nat :=
  match t.readFault with
  | some (limit, _) => min t.incoming.length (limit - t.consumed)
  | none => t.incoming.length

/-- The transport behind the next `n` octets, however many reads they took. -/
def past (t : Transport) (n reads : Nat) : Transport :=
  { t with incoming := t.incoming.drop n, consumed := t.consumed + n, reads := reads }

/-- Why reads come to nothing once all octets within reach are taken. -/
def shortage (t : Transport) (got wanted : Nat) : ReadFault :=
  match t.readFault with
  | some (limit, reason) =>
    if limit ≤ t.consumed + t.incoming.length then .failed reason else .ended got wanted
  | none => .ended got wanted

theorem reach_le (t : Transport) : t.reach ≤ t.incoming.length := by
  unfold reach
  split
  · exact Nat.min_le_left _ _
  · exact Nat.le_refl _

theorem reach_past {n r : Nat} (h : n ≤ t.reach) : (t.past n r).reach = t.reach - n := by
  have hle := t.reach_le
  cases hf : t.readFault with
  | none => simp [reach, past, hf]
  | some f =>
    simp only [reach, past, hf, List.length_drop] at h ⊢
    omega

theorem shortage_past {n r got : Nat} (h : n ≤ t.reach) :
    (t.past n r).shortage got wanted = t.shortage got wanted := by
  have hle := t.reach_le
  have e : t.consumed + n + (t.incoming.length - n) = t.consumed + t.incoming.length := by omega
  simp only [shortage, past, List.length_drop, e]

theorem past_past (n r n' r' : Nat) : (t.past n r).past n' r' = t.past (n + n') r' := by
  simp [past, Nat.add_assoc]

/-! ## One read -/

theorem share_pos (hr : 0 < t.reach) (ha : 0 < asked) : 0 < t.share asked := by
  unfold share reach at *
  split at hr <;> simp_all only <;> omega

theorem min_share_le (t : Transport) (asked : Nat) :
    min (t.share asked) t.incoming.length ≤ min asked t.reach := by
  cases hf : t.readFault with
  | none => simp only [share, reach, hf]; omega
  | some f => simp only [share, reach, hf]; omega

theorem deliver_eq (t : Transport) (asked : Nat) :
    t.deliver asked = (t.incoming.take (min (t.share asked) t.incoming.length),
      t.past (min (t.share asked) t.incoming.length) (t.reads + 1)) := by
  unfold deliver past
  by_cases h : t.share asked ≤ t.incoming.length
  · simp [Nat.min_eq_left h]
  · have hle : t.incoming.length ≤ t.share asked := by omega
    simp [Nat.min_eq_right hle, List.take_of_length_le hle, List.drop_eq_nil_of_le hle]

/-- A read within reach gets at least one octet and no more than asked for. -/
theorem read_of_reach_pos (hr : 0 < t.reach) (ha : 0 < asked) :
    ∃ x piece r, piece.length + 1 ≤ asked ∧ piece.length + 1 ≤ t.reach ∧
      t.incoming.take (piece.length + 1) = x :: piece ∧
      read asked t = .ok (x :: piece) (t.past (piece.length + 1) r) := by
  have hshare := share_pos hr ha
  have hlen := t.reach_le
  have hle := t.min_share_le asked
  have hread : read asked t = .ok (t.deliver asked).1 (t.deliver asked).2 := by
    unfold read
    split
    · next limit reason hf =>
      have hlimit : ¬ limit ≤ t.consumed := by
        simp only [reach, hf] at hr
        omega
      rw [if_neg hlimit]
    · rfl
  rw [deliver_eq] at hread
  generalize hn : min (t.share asked) t.incoming.length = n at hread hle
  have htake : (t.incoming.take n).length = n := by rw [List.length_take]; omega
  cases hp : t.incoming.take n with
  | nil =>
    rw [hp] at htake
    simp only [List.length_nil] at htake
    omega
  | cons x piece =>
    have hpiece : piece.length + 1 = n := by rw [← htake, hp]; rfl
    rw [hp, ← hpiece] at hread
    exact ⟨x, piece, t.reads + 1, by omega, by omega, hpiece ▸ hp, hread⟩

/-- With nothing within reach a read fails, or gets nothing. -/
theorem read_of_reach_zero (hr : t.reach = 0) (got wanted asked : Nat) :
    (∃ reason, read asked t = .error reason t ∧ t.shortage got wanted = .failed reason) ∨
      ∃ r, read asked t = .ok [] (t.past 0 r) ∧ t.shortage got wanted = .ended got wanted := by
  have hle := t.min_share_le asked
  have hmin : min (t.share asked) t.incoming.length = 0 := by omega
  unfold read
  rw [deliver_eq, hmin]
  cases hf : t.readFault with
  | none => exact .inr ⟨t.reads + 1, rfl, by simp [shortage, hf]⟩
  | some f =>
    obtain ⟨limit, reason⟩ := f
    simp only [reach, hf] at hr
    by_cases hlimit : limit ≤ t.consumed
    · exact .inl ⟨reason, if_pos hlimit, by simp only [shortage, hf]; rw [if_pos (by omega)]⟩
    · exact .inr ⟨t.reads + 1, if_neg hlimit, by simp only [shortage, hf]; rw [if_neg (by omega)]⟩

/-! ## As many octets as wanted -/

/-- Octets are gathered behind those that are `done` until there are enough, or nothing is within
reach. -/
theorem readOnto_spec (done : Bytes) (got wanted : Nat) (t : Transport) :
    ∃ r, readOnto done got wanted t =
      if wanted - got ≤ t.reach then
        .ok (done.reverse ++ t.incoming.take (wanted - got)) (t.past (wanted - got) r)
      else .error (t.shortage (got + t.reach) wanted) (t.past t.reach r) := by
  -- by the number of octets still missing, which every read that gets some lowers
  induction hk : wanted - got using Nat.strongRecOn generalizing done got t with
  | ind k ih =>
    rw [readOnto]
    by_cases hlt : got < wanted
    · rw [if_pos hlt, hk]
      rcases Nat.eq_zero_or_pos t.reach with hr | hr
      · have hshort : ¬ k ≤ 0 := by omega
        rcases read_of_reach_zero hr got wanted k with ⟨reason, hread, hs⟩ | ⟨r, hread, hs⟩
        · exact ⟨t.reads, by simp only [hread, hr, if_neg hshort, Nat.add_zero, hs]; rfl⟩
        · exact ⟨r, by simp only [hread, hr, if_neg hshort, Nat.add_zero, hs]⟩
      · obtain ⟨x, piece, r1, hasked, hle, hpiece, hread⟩ :=
          read_of_reach_pos hr (show 0 < k by omega)
        generalize hn : piece.length + 1 = n at hasked hle hpiece hread
        obtain ⟨r, hrest⟩ := ih (k - n) (by omega) (List.reverseAux piece (x :: done)) (got + n)
          (t.past n r1) (by omega)
        have htake : (List.reverseAux piece (x :: done)).reverse ++
            (t.past n r1).incoming.take (k - n) = done.reverse ++ t.incoming.take k := by
          rw [show t.incoming.take k = t.incoming.take (n + (k - n)) by congr 1; omega,
            List.take_add, hpiece]
          simp [past, List.reverseAux_eq]
        refine ⟨r, ?_⟩
        simp only [hread, hn, hrest, htake, reach_past hle, shortage_past hle, past_past]
        rw [show n + (k - n) = k by omega, show got + n + (t.reach - n) = got + t.reach by omega,
          show n + (t.reach - n) = t.reach by omega]
        by_cases hreach : k ≤ t.reach
        · rw [if_pos (by omega), if_pos hreach]
        · rw [if_neg (by omega), if_neg hreach]
    · have hz : k = 0 := by omega
      exact ⟨t.reads, by simp [hlt, hz, past]⟩

/-- Enough octets are within reach: they are read, and no more. -/
theorem readExactly_of_le (h : wanted ≤ t.reach) :
    ∃ r, readExactly wanted t = .ok (t.incoming.take wanted) (t.past wanted r) := by
  obtain ⟨r, hr⟩ := readOnto_spec [] 0 wanted t
  exact ⟨r, by rw [readExactly, hr, if_pos (by omega)]; rfl⟩

/-- Too few octets are within reach: they are taken, and the read fails. -/
theorem readExactly_of_lt (h : t.reach < wanted) :
    ∃ r, readExactly wanted t = .error (t.shortage t.reach wanted) (t.past t.reach r) := by
  obtain ⟨r, hr⟩ := readOnto_spec [] 0 wanted t
  exact ⟨r, by rw [readExactly, hr, if_neg (by omega), Nat.zero_add]⟩

end SqlWire.Transport
