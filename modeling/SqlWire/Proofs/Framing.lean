import SqlWire.HexDump
import SqlWire.Proofs.Decoding
import SqlWire.Proofs.Delivery
/-!
# Frames on a stream

Any octets either begin with the frame of one packet or end inside a frame (`frame_or_short`), and
reading a packet goes by just that: `readPacket_of_frame` and `readPacket_of_short`. Every frame
has a hex dump.
-/
namespace SqlWire

namespace Packet

/-- The octets of a packet on the wire. -/
def frame (p : Packet) : Bytes := Frame.header p.payload.length p.sequence ++ p.payload

/-- The header of its frame says what the packet is. -/
structure Fits (p : Packet) : Prop where
  sequence_nonneg : 0 ≤ p.sequence
  sequence_lt : p.sequence < 256
  payload_le : p.payload.length ≤ Frame.maxPayload

@[simp] theorem length_frame (p : Packet) :
    p.frame.length = Frame.headerLength + p.payload.length := by
  simp [frame, Frame.header, Frame.headerLength]
  omega

theorem headerLength_le_frame (p : Packet) : Frame.headerLength ≤ p.frame.length := by
  rw [length_frame]
  exact Nat.le_add_right ..

end Packet

namespace Frame

/-- The octets end before the frame does that they begin. -/
def Short (b : Bytes) : Prop :=
  b.length < headerLength ∨ b.length < headerLength + Bytes.value (b.take 3)

/-! ## Headers -/

@[simp] theorem length_header (size : Nat) (id : Int) : (header size id).length = headerLength := by
  simp [header, headerLength]

theorem value_take_header {size : Nat} (h : size ≤ maxPayload) (id : Int) :
    Bytes.value ((header size id).take 3) = size := by
  rw [header, List.take_append_of_le_length (by simp), List.take_of_length_le (by simp)]
  exact Bytes.value_ofInt_of_lt (Nat.lt_of_le_of_lt h (by decide))

theorem value_drop_header {id : Int} (h0 : 0 ≤ id) (h1 : id < 256) (size : Nat) :
    (Bytes.value ((header size id).drop 3) : Int) = id := by
  rw [header, List.drop_append_of_le_length (by simp), List.drop_of_length_le (by simp)]
  simp only [List.nil_append, Bytes.value_cons, Bytes.value_nil, Nat.mul_zero, Nat.add_zero]
  rw [Bytes.toNat_lowOctet]
  omega

/-- Every four octets are the header of some frame. -/
theorem header_value {b : Bytes} (h : b.length = headerLength) :
    header (Bytes.value (b.take 3)) (Bytes.value (b.drop 3)) = b := by
  simp only [headerLength] at h
  have h3 : (b.take 3).length = 3 := by simp; omega
  have h1 : (b.drop 3).length = 1 := by simp; omega
  have e3 := Bytes.ofInt_value (b.take 3)
  have e1 := Bytes.ofInt_value (b.drop 3)
  rw [h3] at e3
  rw [h1] at e1
  rw [header, e3, show [Bytes.lowOctet (Bytes.value (b.drop 3))] = b.drop 3 from e1,
    List.take_append_drop]

theorem value_take_le {b : Bytes} : Bytes.value (b.take 3) ≤ maxPayload := by
  have hlt (x : UInt8) : x.toNat < 256 := x.toNat_lt
  match b with
  | [] => simp [maxPayload]
  | [x] =>
    have := hlt x
    simp [maxPayload]
    omega
  | [x, y] =>
    have := hlt x
    have := hlt y
    simp [maxPayload]
    omega
  | x :: y :: z :: _ =>
    have := hlt x
    have := hlt y
    have := hlt z
    simp [maxPayload]
    omega

/-! ## Where a frame ends -/

/-- Octets begin with a frame, or end inside one. -/
theorem frame_or_short (b : Bytes) : Short b ∨ ∃ p rest, Packet.Fits p ∧ b = p.frame ++ rest := by
  by_cases hs : Short b
  · exact .inl hs
  · right
    simp only [Short, not_or, Nat.not_lt] at hs
    obtain ⟨hhead, hsize⟩ := hs
    generalize hn : Bytes.value (b.take 3) = size at hsize
    have hhead' : (b.take headerLength).length = headerLength := by
      rw [List.length_take]
      omega
    have hpay : ((b.drop headerLength).take size).length = size := by
      simp only [List.length_take, List.length_drop]
      omega
    refine ⟨⟨Bytes.value ((b.take headerLength).drop 3), (b.drop headerLength).take size⟩,
      (b.drop headerLength).drop size, ⟨by simp, ?_, ?_⟩, ?_⟩
    · have h1 : ((b.take headerLength).drop 3).length = 1 := by simp [headerLength] at *; omega
      obtain ⟨x, hx⟩ := List.length_eq_one_iff.1 h1
      have := x.toNat_lt
      simp only [hx, Bytes.value_cons, Bytes.value_nil]
      omega
    · rw [hpay, ← hn]
      exact value_take_le
    · have htake : (b.take headerLength).take 3 = b.take 3 := by simp [headerLength, List.take_take]
      have hh := header_value hhead'
      rw [htake, hn] at hh
      rw [Packet.frame, hpay, hh, List.append_assoc, List.take_append_drop, List.take_append_drop]

/-- Only a whole frame is long enough. -/
theorem short_of_prefix {p : Packet} (hp : p.Fits) {c : Bytes} (hc : c <+: p.frame)
    (hne : c ≠ p.frame) : Short c := by
  obtain ⟨d, hd⟩ := hc
  have hlen : c.length < p.frame.length := by
    have hl := congrArg List.length hd
    rw [List.length_append] at hl
    rcases Nat.eq_zero_or_pos d.length with h0 | h0
    · rw [List.length_eq_zero_iff.1 h0, List.append_nil] at hd
      exact absurd hd hne
    · omega
  rw [Packet.length_frame] at hlen
  rcases Nat.lt_or_ge c.length headerLength with h | h
  · exact .inl h
  · right
    have htake : c.take 3 = (header p.payload.length p.sequence).take 3 := by
      have h3 := congrArg (List.take 3) hd
      simp only [headerLength] at h
      rw [List.take_append_of_le_length (by omega), Packet.frame,
        List.take_append_of_le_length (by simp [headerLength])] at h3
      exact h3
    rw [htake, value_take_header hp.payload_le]
    exact hlen

end Frame

/-! ## Reading a packet -/

namespace Transport

variable {t : Transport}

/-- The frame of the next packet is taken, and nothing behind it. -/
theorem readPacket_of_frame {p : Packet} (hp : p.Fits) {rest : Bytes}
    (h : t.incoming = p.frame ++ rest) (hr : p.frame.length ≤ t.reach) :
    ∃ r, readPacket t = .ok p (t.past p.frame.length r) := by
  rw [Packet.length_frame] at hr ⊢
  have hhead : t.incoming.take Frame.headerLength = Frame.header p.payload.length p.sequence := by
    rw [h, Packet.frame, List.append_assoc, List.take_append_of_le_length (by simp),
      List.take_of_length_le (by simp)]
  have hpay : (t.incoming.drop Frame.headerLength).take p.payload.length = p.payload := by
    rw [h, Packet.frame, List.append_assoc, List.drop_append_of_le_length (by simp),
      List.drop_of_length_le (by simp), List.nil_append,
      List.take_append_of_le_length (Nat.le_refl _), List.take_of_length_le (Nat.le_refl _)]
  have hle : Frame.headerLength ≤ t.reach := by omega
  obtain ⟨r1, h1⟩ := readExactly_of_le hle
  have hle' : p.payload.length ≤ (t.past Frame.headerLength r1).reach := by
    rw [reach_past hle]
    omega
  obtain ⟨r2, h2⟩ := readExactly_of_le hle'
  refine ⟨r2, Stateful.bind_eq_ok.2 ⟨_, _, h1, Stateful.bind_eq_ok.2 ⟨p.payload,
    (t.past Frame.headerLength r1).past p.payload.length r2, ?_, ?_⟩⟩⟩
  · rw [hhead, Frame.value_take_header hp.payload_le, h2]
    simp only [past, hpay]
  · rw [past_past, hhead, Frame.value_drop_header hp.sequence_nonneg hp.sequence_lt]
    rfl

/-- A frame that is not within reach is taken as far as it goes. -/
theorem readPacket_of_short (h : Frame.Short (t.incoming.take t.reach)) :
    ∃ got wanted r, readPacket t = .error (t.shortage got wanted) (t.past t.reach r) := by
  have hle := t.reach_le
  have hlen : (t.incoming.take t.reach).length = t.reach := by rw [List.length_take]; omega
  rcases Nat.lt_or_ge t.reach Frame.headerLength with hlt | hge
  · obtain ⟨r, h1⟩ := readExactly_of_lt hlt
    exact ⟨_, _, r, Stateful.bind_eq_error.2 (.inl h1)⟩
  · obtain ⟨r1, h1⟩ := readExactly_of_le hge
    have hsize : t.reach < Frame.headerLength +
        Bytes.value ((t.incoming.take Frame.headerLength).take 3) := by
      have htake : (t.incoming.take Frame.headerLength).take 3 = (t.incoming.take t.reach).take 3 := by
        simp only [Frame.headerLength] at *
        rw [List.take_take, List.take_take]
        congr 1
        omega
      rw [htake]
      rcases h with h | h <;> omega
    have hreach := reach_past (t := t) (r := r1) hge
    have hlt : (t.past Frame.headerLength r1).reach <
        Bytes.value ((t.incoming.take Frame.headerLength).take 3) := by omega
    obtain ⟨r2, h2⟩ := readExactly_of_lt hlt
    have hall : Frame.headerLength + (t.reach - Frame.headerLength) = t.reach := by omega
    rw [shortage_past hge, past_past, hreach, hall] at h2
    exact ⟨_, _, r2, Stateful.bind_eq_error.2 (.inr ⟨_, _, h1, Stateful.bind_eq_error.2 (.inl h2)⟩)⟩

end Transport

/-! ## Hex dumps of frames -/

theorem Frame.size_eq {b : Bytes} (h : headerLength ≤ b.length) : size b = .ok (Bytes.value (b.take 3)) := by
  have hread := Decoder.fixedInt_atOffset (show 1 ≤ 3 by decide) (Nat.le_trans (show 0 + 3 ≤ 4 by decide) h)
  unfold size
  rw [Decoder.read_eq_outcome]
  exact congrArg Stateful.outcome hread

theorem Frame.sequence_eq {b : Bytes} (h : headerLength ≤ b.length) :
    sequence b = .ok (Bytes.value ((b.drop 3).take 1)) := by
  unfold sequence
  rw [Decoder.fixedInt_atOffset (Nat.le_refl 1) h]

/-- Whatever has a header has a dump. -/
theorem HexDump.exists_dump {b : Bytes} (h : Frame.headerLength ≤ b.length) :
    ∃ text, dump b = .ok text := by
  unfold dump title
  rw [Frame.size_eq h, Frame.sequence_eq h]
  exact ⟨_, rfl⟩

theorem Packet.exists_dump (p : Packet) : ∃ text, HexDump.dump p.frame = .ok text :=
  HexDump.exists_dump p.headerLength_le_frame

end SqlWire
