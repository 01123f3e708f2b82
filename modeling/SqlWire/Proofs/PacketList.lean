import SqlWire.Proofs.Course
/-!
# Lists of packets

Octets are cut into frames in one way: `exists_frames` cuts any octets into frames and a rest that ends
inside one, and `readToEnd_of_frames` reads back just the packets of these frames, failing where there is
a rest.
-/
namespace SqlWire

/-! ## Cutting octets into frames -/

namespace Frame

/-- The frames of packets, one behind the other, or the length of a payload that fits no frame. -/
def encodeAll : List Packet → Except Nat Bytes
  | [] => return []
  | p :: packets => do return (← encode p.payload p.sequence) ++ (← encodeAll packets)

theorem encode_of_fits {p : Packet} (hp : p.Fits) : encode p.payload p.sequence = .ok p.frame :=
  if_neg (Nat.not_lt.2 hp.payload_le)

theorem encode_eq_error_iff (payload : Bytes) (id : Int) :
    (∃ size, encode payload id = .error size) ↔ maxPayload < payload.length := by
  unfold encode
  by_cases h : maxPayload < payload.length
  · simp [h]
  · simp [h]

theorem encodeAll_of_fits {packets : List Packet} (h : ∀ p ∈ packets, p.Fits) :
    encodeAll packets = .ok (packets.flatMap Packet.frame) := by
  induction packets with
  | nil => rfl
  | cons p packets ih =>
    have hrest := ih fun q hq => h q (.tail _ hq)
    simp only [encodeAll, encode_of_fits (h p List.mem_cons_self), hrest]
    rfl

theorem short_nil : Short [] := .inl (by decide)

theorem not_short_frame {p : Packet} (hp : p.Fits) (rest : Bytes) : ¬ Short (p.frame ++ rest) := by
  intro h
  have hlen := Packet.length_frame p
  have htake : (p.frame ++ rest).take 3 = (header p.payload.length p.sequence).take 3 := by
    rw [Packet.frame, List.append_assoc, List.take_append_of_le_length (by simp [headerLength])]
  rcases h with h | h
  · rw [List.length_append] at h
    omega
  · rw [htake, value_take_header hp.payload_le, List.length_append] at h
    omega

/-- Octets that end inside a frame are a proper part of one. -/
theorem exists_frame_of_short {b : Bytes} (h : Short b) :
    ∃ p : Packet, p.Fits ∧ b <+: p.frame ∧ b ≠ p.frame := by
  -- with enough zeros behind them they begin with a frame, which ends among the zeros
  have hlong : ¬ Short (b ++ List.replicate (headerLength + maxPayload) 0) := by
    intro hshort
    have hsize := value_take_le (b := b ++ List.replicate (headerLength + maxPayload) 0)
    rcases hshort with hshort | hshort
    · simp only [List.length_append, List.length_replicate] at hshort
      omega
    · simp only [List.length_append, List.length_replicate] at hshort
      omega
  obtain ⟨p, rest, hp, hb⟩ := (frame_or_short _).resolve_left hlong
  refine ⟨p, hp, ?_, fun he => ?_⟩
  · rcases List.prefix_or_prefix_of_prefix (List.prefix_append b _) (hb ▸ List.prefix_append p.frame rest)
      with hpre | ⟨c, hc⟩
    · exact hpre
    · exact absurd (hc ▸ h) (not_short_frame hp c)
  · have hframe := not_short_frame hp []
    rw [List.append_nil, ← he] at hframe
    exact hframe h

/-- Every packet has a frame, even without a payload. -/
theorem eq_nil_of_frames {packets : List Packet} (h : packets.flatMap Packet.frame = []) :
    packets = [] := by
  cases packets with
  | nil => rfl
  | cons p packets =>
    have hlen := congrArg List.length h
    have hframe := p.headerLength_le_frame
    simp only [List.flatMap_cons, List.length_append, List.length_nil, headerLength] at hlen hframe
    omega

/-- Any octets are frames of packets, and a rest that ends inside a frame. -/
theorem exists_frames (b : Bytes) : ∃ (packets : List Packet) (rest : Bytes), (∀ p ∈ packets, p.Fits) ∧
    b = packets.flatMap Packet.frame ++ rest ∧ Short rest := by
  -- by the number of octets, which every frame lowers
  induction hlen : b.length using Nat.strongRecOn generalizing b with
  | _ n ih =>
    rcases frame_or_short b with h | ⟨p, rest, hp, hb⟩
    · exact ⟨[], b, by simp, rfl, h⟩
    · have hlt : rest.length < n := by
        have hframe := p.headerLength_le_frame
        rw [← hlen, hb, List.length_append]
        simp only [headerLength] at hframe
        omega
      obtain ⟨packets, rest', hpackets, hrest, hshort⟩ := ih _ hlt rest rfl
      refine ⟨p :: packets, rest', ?_, ?_, hshort⟩
      · intro q hq
        rcases List.mem_cons.1 hq with rfl | hq
        · exact hp
        · exact hpackets q hq
      · rw [hb, List.flatMap_cons, List.append_assoc, ← hrest]

end Frame

/-! ## Reading packets to the end -/

namespace Transport

variable {t : Transport} {packets : List Packet} {rest : Bytes}

/-- The packets that the peer sends, read until its octets are used up or a read fails. -/
def readToEnd (t : Transport) : List Packet × Option ReadFault :=
  if t.incoming.isEmpty then ([], none) else t.readAll false

theorem reach_of_readFault (ht : t.readFault = none) : t.reach = t.incoming.length := by
  simp [reach, ht]

theorem readAllOnto_of_error {e : ReadFault} {t' : Transport} (h : readPacket t = .error e t')
    (done : List Packet) : readAllOnto false done t = (done.reverse, some e) := by
  rw [readAllOnto]
  split
  · next h' =>
    cases h'.symm.trans h
    rfl
  · next h' => cases h'.symm.trans h

theorem readAllOnto_of_ok {p : Packet} {t' : Transport} (h : readPacket t = .ok p t')
    (done : List Packet) : readAllOnto false done t =
      if t'.incoming = [] then ((p :: done).reverse, none) else readAllOnto false (p :: done) t' := by
  rw [readAllOnto]
  split
  · next h' => cases h'.symm.trans h
  · next h' =>
    cases h'.symm.trans h
    simp

/-- Octets that end inside a frame give no packet. -/
theorem readAllOnto_of_short (ht : t.readFault = none) (h : Frame.Short t.incoming) (done : List Packet) :
    ∃ got wanted, readAllOnto false done t = (done.reverse, some (.ended got wanted)) := by
  have hreach : t.incoming.take t.reach = t.incoming := by rw [reach_of_readFault ht, List.take_length]
  obtain ⟨got, wanted, r, hread⟩ := readPacket_of_short (t := t) (by rwa [hreach])
  have hshort : t.shortage got wanted = .ended got wanted := by simp [shortage, ht]
  rw [hshort] at hread
  exact ⟨got, wanted, readAllOnto_of_error hread done⟩

/-- Why reading comes to its end: nothing is left, or the octets end inside a frame. -/
def EndsWith (rest : Bytes) (fault : Option ReadFault) : Prop :=
  rest = [] ∧ fault = none ∨ rest ≠ [] ∧ ∃ got wanted, fault = some (.ended got wanted)

theorem readAllOnto_of_frames (ht : t.readFault = none) (hfits : ∀ p ∈ packets, p.Fits)
    (hin : t.incoming = packets.flatMap Packet.frame ++ rest) (hrest : Frame.Short rest)
    (hne : t.incoming ≠ []) (done : List Packet) :
    ∃ fault, readAllOnto false done t = (done.reverse ++ packets, fault) ∧ EndsWith rest fault := by
  -- on the packets, each of which leaves the octets behind its frame
  induction packets generalizing t done with
  | nil =>
    have hin' : t.incoming = rest := hin
    obtain ⟨got, wanted, h⟩ := readAllOnto_of_short ht (hin' ▸ hrest) done
    rw [List.append_nil]
    exact ⟨_, h, .inr ⟨hin' ▸ hne, got, wanted, rfl⟩⟩
  | cons p packets ih =>
    have hp := hfits p List.mem_cons_self
    rw [List.flatMap_cons, List.append_assoc] at hin
    obtain ⟨r, hread⟩ := readPacket_of_frame hp hin (by rw [reach_of_readFault ht, hin]; simp)
    have hnext : (t.past p.frame.length r).incoming = packets.flatMap Packet.frame ++ rest := by
      simp only [past, hin, List.drop_left]
    rw [readAllOnto_of_ok hread, List.append_cons, ← List.reverse_cons]
    by_cases hempty : (t.past p.frame.length r).incoming = []
    · rw [if_pos hempty]
      rw [hnext, List.append_eq_nil_iff] at hempty
      rw [Frame.eq_nil_of_frames hempty.1, List.append_nil]
      exact ⟨none, rfl, .inl ⟨hempty.2, rfl⟩⟩
    · rw [if_neg hempty]
      exact ih (t := t.past p.frame.length r) ht (fun q hq => hfits q (.tail _ hq)) hnext hempty (p :: done)

theorem readToEnd_of_frames (ht : t.readFault = none) (hfits : ∀ p ∈ packets, p.Fits)
    (hin : t.incoming = packets.flatMap Packet.frame ++ rest) (hrest : Frame.Short rest) :
    ∃ fault, t.readToEnd = (packets, fault) ∧ EndsWith rest fault := by
  unfold readToEnd
  by_cases hne : t.incoming = []
  · rw [if_pos (by simpa using hne)]
    rw [hin, List.append_eq_nil_iff] at hne
    rw [Frame.eq_nil_of_frames hne.1]
    exact ⟨none, rfl, .inl ⟨hne.2, rfl⟩⟩
  · rw [if_neg (by simpa using hne)]
    exact readAllOnto_of_frames ht hfits hin hrest hne []

end Transport

/-! ## Both ways -/

/-- Packets go into octets and back: what was framed is read as it was, and what is read was framed, up to
a rest that is a proper part of a frame. Only a payload that is too long has no frame, and it is not
sent. -/
theorem readToEnd_encodeAll :
    (∀ packets : List Packet, (∀ p ∈ packets, p.Fits) → ∃ b, Frame.encodeAll packets = .ok b ∧
      ∀ t : Transport, t.readFault = none → t.incoming = b → t.readToEnd = (packets, none)) ∧
    (∀ t : Transport, t.readFault = none → ∃ packets framed fault, t.readToEnd = (packets, fault) ∧
      (∀ p ∈ packets, p.Fits) ∧ Frame.encodeAll packets = .ok framed ∧
      (fault = none ∧ t.incoming = framed ∨
        ∃ e rest, fault = some e ∧ (Failure.ofRead e).errorClass? = some .transport ∧
          t.incoming = framed ++ rest ∧ rest ≠ [] ∧ Frame.Short rest ∧
          ∃ (p : Packet) (frame : Bytes), Frame.encode p.payload p.sequence = .ok frame ∧
            rest <+: frame ∧ rest ≠ frame)) ∧
    (∀ payload id, (∃ size, Frame.encode payload id = .error size) ↔
      Frame.maxPayload < payload.length) ∧
    ∀ (m : Message) payload (s : Session), m.payload = .ok payload → Frame.maxPayload < payload.length →
      Session.send m s = .error (.tooLong payload.length) s := by
  refine ⟨fun packets hfits => ?_, fun t ht => ?_, Frame.encode_eq_error_iff,
    fun m payload s hm h => Session.send_tooLong hm h⟩
  · refine ⟨_, Frame.encodeAll_of_fits hfits, fun t ht hin => ?_⟩
    have hin' : t.incoming = packets.flatMap Packet.frame ++ [] := by rw [hin, List.append_nil]
    obtain ⟨fault, h, hend⟩ := Transport.readToEnd_of_frames ht hfits hin' Frame.short_nil
    rcases hend with ⟨-, rfl⟩ | ⟨hne, -⟩
    · exact h
    · exact absurd rfl hne
  · obtain ⟨packets, rest, hfits, hin, hrest⟩ := Frame.exists_frames t.incoming
    obtain ⟨fault, h, hend⟩ := Transport.readToEnd_of_frames ht hfits hin hrest
    refine ⟨packets, _, fault, h, hfits, Frame.encodeAll_of_fits hfits, ?_⟩
    rcases hend with ⟨rfl, rfl⟩ | ⟨hne, got, wanted, rfl⟩
    · rw [List.append_nil] at hin
      exact .inl ⟨rfl, hin⟩
    · obtain ⟨p, hp, hpart⟩ := Frame.exists_frame_of_short hrest
      exact .inr ⟨_, rest, rfl, rfl, hin, hne, hrest, p, p.frame, Frame.encode_of_fits hp, hpart⟩

/-- A packet without a payload under the last id and one behind it, arriving octet by octet. -/
theorem readToEnd_encodeAll_octet_by_octet :
    let packets : List Packet := [⟨255, []⟩, ⟨0, [1, 2]⟩]
    (∀ p ∈ packets, p.Fits) ∧ ∃ b, Frame.encodeAll packets = .ok b ∧
      ({ Transport.ofPeer b with offers := fun _ _ => 1 } : Transport).readToEnd = (packets, none) := by
  intro packets
  have hfits : ∀ p ∈ packets, p.Fits := by
    intro p hp
    simp only [packets, List.mem_cons, List.not_mem_nil, or_false] at hp
    rcases hp with rfl | rfl
    · exact ⟨by decide, by decide, by decide⟩
    · exact ⟨by decide, by decide, by decide⟩
  obtain ⟨b, hb, hread⟩ := readToEnd_encodeAll.1 packets hfits
  exact ⟨hfits, b, hb, hread _ rfl rfl⟩

end SqlWire
