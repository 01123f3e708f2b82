import SqlWire.Proofs.Contained
import SqlWire.Proofs.GreetingPacket
import SqlWire.Proofs.LoginPacket
import SqlWire.Proofs.ResultSet
/-!
# What a message can say

Whatever octets a message is read from, its numbers fit the octets that held them, and a text that ends at a
zero holds none. So what was read of a message is in the range of what can be written of it.
-/
namespace SqlWire

open Stateful

namespace Decoder

variable {α β : Type} {d : Decoder α} {f : α → Decoder β} {P : α → Prop} {Q : β → Prop} {n : Nat}

theorem Gives.map {g : α → β} (hd : Gives d P) (hg : ∀ a, P a → Q (g a)) : Gives (g <$> d) Q := by
  intro c hc b c' hrun
  obtain ⟨a, c1, hda, hpure⟩ := bind_eq_ok.1 hrun
  cases hpure
  exact hg a (hd c hc a _ hda)

theorem Gives.mono {P' : α → Prop} (hd : Gives d P) (h : ∀ a, P a → P' a) : Gives d P' := by
  intro c hc a c' hrun
  exact h a (hd c hc a c' hrun)

/-! ## Numbers -/

/-- A number fits the octets that it is read from. -/
theorem gives_fixedInt (bound : Nat) (hn : 0 < n) (hb : Nat.pow 256 n = bound + 1) :
    Gives (fixedInt n) fun v => 0 ≤ (v : Int) ∧ (v : Int) ≤ bound := by
  refine gives_require_bind fun c hc h v c' hrun => ?_
  have hne : c.rest.take n ≠ [] := List.ne_nil_of_length_pos (by rw [List.length_take]; omega)
  have hnumber : number (c.rest.take n) = .ok (Bytes.value (c.rest.take n)) := by
    simp [number, hne]
  rw [get_bind, hnumber] at hrun
  cases hrun
  have hlt := Bytes.value_lt (c.rest.take n)
  rw [List.length_take_of_le h, hb] at hlt
  omega

theorem gives_fixedInt_bind {f : Nat → Decoder β} (bound : Nat) (hn : 0 < n)
    (hb : Nat.pow 256 n = bound + 1)
    (hf : ∀ v : Nat, 0 ≤ (v : Int) ∧ (v : Int) ≤ bound → Gives (f v) Q) : Gives (fixedInt n >>= f) Q :=
  (gives_fixedInt bound hn hb).bind (contained_fixedInt hn) hf

/-- What a lead octet announces is at most eight octets long. -/
theorem gives_lengthInt : Gives lengthInt fun v => ∀ n, v = some n → n ≤ 0xFFFFFFFFFFFFFFFF := by
  refine gives_require_bind fun c hc h => ?_
  obtain ⟨lead, b, hrest⟩ := List.exists_cons_of_length_pos h
  rw [bind_of_run (peek_of_cons hrest)]
  have hsome {width : Nat} (bound : Nat) (hwidth : 0 < width) (hb : Nat.pow 256 width = bound + 1)
      (hle : bound ≤ 0xFFFFFFFFFFFFFFFF) :
      Gives (some <$> fixedInt width) fun v => ∀ n, v = some n → n ≤ 0xFFFFFFFFFFFFFFFF := by
    refine (gives_fixedInt bound hwidth hb).map fun v hv n hn => ?_
    cases hn
    omega
  -- the octet says how the number goes on
  split
  · exact hsome 0xFF (by decide) rfl (by decide) c hc
  split
  · exact (contained_skip 1).gives (fun _ => gives_pure (by simp)) c hc
  cases hwidth : Marker.lengthOctets lead with
  | none => rintro _ _ ⟨⟩
  | some width =>
    refine (contained_skip 1).gives (fun _ => ?_) c hc
    have hcases : width = 2 ∨ width = 3 ∨ width = 8 := by grind [Marker.lengthOctets]
    rcases hcases with rfl | rfl | rfl
    · exact hsome 0xFFFF (by decide) rfl (by decide)
    · exact hsome 0xFFFFFF (by decide) rfl (by decide)
    · exact hsome 0xFFFFFFFFFFFFFFFF (by decide) rfl (by decide)

/-! ## Texts -/

theorem zero_not_mem_takeWhile (b : Bytes) : 0 ∉ b.takeWhile (· ≠ 0) := by
  intro h
  have hne := List.all_takeWhile (l := b) (p := (· ≠ 0))
  rw [List.all_eq_true] at hne
  exact absurd (hne 0 h) (by decide)

/-- A text that ends at the first zero holds none. -/
theorem gives_terminatedText : Gives terminatedText ('\x00' ∉ ·.toList) := by
  intro c hc s c' hrun
  have ho := outcome_terminatedText c
  rw [hrun] at ho
  cases ho
  exact Utf8.zero_not_mem_decode (zero_not_mem_takeWhile c.rest)

end Decoder

open Decoder

/-! ## Greetings -/

/-- A word of flags put together from two halves is no longer than both. -/
theorem Capability.union_le {low high : Nat} (hlow : (low : Int) ≤ 0xFFFF) (hhigh : (high : Int) ≤ 0xFFFF) :
    0 ≤ union low (high * 0x10000 : Nat) ∧ union low (high * 0x10000 : Nat) ≤ 0xFFFFFFFF := by
  have hor : low ||| high * 0x10000 < 2 ^ 32 := Nat.or_lt_two_pow (by omega) (by omega)
  have heq : union low (high * 0x10000 : Nat) = (low ||| high * 0x10000 : Nat) := rfl
  rw [heq]
  omega

namespace Greeting

/-- Both parts of the nonce are as long as they should be. -/
structure Whole (g : Greeting String) : Prop extends g.InRange where
  length1 : g.challenge1.length = part1Length
  length2 : g.challenge2.length = part2Length

theorem gives_whole : Gives decode Whole := by
  refine gives_fixedInt_bind 0xFF (by decide) rfl fun _ h1 =>
    gives_terminatedText.bind contained_terminatedText fun _ h2 =>
    gives_fixedInt_bind 0xFFFFFFFF (by decide) rfl fun _ h3 =>
    (gives_octets _).bind (contained_octets _) fun _ h4 =>
    (contained_skip 1).gives fun _ =>
    gives_fixedInt_bind 0xFFFF (by decide) rfl fun _ h5 =>
    gives_fixedInt_bind 0xFF (by decide) rfl fun _ h6 =>
    gives_fixedInt_bind 0xFFFF (by decide) rfl fun _ h7 =>
    gives_fixedInt_bind 0xFFFF (by decide) rfl fun _ h8 =>
    gives_fixedInt_bind 0xFF (by decide) rfl fun _ h9 =>
    (contained_skip 10).gives fun _ =>
    (gives_octets _).bind (contained_octets _) fun _ h10 =>
    (contained_isNext 0).gives fun terminated => ?_
  extract_lets afterName afterTerminator
  have hafterName (name : String) (hname : '\x00' ∉ name.toList) : Gives (afterName name) Whole :=
    gives_pure ⟨⟨h1, h2, h3, Nat.le_of_eq h4, Capability.union_le h5.2 h8.2, h6, h7, Nat.le_of_eq h10,
      h9, hname⟩, h4, h10⟩
  have hafterTerminator (u : Unit) : Gives (afterTerminator u) Whole := by
    refine contained_hasMore.gives fun more => ?_
    split
    · exact gives_terminatedText.bind contained_terminatedText hafterName
    · have hnone : Gives (pure "" : Decoder String) ('\x00' ∉ ·.toList) := gives_pure List.not_mem_nil
      exact hnone.bind (contained_pure _) hafterName
  split
  · exact (contained_skip 1).gives hafterTerminator
  · exact hafterTerminator ()

theorem gives_decode :
    Gives decode fun g => g.challenge1.length = part1Length ∧ g.challenge2.length = part2Length :=
  gives_whole.mono fun _ h => ⟨h.length1, h.length2⟩

end Greeting

/-! ## Logins -/

namespace LoginPacket

/-- The plugin is a text that does not end early, and the native one if none is announced. -/
structure Named (p : LoginPacket String) : Prop extends p.Bounded where
  pluginName : '\x00' ∉ p.pluginName.toList
  native : Capability.announces p.capabilityFlags Capability.pluginAuth = false →
    p.pluginName = nativePlugin

theorem gives_named : Gives decode Named := by
  refine gives_fixedInt_bind 0xFFFFFFFF (by decide) rfl fun _ h1 =>
    gives_fixedInt_bind 0xFFFFFFFF (by decide) rfl fun _ h2 =>
    gives_fixedInt_bind 0xFF (by decide) rfl fun _ h3 =>
    (contained_skip 23).gives fun _ =>
    gives_terminatedText.bind contained_terminatedText fun _ h4 =>
    gives_fixedInt_bind 0xFF (by decide) rfl fun size h5 =>
    (gives_octets size).bind (contained_octets size) fun _ h6 => ?_
  extract_lets done
  have hproof : size ≤ 0xFF := Int.ofNat_le.1 h5.2
  split
  · next hannounced =>
    refine gives_terminatedText.bind contained_terminatedText fun _ h7 => gives_pure ?_
    exact ⟨⟨h1, h2, h3, h4, h6 ▸ hproof⟩, h7, fun h => by simp [hannounced] at h⟩
  · have hnative : '\x00' ∉ nativePlugin.toList := by decide
    have hplugin : Gives (pure nativePlugin : Decoder String) (· = nativePlugin) := gives_pure rfl
    refine hplugin.bind (contained_pure _) fun name hname => gives_pure ?_
    exact ⟨⟨h1, h2, h3, h4, h6 ▸ hproof⟩, hname ▸ hnative, fun _ => hname⟩

end LoginPacket

/-! ## Columns and rows -/

theorem ColumnPacket.gives_inRange : Gives ColumnPacket.decode ColumnPacket.InRange :=
  contained_nullableText.gives fun _ => contained_nullableText.gives fun _ =>
    contained_nullableText.gives fun _ => contained_nullableText.gives fun _ =>
    contained_nullableText.gives fun _ => contained_nullableText.gives fun _ =>
    contained_lengthInt.gives fun _ =>
    gives_fixedInt_bind 0xFFFF (by decide) rfl fun _ h1 =>
    gives_fixedInt_bind 0xFFFFFFFF (by decide) rfl fun _ h2 =>
    gives_fixedInt_bind 0xFF (by decide) rfl fun _ h3 =>
    gives_fixedInt_bind 0xFFFF (by decide) rfl fun _ h4 =>
    gives_fixedInt_bind 0xFF (by decide) rfl fun _ h5 =>
    (contained_skip 2).gives fun _ => gives_pure ⟨h1, h2, h3, h4, h5⟩

/-- A row has as many values as were asked for. -/
theorem Row.gives_length (n : Nat) (done : List (Option String)) :
    Gives (Row.decodeOnto done n) (·.length = done.length + n) := by
  induction n generalizing done with
  | zero => exact gives_pure List.length_reverse
  | succ n ih =>
    refine contained_nullableText.gives fun v c hc row c' hrun => ?_
    have h := ih (v :: done) c hc row c' hrun
    rw [List.length_cons] at h
    omega

/-! ## Reports -/

namespace EofPacket

/-- The numbers fit the octets that hold them. -/
structure InRange (p : EofPacket) : Prop where
  warnings : 0 ≤ p.warnings ∧ p.warnings ≤ 0xFFFF
  statusFlags : 0 ≤ p.statusFlags ∧ p.statusFlags ≤ 0xFFFF

theorem gives_inRange : Gives decode InRange := by
  refine (contained_skip 1).gives fun _ => (contained_hasAtLeast _).gives fun more => ?_
  split
  · exact gives_fixedInt_bind 0xFFFF (by decide) rfl fun _ h1 =>
      gives_fixedInt_bind 0xFFFF (by decide) rfl fun _ h2 => gives_pure ⟨h1, h2⟩
  · exact gives_pure ⟨by decide, by decide⟩

end EofPacket

namespace OkPacket

/-- The numbers fit the octets that hold them. -/
structure InRange (p : OkPacket String) : Prop where
  affectedRows : 0 ≤ p.affectedRows ∧ p.affectedRows ≤ 0xFFFFFFFFFFFFFFFF
  lastInsertId : 0 ≤ p.lastInsertId ∧ p.lastInsertId ≤ 0xFFFFFFFFFFFFFFFF
  statusFlags : 0 ≤ p.statusFlags ∧ p.statusFlags ≤ 0xFFFF
  warnings : 0 ≤ p.warnings ∧ p.warnings ≤ 0xFFFF

theorem gives_optionalNumber :
    Gives optionalNumber fun n => 0 ≤ (n : Int) ∧ (n : Int) ≤ 0xFFFFFFFFFFFFFFFF := by
  refine contained_hasMore.gives fun more => ?_
  split
  · refine gives_lengthInt.bind contained_lengthInt fun v hv => gives_pure ?_
    cases v with
    | none => decide
    | some n =>
      have hle := hv n rfl
      show 0 ≤ (n : Int) ∧ (n : Int) ≤ 0xFFFFFFFFFFFFFFFF
      omega
  · exact gives_pure (by decide)

theorem gives_inRange : Gives decode InRange := by
  refine (contained_skip 1).gives fun _ =>
    gives_optionalNumber.bind contained_optionalNumber fun _ h1 =>
    gives_optionalNumber.bind contained_optionalNumber fun _ h2 =>
    (contained_hasAtLeast 4).gives fun more => ?_
  split
  · exact gives_fixedInt_bind 0xFFFF (by decide) rfl fun _ h3 =>
      gives_fixedInt_bind 0xFFFF (by decide) rfl fun _ h4 =>
      contained_textToEnd.gives fun _ => gives_pure ⟨h1, h2, h3, h4⟩
  · have hzero : (0 : Int) ≤ 0 ∧ (0 : Int) ≤ 0xFFFF := by decide
    exact gives_pure ⟨h1, h2, hzero, hzero⟩

end OkPacket

end SqlWire
