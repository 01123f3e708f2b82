import SqlWire.Proofs.Ranges
/-!
# Reading reports back

The end of a list and a report of success are read as they were written, if their numbers fit the octets that
hold them. The text of a report goes up to the end of its packet, where one zero is taken for the end of the
text.
-/
namespace SqlWire

open Decoder

/-! ## The end of a list -/

namespace EofPacket

variable {p : EofPacket}

theorem read_encode (hp : p.InRange) : decode.read p.encode = .ok p := by
  obtain ⟨warnings, statusFlags⟩ := p
  obtain ⟨warnings, rfl, h1⟩ := exists_nat hp.warnings
  obtain ⟨statusFlags, rfl, h2⟩ := exists_nat hp.statusFlags
  have hstatus : ReadsLast (fixedInt 2 >>= fun f => pure (EofPacket.mk warnings f))
      (Bytes.ofInt 2 statusFlags) ⟨warnings, statusFlags⟩ :=
    (reads_ofInt_of_le h2 (by decide) (by decide)).last.bind_pure _
  -- both numbers are there
  have hlen : Marker.eofMaxLength - 1 ≤ (Bytes.ofInt 2 warnings ++ Bytes.ofInt 2 statusFlags).length := by
    rw [List.length_append, Bytes.length_ofInt, Bytes.length_ofInt]
    decide
  exact ((reads_skip_one Marker.eof).bind_last <| ReadsLast.hasAtLeast_bind hlen <|
    (reads_ofInt_of_le h1 (by decide) (by decide)).bind_last hstatus).read

end EofPacket

/-! ## Success -/

theorem Encoding.length_ne_nil (n : Nat) : length n ≠ [] := by
  unfold length
  repeat' split
  all_goals exact List.cons_ne_nil _ _

namespace OkPacket

variable {p : OkPacket String}

theorem reads_optionalNumber {n : Nat} (hn : n ≤ 0xFFFFFFFFFFFFFFFF) :
    Reads optionalNumber (Encoding.length n) n := by
  have h : Reads (lengthInt >>= fun v => pure (v.getD 0)) (Encoding.length n) n :=
    (reads_length (Nat.lt_succ_of_le hn)).map (Option.getD · 0)
  exact h.hasMore_bind (Encoding.length_ne_nil n)

theorem encode_natCast (affectedRows lastInsertId statusFlags warnings : Nat) (info : String) :
    OkPacket.encode ⟨affectedRows, lastInsertId, statusFlags, warnings, info⟩ =
      .ok (Marker.ok :: (Encoding.length affectedRows ++ (Encoding.length lastInsertId ++
        (Bytes.ofInt 2 statusFlags ++ (Bytes.ofInt 2 warnings ++ Utf8.encode info))))) := by
  have h : OkPacket.encode ⟨affectedRows, lastInsertId, statusFlags, warnings, info⟩ =
      .ok (Marker.ok :: (Encoding.length affectedRows ++ Encoding.length lastInsertId ++
        Bytes.ofInt 2 statusFlags ++ Bytes.ofInt 2 warnings) ++ Utf8.encode info) := rfl
  simpa only [List.cons_append, List.append_assoc] using h

/-- A report can be written if its numbers are in range, and is read back if no zero ends its text. -/
theorem read_encode (hp : p.InRange) (hinfo : p.info.toList.getLast? ≠ some '\x00') :
    ∃ b, p.encode = .ok b ∧ decode.read b = .ok p := by
  obtain ⟨affectedRows, lastInsertId, statusFlags, warnings, info⟩ := p
  obtain ⟨affectedRows, rfl, h1⟩ := exists_nat hp.affectedRows
  obtain ⟨lastInsertId, rfl, h2⟩ := exists_nat hp.lastInsertId
  obtain ⟨statusFlags, rfl, h3⟩ := exists_nat hp.statusFlags
  obtain ⟨warnings, rfl, h4⟩ := exists_nat hp.warnings
  refine ⟨_, encode_natCast .., ?_⟩
  have htext := (readsLast_textToEnd (Utf8.encode info)).bind_pure
    (OkPacket.mk affectedRows lastInsertId statusFlags warnings)
  rw [lastText_encode hinfo] at htext
  refine ((reads_skip_one Marker.ok).bind_last <| (reads_optionalNumber h1).bind_last <|
    (reads_optionalNumber h2).bind_last <| ReadsLast.hasAtLeast_bind ?_ <|
    (reads_ofInt_of_le h3 (by decide) (by decide)).bind_last <|
    (reads_ofInt_of_le h4 (by decide) (by decide)).bind_last htext).read
  -- the status and the warnings are there
  simp only [List.length_append, Bytes.length_ofInt]
  omega

end OkPacket

end SqlWire
