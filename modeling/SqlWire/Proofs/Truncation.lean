import SqlWire.Message.Column
import SqlWire.Proofs.Contained
/-!
# Payloads that are cut

A decoder spans some octets if it takes just these and misses more wherever they are cut (`Spans`). What
spans its octets piece by piece spans them as a whole, and so the decoder of a row spans what the row was
written as: of no smaller part of it can it make a row of as many values. Where a payload ends in a part that
may be missing, the decoder spans what comes before that part (`SpansThen`).
-/
namespace SqlWire

open Stateful

namespace Decoder

variable {α β : Type} {d : Decoder α} {f : α → Decoder β} {a : α} {b b' : Bytes}

/-- With just the octets `b` to come, the payload is too short. -/
def Misses (d : Decoder α) (b : Bytes) : Prop :=
  ∀ c : Cursor, c.Inside → c.rest = b →
    ∃ needed offset size, outcome (d c) = .error (.tooShort needed offset size)

/-- The decoder takes the octets `b` and gives `a`, and misses more of any smaller part of them. -/
structure Spans (d : Decoder α) (b : Bytes) (a : α) : Prop where
  reads : Reads d b a
  misses : ∀ cut : Bytes, cut <+: b → cut ≠ b → Misses d cut

/-- Of any smaller part of the octets `b` the decoder misses more. -/
def MissesParts (d : Decoder α) (b : Bytes) : Prop := ∀ cut : Bytes, cut <+: b → cut ≠ b → Misses d cut

theorem Misses.read (h : Misses d b) :
    ∃ needed offset size, d.read b = .error (.tooShort needed offset size) := by
  rw [read_eq_outcome]
  exact h _ (Cursor.inside_start b) rfl

/-! ## Reads in a row -/

theorem Misses.bind (h : Misses d b) : Misses (d >>= f) b := by
  intro c hc hrest
  obtain ⟨needed, offset, size, ho⟩ := h c hc hrest
  rw [bind_of_error ho]
  exact ⟨needed, offset, size, rfl⟩

theorem Reads.bind_misses (hd : Reads d b a) (hf : Misses (f a) b') : Misses (d >>= f) (b ++ b') := by
  intro c hc hrest
  obtain ⟨hrun, hin, hnext⟩ := hd.bind_run hc hrest
  rw [hrun]
  exact hf _ hin hnext

theorem spans_pure (a : α) : Spans (pure a) [] a where
  reads := reads_pure a
  misses _ hcut hne := absurd (List.prefix_nil.1 hcut) hne

/-- A cut falls inside the first of two parts, or behind it. -/
theorem part_append_cases {cut : Bytes} (hcut : cut <+: b ++ b') :
    (cut <+: b ∧ cut ≠ b) ∨ ∃ t, cut = b ++ t ∧ t <+: b' := by
  by_cases hb : b <+: cut
  · obtain ⟨t, rfl⟩ := hb
    exact .inr ⟨t, rfl, (List.prefix_append_right_inj b).1 hcut⟩
  · have hcut' : cut <+: b :=
      (List.prefix_or_prefix_of_prefix hcut (List.prefix_append b b')).resolve_right hb
    exact .inl ⟨hcut', fun he => hb (he ▸ List.prefix_refl b)⟩

theorem Spans.bind_misses (hd : Spans d b a) (hf : MissesParts (f a) b') :
    MissesParts (d >>= f) (b ++ b') := by
  intro cut hcut hne
  rcases part_append_cases hcut with ⟨hcut, hne⟩ | ⟨t, rfl, ht⟩
  · exact (hd.misses cut hcut hne).bind
  · exact hd.reads.bind_misses (hf t ht fun he => hne (by rw [he]))

theorem Spans.bind {a' : β} (hd : Spans d b a) (hf : Spans (f a) b' a') :
    Spans (d >>= f) (b ++ b') a' where
  reads := hd.reads.bind hf.reads
  misses := hd.bind_misses hf.misses

/-- Whatever comes of the octets that the first read takes, too few of them are missed. -/
theorem Spans.missesParts_bind (hd : Spans d b a) : MissesParts (d >>= f) b :=
  fun cut hcut hne => (hd.misses cut hcut hne).bind

theorem Spans.map (g : α → β) (hd : Spans d b a) : Spans (g <$> d) b (g a) := by
  have h := hd.bind (f := fun x => pure (g x)) (spans_pure (g a))
  rw [List.append_nil] at h
  exact h

/-! ## Octets, integers and texts -/

theorem length_lt_of_part {cut : Bytes} (hcut : cut <+: b) (hne : cut ≠ b) : cut.length < b.length :=
  Nat.lt_of_le_of_ne hcut.length_le fun he => hne (hcut.eq_of_length he)

theorem misses_require {n : Nat} (h : b.length < n) : Misses (require n) b := by
  intro c hc hrest
  rw [require_of_lt hc (hrest ▸ h)]
  exact ⟨_, _, _, rfl⟩

theorem spans_octets (b : Bytes) : Spans (octets b.length) b b where
  reads := reads_octets b
  misses _ hcut hne := (misses_require (length_lt_of_part hcut hne)).bind

theorem spans_skip (b : Bytes) : Spans (skip b.length) b () where
  reads := reads_skip b
  misses _ hcut hne := (misses_require (length_lt_of_part hcut hne)).bind

theorem misses_fixedInt {n : Nat} (h : b.length < n) : Misses (fixedInt n) b := (misses_require h).bind

theorem spans_ofInt_mod {width : Nat} (hw : 0 < width) (v : Nat) :
    Spans (fixedInt width) (Bytes.ofInt width v) (v % Nat.pow 256 width) where
  reads := reads_ofInt_mod hw v
  misses _ hcut hne := by
    have hlt := length_lt_of_part hcut hne
    rw [Bytes.length_ofInt] at hlt
    exact misses_fixedInt hlt

theorem spans_ofInt {width v bound : Nat} (hv : v ≤ bound) (hw : 0 < width)
    (hb : bound < Nat.pow 256 width) : Spans (fixedInt width) (Bytes.ofInt width v) v := by
  have h := spans_ofInt_mod hw v
  rwa [Nat.mod_eq_of_lt (Nat.lt_of_le_of_lt hv hb)] at h

/-! ## Lengths -/

theorem misses_nil : Misses lengthInt [] := (misses_require (by decide)).bind

/-- Behind an octet that announces others, all of these have to come. -/
theorem misses_announced {lead : UInt8} {width : Nat} {cut : Bytes} (hlead : Marker.null < lead)
    (hl : Marker.lengthOctets lead = some width) (hcut : cut.length < width) :
    Misses lengthInt (lead :: cut) := by
  intro c hc hrest
  have hlt : ¬ lead < Marker.null := by grind
  have hne : lead ≠ Marker.null := by grind
  rw [lengthInt_lead hc (hrest.trans (List.append_nil _).symm), if_neg hlt, if_neg hne, hl]
  exact (reads_skip_one lead).bind_misses (misses_require hcut).bind.bind c hc hrest

theorem spans_length {n : Nat} (hn : n < Nat.pow 256 8) : Spans lengthInt (Encoding.length n) (some n) where
  reads := reads_length hn
  misses cut hcut hne := by
    have hlt := length_lt_of_part hcut hne
    cases cut with
    | nil => exact misses_nil
    | cons x cut =>
      rcases Encoding.length_cases hn with ⟨-, he⟩ | ⟨lead, width, hlead, hl, -, -, he⟩
      · rw [he, Bytes.length_ofInt, List.length_cons] at hlt
        omega
      · rw [he] at hcut hlt
        obtain ⟨rfl, -⟩ := List.cons_prefix_cons.1 hcut
        rw [List.length_cons, List.length_cons, Bytes.length_ofInt] at hlt
        exact misses_announced hlead hl (Nat.lt_of_succ_lt_succ hlt)

theorem spans_null : Spans lengthInt [Marker.null] none where
  reads := reads_null
  misses cut hcut hne := by
    have hlt := length_lt_of_part hcut hne
    rw [List.length_singleton, Nat.lt_one_iff, List.length_eq_zero_iff] at hlt
    rw [hlt]
    exact misses_nil

/-! ## Texts -/

theorem spans_fixedText (b : Bytes) : Spans (fixedText b.length) b (Utf8.decode b) :=
  (spans_octets b).map Utf8.decode

theorem spans_nullable {v : Option String} (hv : Countable v) :
    Spans nullableText (Encoding.nullable v) v := by
  cases v with
  | none => exact spans_null.bind (spans_pure none)
  | some s =>
    have h := (spans_fixedText (Utf8.encode s)).map some
    rw [Utf8.decode_encode] at h
    exact (spans_length (hv s rfl)).bind h

/-! ## Texts up to a zero -/

/-- Without a zero to end it, a text takes all that is left. -/
theorem terminatedText_of_zero_not_mem {c : Cursor} (h : 0 ∉ c.rest) :
    terminatedText c = .ok (Utf8.decode c.rest) c.toEnd := by
  have hwhile : c.rest.takeWhile (· ≠ 0) = c.rest := by
    have h := takeWhile_append_of_zero_not_mem h []
    rwa [List.append_nil, List.takeWhile_nil, List.append_nil] at h
  rw [terminatedText, get_bind, hwhile, if_neg (Nat.lt_irrefl _)]
  rfl

/-- Inside the text the cut is not seen, but nothing is left for the read behind it. -/
theorem misses_terminated_bind {f : String → Decoder β} (hb : 0 ∉ b) (hf : ∀ t, Misses (f t) []) :
    Misses (terminatedText >>= f) b := by
  rintro c - rfl
  rw [bind_of_run (terminatedText_of_zero_not_mem hb)]
  exact hf _ c.toEnd (Nat.add_zero _) rfl

/-! ## What comes behind -/

/-- The decoder misses more of any smaller part of the octets `b`. If the octets `b'` come behind them, and
nothing else, it gives `a`. -/
structure SpansThen (d : Decoder α) (b b' : Bytes) (a : α) : Prop where
  readsLast : ReadsLast d (b ++ b') a
  misses : MissesParts d b

section Behind

variable {a' : β} {b'' : Bytes}

theorem Spans.then_last (hd : Spans d b a) (hf : ReadsLast (f a) b' a') : SpansThen (d >>= f) b b' a' where
  readsLast := hd.reads.bind_last hf
  misses := hd.missesParts_bind

theorem Spans.bind_then (hd : Spans d b a) (hf : SpansThen (f a) b' b'' a') :
    SpansThen (d >>= f) (b ++ b') b'' a' where
  readsLast := by
    rw [List.append_assoc]
    exact hd.reads.bind_last hf.readsLast
  misses := hd.bind_misses hf.misses

theorem spansThen_terminated {f : String → Decoder β} {s : String} (hs : '\x00' ∉ s.toList)
    (hnone : ∀ t, Misses (f t) []) (hf : SpansThen (f s) b' b'' a') :
    SpansThen (terminatedText >>= f) (Encoding.terminated s ++ b') b'' a' where
  readsLast := by
    rw [List.append_assoc]
    exact (reads_terminated hs).bind_last hf.readsLast
  misses cut hcut hne := by
    have hzero : 0 ∉ Utf8.encode s := mt Utf8.zero_mem_encode.1 hs
    rcases part_append_cases hcut with ⟨hcut, hne⟩ | ⟨t, rfl, ht⟩
    · -- all of the text may be there, but not the zero behind it
      have hcut : cut <+: Utf8.encode s := (List.prefix_concat_iff.1 hcut).resolve_left hne
      exact misses_terminated_bind (fun h => hzero (hcut.subset h)) hnone
    · exact (reads_terminated hs).bind_misses (hf.misses t ht fun he => hne (by rw [he]))

end Behind

end Decoder

/-! ## Rows -/

namespace Row

open Decoder

theorem spans_encodeOnto {values : List (Option String)} (hvalues : ∀ v ∈ values, Countable v)
    (done : List (Option String)) :
    Spans (decodeOnto done values.length) (encode values) (done.reverse ++ values) := by
  -- on the values to come, whatever values are done
  induction values generalizing done with
  | nil =>
    rw [List.append_nil]
    exact spans_pure _
  | cons v values ih =>
    have h := ih (fun v hv => hvalues v (List.mem_cons_of_mem _ hv)) (v :: done)
    rw [List.reverse_cons, List.append_assoc] at h
    exact (spans_nullable (hvalues v List.mem_cons_self)).bind h

theorem spans_encode {values : List (Option String)} (hvalues : ∀ v ∈ values, Countable v) :
    Spans (decode values.length) (encode values) values := spans_encodeOnto hvalues []

end Row

end SqlWire
