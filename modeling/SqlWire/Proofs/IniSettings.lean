import SqlWire.Proofs.IniText
import SqlWire.Proofs.Numerals
import SqlWire.Settings
/-!
# Settings from an ini file

A file gives some of the settings, in any order and with any lines between them that say nothing. The settings read
from it are those, with the defaults for the others (`Settings.ofIni_written`).
-/
namespace SqlWire

open Ini Text

/-! ## Options that may be missing -/

namespace Ini

variable {entries : List (String × Option String)} {k : String}

/-- The options that are given. -/
def given (entries : List (String × Option String)) : List (String × String) :=
  entries.filterMap fun e => e.2.map (e.1, ·)

theorem mem_given {o : String × String} (ho : o ∈ given entries) : (o.1, some o.2) ∈ entries := by
  obtain ⟨⟨name, value⟩, he, heq⟩ := List.mem_filterMap.1 ho
  obtain ⟨v, hv, rfl⟩ := Option.map_eq_some_iff.1 heq
  exact hv ▸ he

theorem given_cons (e : String × Option String) (entries : List (String × Option String)) :
    given (e :: entries) = (e.2.map (e.1, ·)).toList ++ given entries := by
  unfold given
  rw [List.filterMap_cons]
  cases e.2 with
  | none => rfl
  | some v => rfl

theorem map_fst_given_sublist (entries : List (String × Option String)) :
    ((given entries).map Prod.fst).Sublist (entries.map Prod.fst) := by
  induction entries with
  | nil => exact .slnil
  | cons e entries ih =>
    rw [given_cons, List.map_append, List.map_cons]
    cases e.2 with
    | none => exact ih.cons _
    | some v => exact ih.cons_cons _

theorem lookup_given (hnodup : (entries.map Prod.fst).Nodup) (k : String) :
    (given entries).lookup k = (entries.lookup k).join := by
  induction entries with
  | nil => rfl
  | cons e entries ih =>
    obtain ⟨name, value⟩ := e
    obtain ⟨hnew, hrest⟩ := List.nodup_cons.1 hnodup
    rw [given_cons, List.lookup_append, ih hrest, List.lookup_cons]
    by_cases hk : k = name
    · -- a name that is left out does not come again
      have hmissing : entries.lookup k = none := by
        rw [List.lookup_eq_none_iff]
        intro e he
        have hne : k ≠ e.1 := fun h => hnew (List.mem_map.2 ⟨e, he, h.symm.trans hk⟩)
        simpa using hne
      rw [hmissing, hk]
      cases value with
      | none => simp
      | some v => simp
    · have hother : (k == name) = false := beq_eq_false_iff_ne.2 hk
      cases value with
      | none => simp [hother]
      | some v => simp [hother]

end Ini

/-! ## Settings that a file gives -/

/-- Settings that a file gives, and others that it leaves out. -/
structure GivenSettings where
  host : Option String
  port : Option Nat
  user : Option String
  password : Option String
  database : Option String
  scramble : Option Bool

namespace GivenSettings

def truthWord (b : Bool) : String := if b then "yes" else "no"

def entries (g : GivenSettings) : List (String × Option String) :=
  [("host", g.host), ("port", g.port.map toString), ("user", g.user), ("password", g.password),
    ("database", g.database), ("scramble", g.scramble.map truthWord)]

/-- An option for each setting that is given. -/
def options (g : GivenSettings) : List (String × String) := given g.entries

/-- The settings, with the defaults for those that are left out. -/
def settings (g : GivenSettings) : Settings where
  host := g.host.getD Settings.initial.host
  port := g.port.elim Settings.initial.port fun n => n
  user := some (.text (g.user.getD ""))
  password := some (.text (g.password.getD ""))
  database := some (.text (g.database.getD ""))
  connectTimeout := Settings.initial.connectTimeout
  scramble := g.scramble.getD Settings.initial.scramble

structure WellFormed (g : GivenSettings) : Prop where
  host : ∀ v, g.host = some v → Plain v
  port : ∀ n, g.port = some n → n ≤ 65535
  user : ∀ v, g.user = some v → Plain v
  password : ∀ v, g.password = some v → Plain v
  database : ∀ v, g.database = some v → Plain v

variable {g : GivenSettings}

theorem map_fst_entries (g : GivenSettings) :
    g.entries.map Prod.fst = ["host", "port", "user", "password", "database", "scramble"] := rfl

theorem nodup_entries (g : GivenSettings) : (g.entries.map Prod.fst).Nodup := by
  rw [map_fst_entries]
  decide

theorem nodup_options (g : GivenSettings) : (g.options.map Prod.fst).Nodup :=
  (map_fst_given_sublist g.entries).nodup g.nodup_entries

theorem key_of_mem {e : String × Option String} (he : e ∈ g.entries) : Key e.1 := by
  have hall : ∀ name ∈ g.entries.map Prod.fst, Key name := by
    rw [map_fst_entries]
    exact List.all_iff_forall_prop.1 rfl
  exact hall e.1 (List.mem_map_of_mem he)

theorem plain_toString (n : Nat) : Plain (toString n) := by
  refine ⟨fun c hc => visible_of_isDigit (isDigit_of_mem_toString hc), fun h => ?_, fun h => ?_⟩
  · exact absurd (isDigit_of_mem_toString (List.mem_of_head? h)) (by decide)
  · exact absurd (isDigit_of_mem_toString (List.mem_of_getLast? h)) (by decide)

theorem plain_truthWord (b : Bool) : Plain (truthWord b) := by
  cases b with
  | false => exact ⟨List.all_iff_forall_prop.1 rfl, by decide, by decide⟩
  | true => exact ⟨List.all_iff_forall_prop.1 rfl, by decide, by decide⟩

theorem WellFormed.plain_of_mem (hg : g.WellFormed) {name value : String} (h : (name, some value) ∈ g.entries) :
    Plain value := by
  unfold entries at h
  simp only [List.mem_cons, Prod.mk.injEq, List.not_mem_nil, or_false] at h
  rcases h with ⟨-, h⟩ | ⟨-, h⟩ | ⟨-, h⟩ | ⟨-, h⟩ | ⟨-, h⟩ | ⟨-, h⟩
  · exact hg.host value h.symm
  · obtain ⟨n, -, rfl⟩ := Option.map_eq_some_iff.1 h.symm
    exact plain_toString n
  · exact hg.user value h.symm
  · exact hg.password value h.symm
  · exact hg.database value h.symm
  · obtain ⟨b, -, rfl⟩ := Option.map_eq_some_iff.1 h.symm
    exact plain_truthWord b

theorem WellFormed.writable (hg : g.WellFormed) : ∀ o ∈ g.options, Writable o := by
  intro o ho
  have hmem := mem_given ho
  exact ⟨key_of_mem hmem, hg.plain_of_mem hmem⟩

end GivenSettings

/-! ## Reading settings -/

namespace Settings

variable {options : List (String × String)} {name : String}

theorem option_eq {α β : Type} {value : Option β} {write : β → String} {read : String → Option α} {result : β → α}
    (hvalue : value? options name = .ok (value.map write))
    (hread : ∀ x, value = some x → read (write x) = some (result x)) (default : α) :
    option options name default read = .ok (value.elim default result) := by
  unfold option
  rw [hvalue]
  cases value with
  | none => rfl
  | some x =>
    simp only [Option.map_some]
    rw [hread x rfl]
    rfl

theorem textOption_eq {value : Option String} (hvalue : value? options name = .ok value) (default : String) :
    textOption options name default = .ok (value.getD default) := by
  have hid : value? options name = .ok (value.map id) := by rw [hvalue, Option.map_id, id]
  unfold textOption
  rw [option_eq hid (fun _ _ => rfl)]
  cases value with
  | none => rfl
  | some v => rfl

theorem intOption_eq {value : Option Nat} (hvalue : value? options name = .ok (value.map toString))
    (hsmall : ∀ n, value = some n → n ≤ 65535) (default : Int) :
    intOption options name default = .ok (value.elim default fun n => n) := by
  apply option_eq hvalue
  intro n hn
  have hfits : 65535 < 10 ^ maxDecimalDigits :=
    Nat.lt_of_lt_of_le (show 65535 < 10 ^ 5 by decide) (Nat.pow_le_pow_right (by decide) (by decide))
  exact decimal?_toString (Nat.lt_of_le_of_lt (hsmall n hn) hfits)

theorem truth?_truthWord (b : Bool) : truth? (GivenSettings.truthWord b) = some b := by
  cases b with
  | false => decide +kernel
  | true => decide +kernel

theorem optionsOf_one {name : String} (hname : name ≠ defaultName) (options : List (String × String)) :
    Ini.optionsOf ⟨[⟨name, options⟩]⟩ name = .ok options := by
  simp [optionsOf, Ini.find?, hname]

/-- The settings are made of the values of their options. -/
theorem ofIni_eq {g : GivenSettings} (hg : g.WellFormed) {ini : Ini} (hoptions : ini.optionsOf name = .ok options)
    (hvalue : ∀ k, value? options k = .ok (g.entries.lookup k).join) : ofIni ini name = .ok g.settings := by
  have htext : ∀ k default, textOption options k default = .ok ((g.entries.lookup k).join.getD default) :=
    fun k => textOption_eq (hvalue k)
  have hport : intOption options "port" initial.port = .ok g.settings.port := by
    have hgiven : value? options "port" = .ok (g.port.map toString) := hvalue "port"
    exact intOption_eq hgiven hg.port _
  have htimeout : option options "connect_timeout" initial.connectTimeout (fun s => Binary64.parse? s.toList) =
      .ok initial.connectTimeout := by
    unfold option
    rw [hvalue]
    rfl
  have hscramble : option options "scramble" initial.scramble truth? = .ok g.settings.scramble := by
    have hgiven : value? options "scramble" = .ok (g.scramble.map GivenSettings.truthWord) := hvalue "scramble"
    rw [option_eq hgiven fun b _ => truth?_truthWord b]
    show _ = Except.ok (g.scramble.getD _)
    cases g.scramble with
    | none => rfl
    | some b => rfl
  unfold ofIni
  simp only [hoptions, Except.mapError, bind, Except.bind, pure, Except.pure, htext, hport, htimeout, hscramble]
  rfl

end Settings

/-- From a file the settings that it gives are read, and the defaults for those that it leaves out. -/
theorem Settings.ofIni_written {g : GivenSettings} (hg : g.WellFormed) {options : List (String × String)}
    (horder : options.Perm g.options) {before lines : List (List Char)} (hbefore : ∀ l ∈ before, Filler l)
    (hwrites : Writes options lines) :
    ∃ ini, Ini.parse (fileText before "Client" lines) = .ok ini ∧ ofIni ini "Client" = .ok g.settings := by
  have hname : "Client" ≠ "" := by decide
  have hnewline : '\n' ∉ "Client".toList := by decide
  have hother : "Client" ≠ defaultName := by decide
  have hnodup : (options.map Prod.fst).Nodup := (horder.map Prod.fst).nodup_iff.2 g.nodup_options
  have hwritable : ∀ o ∈ options, Writable o := fun o ho => hg.writable o (horder.subset ho)
  refine ⟨_, parse_file hname hnewline hbefore hwrites hwritable hnodup, ?_⟩
  apply ofIni_eq hg (optionsOf_one hother _)
  intro k
  rw [value?_written horder hnodup, GivenSettings.options, lookup_given g.nodup_entries]

/-- A password of the marks that a reader looks for, among comments and empty lines. -/
theorem Settings.ofIni_written_marks :
    ∃ ini, Ini.parse "; mine\n[Client]\npassword = #50%%;=:[\n\nport = 65535\n  # more\nuser = \nscramble = yes" =
        .ok ini ∧
      ofIni ini "Client" = .ok ⟨defaultHost, 65535, some (.text ""), some (.text "#50%;=:["), some (.text ""),
        defaultTimeout, true⟩ := by
  let g : GivenSettings := ⟨none, some 65535, some "", some "#50%;=:[", none, some true⟩
  let options := [("password", "#50%;=:["), ("port", "65535"), ("user", ""), ("scramble", "yes")]
  let before := ["; mine".toList]
  let lines := [optionLine ("password", "#50%;=:["), [], optionLine ("port", "65535"), "  # more".toList,
    optionLine ("user", ""), optionLine ("scramble", "yes")]
  have hg : g.WellFormed := by
    refine ⟨?_, ?_, ?_, ?_, ?_⟩
    · rintro v ⟨⟩
    · rintro n ⟨⟩
      decide
    · rintro v ⟨⟩
      exact ⟨List.all_iff_forall_prop.1 rfl, by decide, by decide⟩
    · rintro v ⟨⟩
      exact ⟨List.all_iff_forall_prop.1 rfl, by decide, by decide⟩
    · rintro v ⟨⟩
  have horder : options.Perm g.options := by decide
  have hbefore : ∀ l ∈ before, Filler l := by
    intro l hl
    rw [List.mem_singleton.1 hl]
    refine ⟨by decide, ?_⟩
    rintro c ⟨⟩
    exact .inr rfl
  have hempty : Filler [] := by
    refine ⟨List.not_mem_nil, ?_⟩
    rintro c ⟨⟩
  have hcomment : Filler "  # more".toList := by
    refine ⟨by decide, ?_⟩
    rintro c ⟨⟩
    exact .inl rfl
  have hwrites : Writes options lines := .option (.filler hempty (.option (.filler hcomment (.option (.option .nil)))))
  have htext : fileText before "Client" lines =
      "; mine\n[Client]\npassword = #50%%;=:[\n\nport = 65535\n  # more\nuser = \nscramble = yes" := by
    decide +kernel
  obtain ⟨ini, hparse, hsettings⟩ := ofIni_written hg horder hbefore hwrites
  rw [htext] at hparse
  exact ⟨ini, hparse, hsettings⟩

end SqlWire
