import Mathlib.Data.List.Forall2
import Mathlib.Data.List.TakeWhile
import SqlWire.Proofs.Ascii
import SqlWire.Proofs.Cuts
import SqlWire.Proofs.Numerals
import SqlWire.Settings
/-!
# Settings from a URL

A URL is written from its parts, all of which but the host may be left out. From the URL its parts are read, whatever
separators of other parts are among their characters, and with capitals in the scheme and the host or without
(`Settings.ofUrl_write`).
-/
namespace SqlWire

open Text

/-! ## Characters -/

namespace Url

/-- May stand in an authority. -/
def AuthorityChar (c : Char) : Prop := Visible c ∧ c ∉ [' ', '/', '?', '#', '[', ']']

/-- May stand in a path. -/
def PathChar (c : Char) : Prop := Visible c ∧ c ∉ [' ', '?', '#']

/-- May stand in a host. -/
def HostChar (c : Char) : Prop := c.isLower = true ∨ c.isDigit = true ∨ c = '.' ∨ c = '-'

instance : DecidablePred AuthorityChar := fun _ => inferInstanceAs (Decidable (_ ∧ _))

instance : DecidablePred HostChar := fun _ => inferInstanceAs (Decidable (_ ∨ _))

variable {c : Char} {cs small authority path user password host behind : List Char}

theorem PathChar.not_blank (hc : PathChar c) : 0x20 < c.toNat := by
  obtain ⟨hvisible, hmem⟩ := hc
  have hne : c.toNat ≠ 0x20 := by
    intro h
    have hspace : c = ' ' := Char.ofNat_toNat c ▸ congrArg Char.ofNat h
    simp [hspace] at hmem
  have hlow := hvisible.1
  omega

theorem AuthorityChar.not_blank (hc : AuthorityChar c) : 0x20 < c.toNat := by
  refine PathChar.not_blank ⟨hc.1, fun hmem => hc.2 ?_⟩
  simp only [List.mem_cons, List.not_mem_nil, or_false] at hmem ⊢
  tauto

theorem HostChar.visible (hc : HostChar c) : Visible c := by
  rcases hc with hc | hc | rfl | rfl
  · exact visible_of_isLower hc
  · exact visible_of_isDigit hc
  · decide
  · decide

/-- May stand in a scheme, and is none of the characters that an authority is cut at. -/
def SchemeChar (c : Char) : Prop := isSchemeChar c = true ∧ AuthorityChar c ∧ c ∉ [':', '@', '%']

instance : DecidablePred SchemeChar := fun _ => inferInstanceAs (Decidable (_ ∧ _ ∧ _))

/-- What a character of a host is, as itself and as a capital. -/
theorem HostChar.spelled (hc : HostChar c) :
    ∀ d, d = c ∨ d = c.toUpper → SchemeChar d ∧ smallLetter d = c := by
  have hall : HostChar c →
      (SchemeChar c ∧ smallLetter c = c) ∧ SchemeChar c.toUpper ∧ smallLetter c.toUpper = c := by
    apply hc.visible.rec_on_number
    decide +kernel
  rintro d (rfl | rfl)
  · exact (hall hc).1
  · exact (hall hc).2

/-! ## Capitals -/

/-- Written with any of its letters as capitals. -/
def Respelled (small cs : List Char) : Prop := List.Forall₂ (fun s c => c = s ∨ c = s.toUpper) small cs

theorem Respelled.schemeChar (h : Respelled small cs) (hsmall : ∀ c ∈ small, HostChar c) :
    ∀ c ∈ cs, SchemeChar c := by
  induction h with
  | nil => simp
  | cons hc _ ih =>
    intro d hd
    rcases List.mem_cons.1 hd with rfl | hd
    · exact ((hsmall _ List.mem_cons_self).spelled _ hc).1
    · exact ih (fun c hc => hsmall c (List.mem_cons_of_mem _ hc)) d hd

theorem Respelled.map_smallLetter (h : Respelled small cs) (hsmall : ∀ c ∈ small, HostChar c) :
    cs.map smallLetter = small := by
  induction h with
  | nil => rfl
  | cons hc _ ih =>
    rw [List.map_cons, ((hsmall _ List.mem_cons_self).spelled _ hc).2,
      ih fun c hc => hsmall c (List.mem_cons_of_mem _ hc)]

theorem Respelled.lower_eq (h : Respelled small cs) (hsmall : ∀ c ∈ small, HostChar c) : lower cs = small := by
  rw [lower_of_ascii fun c hc => ?_, h.map_smallLetter hsmall]
  exact Nat.lt_of_le_of_lt (h.schemeChar hsmall c hc).2.1.1.2 (by decide)

/-! ## The parts of a URL -/

theorem clean_eq (h : ∀ c ∈ cs, 0x20 < c.toNat) : clean cs = cs := by
  have hdrop : cs.dropWhile (·.toNat ≤ 0x20) = cs := by
    cases cs with
    | nil => rfl
    | cons c cs =>
      have hc := h c List.mem_cons_self
      exact List.dropWhile_cons_of_neg (by simpa using hc)
  unfold clean
  rw [hdrop, List.filter_eq_self]
  intro c hc
  have hne : ∀ d : Char, d.toNat ≤ 0x20 → c ≠ d := by
    rintro d hd rfl
    exact absurd (h c hc) (by omega)
  simp [hne '\t' (by decide), hne '\r' (by decide), hne '\n' (by decide)]

theorem takeScheme_append_cons (hhead : cs.head?.any Char.isAlpha = true) (hcs : ∀ c ∈ cs, SchemeChar c)
    (rest : List Char) : takeScheme (cs ++ ':' :: rest) = (lower cs, rest) := by
  have hcolon : ':' ∉ cs := fun hmem => (hcs _ hmem).2.2 (by simp)
  have hall : cs.all isSchemeChar = true := List.all_eq_true.2 fun c hc => (hcs c hc).1
  unfold takeScheme
  rw [cutFirst_append_cons hcolon]
  simp [hhead, hall]

theorem takeWhile_authority (ha : ∀ c ∈ authority, AuthorityChar c) (hpath : path = [] ∨ path.head? = some '/') :
    (authority ++ path).takeWhile (!isAuthorityEnd ·) = authority ∧
      (authority ++ path).dropWhile (!isAuthorityEnd ·) = path := by
  have hall : ∀ c ∈ authority, (!isAuthorityEnd c) = true := by
    intro c hc
    have hmem := (ha c hc).2
    simp only [List.mem_cons, not_or] at hmem
    simp [isAuthorityEnd, hmem]
  rw [List.takeWhile_append_of_pos hall, List.dropWhile_append_of_pos hall]
  rcases hpath with rfl | hpath
  · simp
  · obtain ⟨rest, rfl⟩ := List.head?_eq_some_iff.1 hpath
    simp [isAuthorityEnd]

theorem takeAuthority_append (ha : ∀ c ∈ authority, AuthorityChar c)
    (hpath : path = [] ∨ path.head? = some '/') :
    takeAuthority ('/' :: '/' :: (authority ++ path)) = .ok (authority, path) := by
  have hopen : authority.contains '[' = false := by
    simpa using fun hmem => (ha '[' hmem).2 (by simp)
  have hclose : authority.contains ']' = false := by
    simpa using fun hmem => (ha ']' hmem).2 (by simp)
  have hplain : authority.any isTreacherous = false := by
    rw [List.any_eq_false]
    intro c hc
    have hhigh := (ha c hc).1.2
    simp only [isTreacherous, List.contains_iff_mem, List.mem_cons, List.not_mem_nil, or_false]
    omega
  obtain ⟨htake, hdrop⟩ := takeWhile_authority ha hpath
  have hbrackets : checkBrackets authority = .ok () := by
    unfold checkBrackets
    rw [hopen, hclose]
  simp only [takeAuthority, htake, hdrop, hbrackets, hplain]
  rfl

theorem split_eq {text : String} (htext : text.toList = cs ++ ':' :: '/' :: '/' :: (authority ++ path))
    (hhead : cs.head?.any Char.isAlpha = true) (hcs : ∀ c ∈ cs, SchemeChar c)
    (ha : ∀ c ∈ authority, AuthorityChar c) (hslash : path = [] ∨ path.head? = some '/')
    (hpath : ∀ c ∈ path, PathChar c) : split text = .ok ⟨lower cs, authority, path⟩ := by
  have hclean : clean text.toList = text.toList := by
    apply clean_eq
    intro c hc
    rw [htext] at hc
    simp only [List.mem_append, List.mem_cons] at hc
    rcases hc with hc | rfl | rfl | rfl | hc | hc
    · exact (hcs c hc).2.1.not_blank
    · decide
    · decide
    · decide
    · exact (ha c hc).not_blank
    · exact (hpath c hc).not_blank
  have hfragment : '#' ∉ path := fun hmem => (hpath _ hmem).2 (by simp)
  have hquery : '?' ∉ path := fun hmem => (hpath _ hmem).2 (by simp)
  unfold split
  rw [hclean, htext, takeScheme_append_cons hhead hcs]
  simp only
  rw [takeAuthority_append ha hslash]
  show Except.ok _ = _
  rw [cutFirst_of_not_mem hfragment, cutFirst_of_not_mem hquery]

/-! ## The parts of an authority -/

/-- Host and port behind the credentials. -/
theorem ofAuthority_eq (hplace : (cutLast '@' authority).2 = host ++ behind) (hopen : '[' ∉ host ++ behind)
    (hcolon : ':' ∉ host) (hbehind : behind = [] ∨ behind.head? = some ':') :
    Location.ofAuthority authority = ⟨[], host, behind⟩ := by
  have hall : ∀ c ∈ host, decide (c ≠ ':') = true := fun c hc => decide_eq_true (ne_of_mem_of_not_mem hc hcolon)
  unfold Location.ofAuthority
  rw [hplace]
  simp only
  rw [cutFirst_of_not_mem hopen]
  simp only
  rw [List.takeWhile_append_of_pos hall, List.dropWhile_append_of_pos hall]
  rcases hbehind with rfl | hbehind
  · simp
  · obtain ⟨digits, rfl⟩ := List.head?_eq_some_iff.1 hbehind
    simp

theorem host_eq {u : Url} (h : u.location.host = cs) (hspelled : Respelled small cs)
    (hsmall : ∀ c ∈ small, HostChar c) : u.host = small := by
  have hall : ∀ c ∈ cs, decide (c ≠ '%') = true := by
    intro c hc
    have hmem := (hspelled.schemeChar hsmall c hc).2.2
    simp only [List.mem_cons, not_or] at hmem
    exact decide_eq_true hmem.2.2.1
  have htake : cs.takeWhile (· ≠ '%') = cs := List.takeWhile_eq_self_iff.2 hall
  have hdrop : cs.dropWhile (· ≠ '%') = [] := List.dropWhile_eq_nil_iff.2 hall
  unfold host
  rw [h]
  simp only
  rw [htake, hdrop, List.append_nil, hspelled.lower_eq hsmall]

theorem port_eq {u : Url} {n : Nat} (h : u.location.behind = ':' :: Nat.toDigits 10 n) (hn : n ≤ 65535) :
    u.port = .ok (some n) := by
  have hdigits : u.location.port = Nat.toDigits 10 n := by
    unfold Location.port
    rw [h]
    exact congrArg (fun p => p.2.getD []) (@cutFirst_append_cons ':' [] (by simp) (Nat.toDigits 10 n))
  have hall : (Nat.toDigits 10 n).all Char.isDigit = true :=
    List.all_eq_true.2 fun c hc => Nat.isDigit_of_mem_toDigits (by decide) (by decide) hc
  have hlength : (Nat.toDigits 10 n).length ≤ maxDecimalDigits :=
    Nat.le_trans ((Nat.length_toDigits_le_iff (by decide) (by decide)).2 (show n < 10 ^ 5 by omega)) (by decide)
  have hvalue : (Nat.toDigits 10 n).foldl (fun n c => 10 * n + (c.toNat - '0'.toNat)) 0 = n :=
    Nat.ofDigitChars_ten_toDigits
  have hne : (Nat.toDigits 10 n).isEmpty = false := by simp [Nat.toDigits_ne_nil]
  unfold port
  simp only [hdigits, hvalue, hall, hne]
  simp [hlength, hn]

theorem port_of_none {u : Url} (h : u.location.behind = []) : u.port = .ok none := by
  unfold port Location.port
  rw [h]
  rfl

end Url

open Url

theorem Settings.orElse_of_ne {text : String} (h : text ≠ "") (other : Option Datum) :
    orElse (some text.toList) other = some (.text text) := by
  have hne : text.toList ≠ [] := by simpa using h
  unfold orElse
  split
  · contradiction
  · next heq => exact absurd (Option.some.inj heq) hne
  · next cs heq =>
    rw [← Option.some.inj heq, String.ofList_toList]

theorem Settings.ofUrl_of_split {base : Settings} {text : String} {url : Url}
    (hsplit : Url.split text = .ok url) (hscheme : url.scheme = scheme.toList) (hhost : url.host.isEmpty = false) :
    ofUrl base text = (url.port.mapError .badUrl).map fun port => { base with
      host := String.ofList url.host
      port := match port with
        | none | some 0 => base.port
        | some n => n
      user := orElse url.user base.user
      password := orElse url.password base.password
      database := some (.text (String.ofList (url.path.dropWhile (· = '/')))) } := by
  simp only [ofUrl, hsplit, hscheme, hhost, Except.mapError, bind, Except.bind, pure, Except.pure, ne_eq,
    not_true_eq_false, if_false, Bool.false_eq_true]
  cases url.port with
  | error e => rfl
  | ok port => rfl

/-! ## Whole URLs -/

/-- What a URL says, of which all but the host may be left out. -/
structure UrlParts where
  /-- User and password. -/
  credentials : Option (String × String)
  host : String
  port : Option Nat
  database : Option String

namespace UrlParts

variable {u : UrlParts} {scheme host : String}

def credentialsText (u : UrlParts) : String :=
  match u.credentials with
  | none => ""
  | some (user, password) => user ++ ":" ++ password ++ "@"

def portText (u : UrlParts) : String :=
  match u.port with
  | none => ""
  | some n => ":" ++ toString n

def databaseText (u : UrlParts) : String :=
  match u.database with
  | none => ""
  | some database => "/" ++ database

/-- The URL, with a spelling of its scheme and one of its host. -/
def write (u : UrlParts) (scheme host : String) : String :=
  scheme ++ "://" ++ u.credentialsText ++ host ++ u.portText ++ u.databaseText

/-- The parts hold none of the separators that end them. -/
structure WellFormed (u : UrlParts) : Prop where
  credentials : ∀ user password, u.credentials = some (user, password) →
    user ≠ "" ∧ (∀ c ∈ user.toList, AuthorityChar c ∧ c ≠ ':') ∧
      password ≠ "" ∧ ∀ c ∈ password.toList, AuthorityChar c
  host_ne : u.host ≠ ""
  host : ∀ c ∈ u.host.toList, HostChar c
  port : ∀ n, u.port = some n → 1 ≤ n ∧ n ≤ 65535
  database : ∀ database, u.database = some database →
    database.toList.head? ≠ some '/' ∧ ∀ c ∈ database.toList, PathChar c

/-- Between the slashes and the database. -/
def authority (u : UrlParts) (host : String) : List Char :=
  u.credentialsText.toList ++ (host.toList ++ u.portText.toList)

/-- The URL is cut into these parts. -/
def url (u : UrlParts) (host : String) : Url :=
  ⟨Settings.scheme.toList, u.authority host, u.databaseText.toList⟩

theorem toList_write (u : UrlParts) (scheme host : String) :
    (u.write scheme host).toList =
      scheme.toList ++ ':' :: '/' :: '/' :: (u.authority host ++ u.databaseText.toList) := by
  unfold write authority
  simp only [String.toList_append, List.append_assoc]
  rfl

theorem toList_credentialsText {user password : String} (h : u.credentials = some (user, password)) :
    u.credentialsText.toList = user.toList ++ ':' :: password.toList ++ ['@'] := by
  unfold credentialsText
  rw [h]
  simp only [String.toList_append, List.append_assoc]
  rfl

theorem toList_portText {n : Nat} (h : u.port = some n) : u.portText.toList = ':' :: Nat.toDigits 10 n := by
  unfold portText
  rw [h]
  simp only [String.toList_append, toList_toString]
  rfl

theorem mem_portText {c : Char} (hc : c ∈ u.portText.toList) : AuthorityChar c ∧ c ≠ '@' := by
  cases hport : u.port with
  | none =>
    unfold portText at hc
    rw [hport] at hc
    cases hc
  | some n =>
    rw [toList_portText hport] at hc
    rcases List.mem_cons.1 hc with rfl | hc
    · decide
    · have hhost : HostChar c := .inr (.inl (Nat.isDigit_of_mem_toDigits (by decide) (by decide) hc))
      have hplain := (hhost.spelled c (.inl rfl)).1.2
      exact ⟨hplain.1, fun h => hplain.2 (by simp [h])⟩

theorem portText_head (u : UrlParts) : u.portText.toList = [] ∨ u.portText.toList.head? = some ':' := by
  cases hport : u.port with
  | none =>
    left
    unfold portText
    rw [hport]
    rfl
  | some n =>
    right
    rw [toList_portText hport]
    rfl

theorem databaseText_head (u : UrlParts) :
    u.databaseText.toList = [] ∨ u.databaseText.toList.head? = some '/' := by
  unfold databaseText
  cases u.database with
  | none => exact .inl rfl
  | some database =>
    right
    simp only [String.toList_append]
    rfl

namespace WellFormed

theorem mem_databaseText (hu : u.WellFormed) : ∀ c ∈ u.databaseText.toList, PathChar c := by
  unfold databaseText
  cases hdatabase : u.database with
  | none => simp
  | some database =>
    intro c hc
    simp only [String.toList_append] at hc
    rcases List.mem_cons.1 hc with rfl | hc
    · exact ⟨by decide, by decide⟩
    · exact (hu.database database hdatabase).2 c hc

theorem database_eq (hu : u.WellFormed) :
    String.ofList (u.databaseText.toList.dropWhile (· = '/')) = u.database.getD "" := by
  unfold databaseText
  cases hdatabase : u.database with
  | none => rfl
  | some database =>
    have hhead := (hu.database database hdatabase).1
    have hdrop : database.toList.dropWhile (· = '/') = database.toList := by
      cases hlist : database.toList with
      | nil => rfl
      | cons c cs =>
        rw [hlist] at hhead
        exact List.dropWhile_cons_of_neg (by simpa using hhead)
    simp only [String.toList_append]
    show String.ofList (List.dropWhile _ ('/' :: database.toList)) = database
    rw [List.dropWhile_cons_of_pos (by simp), hdrop, String.ofList_toList]

theorem mem_credentialsText (hu : u.WellFormed) : ∀ c ∈ u.credentialsText.toList, AuthorityChar c := by
  cases hcredentials : u.credentials with
  | none =>
    unfold credentialsText
    rw [hcredentials]
    simp
  | some pair =>
    obtain ⟨user, password⟩ := pair
    obtain ⟨-, huser, -, hpassword⟩ := hu.credentials user password hcredentials
    rw [toList_credentialsText hcredentials]
    intro c hc
    simp only [List.mem_append, List.mem_cons, List.not_mem_nil, or_false] at hc
    rcases hc with (hc | rfl | hc) | rfl
    · exact (huser c hc).1
    · decide
    · exact hpassword c hc
    · decide

section Host

variable (hu : u.WellFormed) (hhost : Respelled u.host.toList host.toList)

include hu hhost

theorem mem_authority : ∀ c ∈ u.authority host, AuthorityChar c := by
  intro c hc
  unfold authority at hc
  simp only [List.mem_append] at hc
  rcases hc with hc | hc | hc
  · exact hu.mem_credentialsText c hc
  · exact (hhost.schemeChar hu.host c hc).2.1
  · exact (mem_portText hc).1

/-- The last at sign is the one behind the credentials. -/
theorem cutLast_authority : cutLast '@' (u.authority host) =
    (u.credentials.map fun x => x.1.toList ++ ':' :: x.2.toList, host.toList ++ u.portText.toList) := by
  have hat : '@' ∉ host.toList ++ u.portText.toList := by
    intro hmem
    rcases List.mem_append.1 hmem with hmem | hmem
    · exact (hhost.schemeChar hu.host _ hmem).2.2 (by simp)
    · exact (mem_portText hmem).2 rfl
  unfold authority
  cases hcredentials : u.credentials with
  | none =>
    have hempty : u.credentialsText.toList = [] := by
      unfold credentialsText
      rw [hcredentials]
      rfl
    rw [hempty, List.nil_append, cutLast_of_not_mem hat]
    rfl
  | some pair =>
    obtain ⟨user, password⟩ := pair
    rw [toList_credentialsText hcredentials, List.append_assoc, List.singleton_append, cutLast_append_cons hat]
    rfl

theorem credentials_url : (u.url host).credentials = u.credentials.map fun x => (x.1.toList, some x.2.toList) := by
  unfold Url.credentials url
  rw [hu.cutLast_authority hhost]
  cases hcredentials : u.credentials with
  | none => rfl
  | some pair =>
    obtain ⟨user, password⟩ := pair
    have hcolon : ':' ∉ user.toList := fun hmem => ((hu.credentials user password hcredentials).2.1 _ hmem).2 rfl
    exact congrArg some (cutFirst_append_cons hcolon password.toList)

theorem user_url (user : Option Datum) :
    Settings.orElse (u.url host).user user = u.credentials.elim user fun x => some (.text x.1) := by
  unfold Url.user
  rw [hu.credentials_url hhost]
  cases hcredentials : u.credentials with
  | none => rfl
  | some pair => exact Settings.orElse_of_ne (hu.credentials pair.1 pair.2 hcredentials).1 user

theorem password_url (password : Option Datum) :
    Settings.orElse (u.url host).password password = u.credentials.elim password fun x => some (.text x.2) := by
  unfold Url.password
  rw [hu.credentials_url hhost]
  cases hcredentials : u.credentials with
  | none => rfl
  | some pair => exact Settings.orElse_of_ne (hu.credentials pair.1 pair.2 hcredentials).2.2.1 password

theorem location_url : (u.url host).location = ⟨[], host.toList, u.portText.toList⟩ := by
  have hplace : (cutLast '@' (u.authority host)).2 = host.toList ++ u.portText.toList := by
    rw [hu.cutLast_authority hhost]
  refine ofAuthority_eq hplace ?_ ?_ u.portText_head
  · intro hmem
    exact (hu.mem_authority hhost '[' (List.mem_append_right _ hmem)).2 (by simp)
  · intro hmem
    exact (hhost.schemeChar hu.host _ hmem).2.2 (by simp)

theorem port_url : (u.url host).port = .ok u.port := by
  have hbehind : (u.url host).location.behind = u.portText.toList := by
    rw [hu.location_url hhost]
  cases hport : u.port with
  | none =>
    apply port_of_none
    unfold portText at hbehind
    rwa [hport] at hbehind
  | some n =>
    rw [toList_portText hport] at hbehind
    exact port_eq hbehind (hu.port n hport).2

end Host

theorem split_write (hu : u.WellFormed) (hscheme : Respelled Settings.scheme.toList scheme.toList)
    (hhost : Respelled u.host.toList host.toList) : split (u.write scheme host) = .ok (u.url host) := by
  have hsmall : ∀ c ∈ Settings.scheme.toList, HostChar c := List.all_iff_forall_prop.1 rfl
  have hhead : scheme.toList.head?.any Char.isAlpha = true := by
    obtain ⟨c, rest, hc, -, heq⟩ := List.forall₂_cons_left_iff.1 hscheme
    rw [heq]
    rcases hc with rfl | rfl
    · rfl
    · rfl
  rw [split_eq (u.toList_write scheme host) hhead (hscheme.schemeChar hsmall) (hu.mem_authority hhost)
    u.databaseText_head hu.mem_databaseText, hscheme.lower_eq hsmall]
  rfl

end WellFormed

end UrlParts

/-- From a URL the parts that it was written from are read, with what stands in their place for those that it leaves
out. -/
theorem Settings.ofUrl_write {u : UrlParts} (hu : u.WellFormed) {scheme host : String}
    (hscheme : Respelled Settings.scheme.toList scheme.toList) (hhost : Respelled u.host.toList host.toList)
    (user password : Option Datum) (timeout : Binary64) (scramble : Bool) :
    ofUrl { initial with user := user, password := password, connectTimeout := timeout, scramble := scramble }
      (u.write scheme host) =
    .ok {
      host := u.host
      port := u.port.elim defaultPort fun n => n
      user := u.credentials.elim user fun x => some (.text x.1)
      password := u.credentials.elim password fun x => some (.text x.2)
      database := some (.text (u.database.getD ""))
      connectTimeout := timeout
      scramble := scramble } := by
  have hname : (u.url host).host = u.host.toList := by
    apply host_eq _ hhost hu.host
    rw [hu.location_url hhost]
  have hne : u.host.toList.isEmpty = false := by simpa using hu.host_ne
  -- a port of zero would give the default, too
  have hport : (match u.port with
      | none | some 0 => defaultPort
      | some n => (n : Int)) = u.port.elim defaultPort fun n => n := by
    split
    · next h => rw [h]; rfl
    · next h => exact absurd (hu.port 0 h).1 (by decide)
    · next h => rw [h]; rfl
  rw [ofUrl_of_split (hu.split_write hscheme hhost) rfl (hname ▸ hne), hu.port_url hhost, hname,
    hu.user_url hhost, hu.password_url hhost]
  show Except.ok _ = _
  rw [String.ofList_toList, show (u.url host).path = u.databaseText.toList from rfl, hu.database_eq]
  exact congrArg (fun port => Except.ok (Settings.mk u.host port _ _ _ _ _)) hport

/-- Credentials that hold the separators of others, and capitals. -/
theorem Settings.ofUrl_write_capitals :
    let u : UrlParts := ⟨some ("a@b%", "p:w@%"), "db-1.example", some 4000, none⟩
    u.WellFormed ∧ Respelled Settings.scheme.toList "PcSQL".toList ∧
      Respelled u.host.toList "DB-1.Example".toList ∧
      ofUrl initial "PcSQL://a@b%:p:w@%@DB-1.Example:4000" =
        .ok ⟨"db-1.example", 4000, some (.text "a@b%"), some (.text "p:w@%"), some (.text ""), defaultTimeout,
          false⟩ := by
  intro u
  have hu : u.WellFormed := by
    refine ⟨?_, by decide, List.all_iff_forall_prop.1 (by decide), ?_, ?_⟩
    · rintro user password ⟨⟩
      exact ⟨by decide, List.all_iff_forall_prop.1 rfl, by decide, List.all_iff_forall_prop.1 rfl⟩
    · rintro n ⟨⟩
      decide
    · rintro database ⟨⟩
  have hscheme : Respelled Settings.scheme.toList "PcSQL".toList := by
    unfold Respelled
    decide
  have hhost : Respelled u.host.toList "DB-1.Example".toList := by
    unfold Respelled
    decide
  have h := ofUrl_write hu hscheme hhost (some (.text "")) (some (.text "")) defaultTimeout false
  exact ⟨hu, hscheme, hhost, h⟩

end SqlWire
