import SqlWire.Text.Case
import SqlWire.Text.Numeral
import SqlWire.Text.Split
/-!
# URLs

A URL cut into its scheme, its authority and its path, and the authority into user, password, host
and port. Escapes are left as they are.
-/
namespace SqlWire

inductive UrlError where
  /-- Brackets do not match, or do not enclose the host alone. -/
  | brackets
  /-- What stands in brackets is no address. -/
  | address
  /-- A character would turn into a delimiter when it is put into its compatible form. -/
  | authority
  /-- The port is not a number up to 65535. -/
  | port

/-! ## Bracketed addresses -/

namespace Address

def isHexDigit (c : Char) : Bool :=
  ('0' ≤ c && c ≤ '9') || ('a' ≤ c && c ≤ 'f') || ('A' ≤ c && c ≤ 'F')

/-- One to four hexadecimal digits. -/
def isGroup (cs : List Char) : Bool := !cs.isEmpty && cs.length ≤ 4 && cs.all isHexDigit

/-- A number up to 255 without zeros in front. -/
def isDecimalOctet (cs : List Char) : Bool :=
  !cs.isEmpty && cs.length ≤ 3 && cs.all Char.isDigit && (cs = ['0'] || cs.head? ≠ some '0')
    && cs.foldl (fun n c => 10 * n + (c.toNat - '0'.toNat)) 0 ≤ 255

/-- Four octets in decimal. -/
def isDottedQuad (cs : List Char) : Bool :=
  let parts := Text.splitAt '.' cs
  parts.length = 4 && parts.all isDecimalOctet

/-- A dotted quad at the end counts as two groups. -/
def expandQuad (parts : List (List Char)) : Option (List (List Char)) :=
  match parts.getLast? with
  | some last =>
    if last.contains '.' then
      if isDottedQuad last then some (parts.dropLast ++ [['0'], ['0']]) else none
    else some parts
  | none => some parts

/-- The groups make up an address in which the empty group at `skip` stands for at least one group
of zeros. An empty group at either end must be next to it. -/
def isShortened (parts : List (List Char)) (skip : Nat) : Bool :=
  let high := parts.take skip
  let low := parts.drop (skip + 1)
  let high := if high = [[]] then [] else high
  let low := if low = [[]] then [] else low
  high.all isGroup && low.all isGroup && high.length + low.length ≤ 7

/-- The places of empty groups, without those at the ends. -/
def gaps (parts : List (List Char)) : List Nat :=
  (List.range parts.length).filter fun i =>
    0 < i && i + 1 < parts.length && parts[i]? = some []

/-- Eight groups between colons, of which one run of zeros may be left out. -/
def isGroups (cs : List Char) : Bool :=
  let parts := Text.splitAt ':' cs
  if parts.length < 3 then false
  else match expandQuad parts with
    | none => false
    | some parts =>
      if 9 < parts.length then false
      else match gaps parts with
        | [] => parts.length = 8 && parts.all isGroup
        | [skip] => isShortened parts skip
        | _ => false

/-- Groups, and a zone behind a percent sign. -/
def isVersion6 (cs : List Char) : Bool :=
  match Text.cutFirst '%' cs with
  | (groups, none) => isGroups groups
  | (groups, some zone) => !zone.isEmpty && !zone.contains '%' && isGroups groups

/-- A version in hexadecimal, a point and anything behind it. -/
def isFuture (cs : List Char) : Bool :=
  let rest := cs.drop 1
  !(rest.takeWhile isHexDigit).isEmpty &&
    match rest.dropWhile isHexDigit with
    | '.' :: _ :: _ => true
    | _ => false

/-- What may stand in brackets. -/
def isBracketed (cs : List Char) : Bool := if cs.head? = some 'v' then isFuture cs else isVersion6 cs

end Address

/-! ## Cutting -/

/-- A URL cut into parts; what follows the path is left out. -/
structure Url where
  scheme : List Char
  authority : List Char
  path : List Char

namespace Url

def isSchemeChar (c : Char) : Bool := c.isAlphanum || c = '+' || c = '-' || c = '.'

/-- The scheme in lower case and what stands behind its colon; without a scheme, all of it. -/
def takeScheme (cs : List Char) : List Char × List Char :=
  match Text.cutFirst ':' cs with
  | (scheme, some rest) =>
    if scheme.head?.any Char.isAlpha && scheme.all isSchemeChar then (Text.lower scheme, rest)
    else ([], cs)
  | (_, none) => ([], cs)

/-- Ends an authority. -/
def isAuthorityEnd (c : Char) : Bool := c = '/' || c = '?' || c = '#'

/-- Characters of which a compatible form holds one of the delimiters of a URL. -/
def isTreacherous (c : Char) : Bool :=
  [0x2047, 0x2048, 0x2049, 0x2100, 0x2101, 0x2105, 0x2106, 0x2A74, 0xFE13, 0xFE16, 0xFE55, 0xFE56,
    0xFE5F, 0xFE6B, 0xFF03, 0xFF0F, 0xFF1A, 0xFF1F, 0xFF20].contains c.toNat

/-- Host and port, as they follow the last at sign of an authority. -/
structure Location where
  /-- What stands in front of an opening bracket. -/
  before : List Char
  /-- What the brackets hold; without brackets, all up to the first colon. -/
  host : List Char
  /-- What follows the host: nothing, or a colon and the port. -/
  behind : List Char

/-- Cuts an authority at its first brackets, or at its first colon if none opens. -/
def Location.ofAuthority (authority : List Char) : Location :=
  let info := (Text.cutLast '@' authority).2
  match Text.cutFirst '[' info with
  | (before, some rest) =>
    let (host, behind) := Text.cutFirst ']' rest
    ⟨before, host, behind.getD []⟩
  | (_, none) => ⟨[], info.takeWhile (· ≠ ':'), info.dropWhile (· ≠ ':')⟩

/-- What follows the first colon behind the host. -/
def Location.port (l : Location) : List Char := (Text.cutFirst ':' l.behind).2.getD []

/-- Brackets come in pairs. With brackets anywhere in the authority, the host is an address, nothing
stands in front of its brackets and only a port behind them. -/
def checkBrackets (authority : List Char) : Except UrlError Unit :=
  match authority.contains '[', authority.contains ']' with
  | false, false => .ok ()
  | true, true =>
    let l := Location.ofAuthority authority
    if !l.before.isEmpty || l.behind.head?.any (· ≠ ':') then .error .brackets
    else if Address.isBracketed l.host then .ok ()
    else .error .address
  | _, _ => .error .brackets

/-- The authority behind two slashes and what follows it; without slashes, no authority. -/
def takeAuthority : List Char → Except UrlError (List Char × List Char)
  | '/' :: '/' :: rest => do
    let authority := rest.takeWhile (!isAuthorityEnd ·)
    checkBrackets authority
    if authority.any isTreacherous then throw .authority
    return (authority, rest.dropWhile (!isAuthorityEnd ·))
  | cs => .ok ([], cs)

/-- Without the control characters and spaces in front, and without tabs and line ends. -/
def clean (cs : List Char) : List Char :=
  (cs.dropWhile (·.toNat ≤ 0x20)).filter fun c => c ≠ '\t' && c ≠ '\r' && c ≠ '\n'

/-- Cuts a URL. A fragment ends it before a query does. -/
def split (text : String) : Except UrlError Url := do
  let (scheme, rest) := takeScheme (clean text.toList)
  let (authority, rest) ← takeAuthority rest
  return ⟨scheme, authority, (Text.cutFirst '?' (Text.cutFirst '#' rest).1).1⟩

/-! ## The authority -/

/-- User and password, in front of the last at sign. -/
def credentials (u : Url) : Option (List Char × Option (List Char)) :=
  (Text.cutLast '@' u.authority).1.map (Text.cutFirst ':')

def user (u : Url) : Option (List Char) := u.credentials.map (·.1)

def password (u : Url) : Option (List Char) := u.credentials.bind (·.2)

def location (u : Url) : Location := .ofAuthority u.authority

/-- The host in lower case, but for a zone behind a percent sign. -/
def host (u : Url) : List Char :=
  let h := u.location.host
  Text.lower (h.takeWhile (· ≠ '%')) ++ h.dropWhile (· ≠ '%')

def port (u : Url) : Except UrlError (Option Nat) :=
  let digits := u.location.port
  let n := digits.foldl (fun n c => 10 * n + (c.toNat - '0'.toNat)) 0
  if digits.isEmpty then .ok none
  else if digits.all Char.isDigit && digits.length ≤ Text.maxDecimalDigits && n ≤ 65535 then
    .ok (some n)
  else .error .port

end Url

end SqlWire
