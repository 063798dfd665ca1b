import JmsNaming.Text.Case
import JmsNaming.Text.Cut
import JmsNaming.Text.Disguise
import JmsNaming.Text.Quoted
import JmsNaming.Uri.Address

/-
The split of a URI into scheme, authority and path, and of an authority into user, password, host
and port. Each step is one cut at a delimiter, so that the pieces put together again give the text.
-/
namespace JmsNaming.Uri

open JmsNaming.Text

/-- Why a text is no usable URI. -/
inductive Fault where
  /-- Square brackets that do not enclose the whole host. -/
  | brackets
  /-- A bracketed host with a version that is malformed. -/
  | futureAddress
  /-- A dotted quad in brackets. -/
  | bracketedIPv4
  /-- A bracketed host that is no numeric address. -/
  | notAddress (host : List Char)
  /-- The authority has a character that normalises to a delimiter. -/
  | disguised (authority : List Char)
  /-- The port is no number. -/
  | portText (port : List Char)
  /-- The port has too many digits to be converted. -/
  | portDigits (count : Nat)
  /-- The port is above 65535. -/
  | portRange
  /-- The scheme is not one of the two of AMQP. -/
  | scheme (scheme : List Char)
  /-- The path has more than one segment. -/
  | segments
  deriving DecidableEq

/-! ## Scheme, authority, path -/

/-- The three parts of a URI that matter here. -/
structure Parts where
  scheme : List Char
  authority : List Char
  path : List Char
  deriving DecidableEq

/-- The text without controls and blanks in front, and without tabs and line ends anywhere. -/
def clean (s : List Char) : List Char :=
  (s.dropWhile fun c => c.toNat ≤ 32).filter fun c => c != '\t' && c != '\r' && c != '\n'

/-- A character that a scheme may have. -/
def isSchemeChar (c : Char) : Bool :=
  c.isAlphanum || c == '+' || c == '-' || c == '.'

/-- A text that can be a scheme. -/
def isScheme (s : List Char) : Bool :=
  match s with
  | [] => false
  | c :: _ => c.isAlpha && s.all isSchemeChar

/-- The scheme in small letters, empty if there is none, and the text after it. -/
def splitScheme (s : List Char) : List Char × List Char :=
  match cut? ':' s with
  | some (a, b) => if isScheme a then (a.map Char.toLower, b) else ([], s)
  | none => ([], s)

/-- A character that ends the authority. -/
def endsAuthority (c : Char) : Bool :=
  c == '/' || c == '?' || c == '#'

/-- The authority, which two slashes introduce, and the text after it. -/
def splitAuthority (s : List Char) : List Char × List Char :=
  match s with
  | '/' :: '/' :: rest =>
    (rest.takeWhile fun c => !endsAuthority c, rest.dropWhile fun c => !endsAuthority c)
  | _ => ([], s)

/-- The text before the query and the fragment. -/
def pathOf (s : List Char) : List Char :=
  before '?' (before '#' s)

/-! ## Inside the authority -/

/-- The part of an authority after the last `@`. -/
def hostPort (authority : List Char) : List Char :=
  afterLast '@' authority

/-- The host of a bracketed authority is a numeric address. -/
def checkAddress (host : List Char) : Except Fault Unit :=
  if host.head? == some 'v' then
    if isFutureAddress host then .ok () else .error .futureAddress
  else if isIPv4 host then .error .bracketedIPv4
  else if isIPv6 host then .ok ()
  else .error (.notAddress host)

/-- If brackets occur, the part after the last `@` is `[address]` or `[address]:port`. -/
def checkBrackets (authority : List Char) : Except Fault Unit :=
  if authority.contains '[' != authority.contains ']' then .error .brackets
  else if !authority.contains '[' then .ok ()
  else
    match cut? '[' (hostPort authority) with
    | some (front, rest) =>
      let tail := after ']' rest
      if !front.isEmpty || (!tail.isEmpty && tail.head? != some ':') then .error .brackets
      else checkAddress (before ']' rest)
    | none => checkAddress (before ':' (hostPort authority))

/-- No character of the authority is a delimiter in disguise. -/
def checkDisguise (authority : List Char) : Except Fault Unit :=
  if authority.any isDisguisedDelimiter then .error (.disguised authority) else .ok ()

/-- Splits a text into the parts of a URI. -/
def split (uri : List Char) : Except Fault Parts := do
  let (scheme, rest) := splitScheme (clean uri)
  let (authority, rest) := splitAuthority rest
  checkBrackets authority
  checkDisguise authority
  return { scheme, authority, path := pathOf rest }

/-- The host as it is written, without brackets. A bracket that is never closed takes the last
character with it. -/
def hostOf (authority : List Char) : List Char :=
  match hostPort authority with
  | '[' :: rest => if rest.contains ']' then before ']' rest else rest.dropLast
  | place => before ':' place

/-- The text of the port, empty if there is none. -/
def portTextOf (authority : List Char) : List Char :=
  match cut? '[' (hostPort authority) with
  | some (_, rest) => after ':' (after ']' rest)
  | none => after ':' (hostPort authority)

/-- The port, if one is given. -/
def portOf (authority : List Char) : Except Fault (Option Nat) :=
  let text := portTextOf authority
  if text.isEmpty then .ok none
  else if !text.all Char.isDigit then .error (.portText text)
  else if 4300 < text.length then .error (.portDigits text.length)
  else
    let n := natOfDigits 0 text
    if n ≤ 65535 then .ok (some n) else .error .portRange

/-- The user before the first `:` and the password after it, as far as they are given. -/
def userOf (authority : List Char) : Option (List Char) × Option (List Char) :=
  match cutLast? '@' authority with
  | none => (none, none)
  | some (info, _) =>
    match cut? ':' info with
    | some (user, password) => (some user, some password)
    | none => (some info, none)

end JmsNaming.Uri
