import JmsNaming.Text.Character
import JmsNaming.Text.Cut

/-
Which texts are numeric network addresses: dotted quads, groups of hexadecimal digits with at most
one run of zero groups left out, and the versioned form kept for later kinds of address.
-/
namespace JmsNaming.Uri

open JmsNaming.Text

/-- A number below 256 in plain decimal, without zeros in front. -/
def isOctet (s : List Char) : Bool :=
  !s.isEmpty && s.all Char.isDigit && s.length ≤ 3 && (s == ['0'] || s.head? != some '0') && natOfDigits 0 s ≤ 255

/-- Four octets with dots between them. -/
def isIPv4 (s : List Char) : Bool :=
  let octets := pieces '.' s
  octets.length == 4 && octets.all isOctet

/-- One to four hexadecimal digits. -/
def isGroup (s : List Char) : Bool :=
  !s.isEmpty && s.length ≤ 4 && s.all fun c => (hexDigit? c).isSome

/-- The groups of an address, where a dotted quad at the end counts as two; nothing if such an end is
no quad. -/
def groups? (parts : List (List Char)) : Option (List (List Char)) :=
  match parts.getLast? with
  | some last =>
    if last.contains '.' then
      if isIPv4 last then some (parts.dropLast ++ [['0'], ['0']]) else none
    else some parts
  | none => none

/-- Groups around one empty inner group, which stands for at least one group of zeros; an empty first
or last group is admitted only next to it. -/
def isAbbreviated (front back : List (List Char)) : Bool :=
  let front := if front.head? == some [] then front.drop 1 else front
  let back := if back.getLast? == some [] then back.dropLast else back
  front.length + back.length ≤ 7 && front.all isGroup && back.all isGroup

/-- Eight groups, or fewer around one left-out run of zeros. -/
def areGroups (parts : List (List Char)) : Bool :=
  parts.length ≤ 9 &&
    match (parts.drop 1).dropLast.findIdx? (·.isEmpty) with
    | some i =>
      let front := parts.take (i + 1)
      let back := parts.drop (i + 2)
      -- a first or last empty group belongs to the run, and then stands alone on its side
      (front.head? != some [] || front.length == 1) && (back.getLast? != some [] || back.length == 1) &&
        isAbbreviated front back
    | none => parts.length == 8 && parts.all isGroup

/-- An address of eight groups, with an optional zone after `%`. -/
def isIPv6 (s : List Char) : Bool :=
  let zoneOk := match cut? '%' s with
    | some (_, zone) => !zone.isEmpty && !zone.contains '%'
    | none => true
  let parts := pieces ':' (before '%' s)
  zoneOk && 3 ≤ parts.length &&
    match groups? parts with
    | some parts => areGroups parts
    | none => false

/-- The letter `v`, hexadecimal digits, a dot and some text without line ends. -/
def isFutureAddress (s : List Char) : Bool :=
  match s with
  | 'v' :: rest =>
    let digits := rest.takeWhile fun c => (hexDigit? c).isSome
    match rest.dropWhile fun c => (hexDigit? c).isSome with
    | '.' :: tail => !digits.isEmpty && !tail.isEmpty && !tail.contains '\n'
    | _ => false
  | _ => false

end JmsNaming.Uri
