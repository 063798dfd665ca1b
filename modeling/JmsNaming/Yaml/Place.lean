import JmsNaming.Number.Reading
import JmsNaming.Value.Moment

/-
A place in a YAML text: what is left to read, and the line and column that have been reached. Line
ends are U+000A, U+0085, U+2028 and U+2029.
-/
namespace JmsNaming.Yaml

/-- Why a text is no document. -/
inductive Fault where
  /-- The text breaks the rules of the format. -/
  | malformed
  /-- A number cannot be converted. -/
  | number (fault : Number.Fault)
  /-- The digits of a number in a base are missing. -/
  | noDigits (base : Nat)
  /-- A date or time is out of range. -/
  | calendar (fault : CalendarFault)
  /-- An escape denotes no character. -/
  | codePoint
  /-- An escape denotes a number that is never looked at as a character. -/
  | codeNumber
  /-- A number in base sixty has too many parts. -/
  | overflow

def Fault.message : Fault → String
  | malformed => ""
  | number fault => fault.message
  | noDigits base => "invalid literal for int() with base " ++ toString base ++ ": ''"
  | calendar fault => fault.message
  | codePoint => "chr() arg not in range(0x110000)"
  | codeNumber => "Python int too large to convert to C int"
  | overflow => "int too large to convert to float"

/-! ## Characters -/

def isBreak (c : Char) : Bool :=
  c == '\n' || c.toNat == 0x85 || c.toNat == 0x2028 || c.toNat == 0x2029

/-- A blank, a tab or a line end, or the end of the text. -/
def isGap : Option Char → Bool
  | none => true
  | some c => c == ' ' || c == '\t' || isBreak c

/-- A line end or the end of the text. -/
def isLineEnd : Option Char → Bool
  | none => true
  | some c => isBreak c

/-- A letter, digit, hyphen or underscore. -/
def isWordChar (c : Char) : Bool :=
  c.isAlphanum || c == '-' || c == '_'

/-- The characters that a document may have. -/
def isAllowed (c : Char) : Bool :=
  let n := c.toNat
  n == 9 || n == 10 || n == 13 || (0x20 ≤ n && n ≤ 0x7e) || n == 0x85 || (0xa0 ≤ n && n ≤ 0xd7ff) ||
    (0xe000 ≤ n && n ≤ 0xfffd) || 0x10000 ≤ n

/-! ## Places -/

structure Place where
  rest : List Char
  index : Nat := 0
  line : Nat := 0
  column : Nat := 0

namespace Place

def peek (p : Place) (n : Nat) : Option Char :=
  p.rest[n]?

def head (p : Place) : Option Char :=
  p.rest.head?

/-- The place after the next character. A byte order mark takes no column. -/
def next (p : Place) : Place :=
  match p.rest with
  | [] => p
  | c :: rest =>
    if isBreak c then { rest, index := p.index + 1, line := p.line + 1, column := 0 }
    else { rest, index := p.index + 1, line := p.line, column := if c.toNat == 0xfeff then p.column else p.column + 1 }

/-- The place after `n` more characters. -/
def skip (p : Place) : Nat → Place
  | 0 => p
  | n + 1 => p.next.skip n

/-- The characters in front that satisfy a test, and the place after them. -/
def takeWhile (p : Place) (test : Char → Bool) : List Char × Place :=
  let run := p.rest.takeWhile test
  (run, p.skip run.length)

def skipWhile (p : Place) (test : Char → Bool) : Place :=
  (p.takeWhile test).2

/-- The line end in front, in its plain form, and the place after it. -/
def lineBreak? (p : Place) : Option (Char × Place) :=
  match p.rest with
  | c :: _ =>
    if c == '\n' || c.toNat == 0x85 then some ('\n', p.next)
    else if isBreak c then some (c, p.next)
    else none
  | [] => none

/-- Three equal marks in front, and then a gap. -/
def hasMarker (p : Place) (c : Char) : Bool :=
  p.rest.take 3 == [c, c, c] && isGap (p.peek 3)

/-- A line that separates documents begins here. -/
def atSeparator (p : Place) : Bool :=
  p.hasMarker '-' || p.hasMarker '.'

end Place

end JmsNaming.Yaml
