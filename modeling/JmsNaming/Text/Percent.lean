import JmsNaming.Text.Character
import JmsNaming.Text.Utf8

/-
Percent coding of text in URIs: every byte of the UTF-8 form that is not unreserved is written as
`%XX`; reading takes `%XX` in either letter case for its byte and every other character for its own
bytes.
-/
namespace JmsNaming.Text

/-- The characters that are written as they are. -/
def isUnreserved (c : Char) : Bool :=
  c.isAlphanum || c = '_' || c = '.' || c = '-' || c = '~'

/-- One byte, percent coded unless it is an unreserved character. -/
def percentByte (b : UInt8) : List Char :=
  let c := Char.ofNat b.toNat
  if isUnreserved c then [c] else ['%', capitalHexDigit (b.toNat / 16), capitalHexDigit (b.toNat % 16)]

/-- The percent-coded form of a text. -/
def percentEncode (s : List Char) : List Char :=
  (utf8 s).flatMap percentByte

/-- The bytes that a percent-coded text stands for. -/
def percentBytes : List Char → List UInt8
  | '%' :: a :: b :: rest =>
    match hexDigit? a, hexDigit? b with
    | some x, some y => UInt8.ofNat (x * 16 + y) :: percentBytes rest
    | _, _ => utf8Char '%' ++ percentBytes (a :: b :: rest)
  | c :: rest => utf8Char c ++ percentBytes rest
  | [] => []
  termination_by s => s.length

/-- The text that a percent-coded text stands for. -/
def percentDecode (s : List Char) : List Char :=
  utf8Text (percentBytes s)

end JmsNaming.Text
