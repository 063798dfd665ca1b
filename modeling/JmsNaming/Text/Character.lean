import JmsNaming.Text.DigitTable
import JmsNaming.Text.PrintableTable

/-
Classes of characters: blanks, decimal digits of any script, hexadecimal digits, printable
characters. The ASCII classes are the `Char.isDigit` and `Char.isAlpha` of the library.
-/
namespace JmsNaming.Text

/-- The number `n` lies in one of the closed ranges. -/
def inRanges (ranges : List (Nat × Nat)) (n : Nat) : Bool :=
  ranges.any fun r => r.1 ≤ n && n ≤ r.2

/-! ## Blanks -/

/-- White space of any script: the separators of Unicode, the controls U+0009 to U+000D,
U+001C to U+001F, and U+0085. -/
def isBlank (c : Char) : Bool :=
  let n := c.toNat
  (9 ≤ n && n ≤ 13) || (0x1c ≤ n && n ≤ 0x20) || n == 0x85 || n == 0xa0 || n == 0x1680 ||
    (0x2000 ≤ n && n ≤ 0x200a) || n == 0x2028 || n == 0x2029 || n == 0x202f || n == 0x205f || n == 0x3000

/-- The text without the blanks at its two ends. -/
def trim (s : List Char) : List Char :=
  ((s.dropWhile isBlank).reverse.dropWhile isBlank).reverse

/-! ## Digits -/

/-- The value of a decimal digit of any script. -/
def decimalDigit? (c : Char) : Option Nat :=
  if c.isDigit then some (c.toNat - 48)
  else if c.toNat < 128 then none
  else (decimalZeros.find? fun z => z ≤ c.toNat && c.toNat < z + 10).map (c.toNat - ·)

/-- The value of an ASCII hexadecimal digit. -/
def hexDigit? (c : Char) : Option Nat :=
  if c.isDigit then some (c.toNat - 48)
  else if 'a' ≤ c && c ≤ 'f' then some (c.toNat - 87)
  else if 'A' ≤ c && c ≤ 'F' then some (c.toNat - 55)
  else none

/-- The number that a text of decimal digits denotes, read from the left onto `acc`. -/
def natOfDigits (acc : Nat) : List Char → Nat
  | [] => acc
  | c :: cs => natOfDigits (acc * 10 + (c.toNat - 48)) cs

/-- The number that hexadecimal digits denote, if all are. -/
def natOfHex? (s : List Char) : Option Nat :=
  s.foldlM (fun acc c => (hexDigit? c).map (acc * 16 + ·)) 0

/-- The digit of `n < 16`, in small letters. -/
def smallHexDigit (n : Nat) : Char :=
  if n < 10 then Char.ofNat (48 + n) else Char.ofNat (87 + n)

/-- The digit of `n < 16`, in capitals. -/
def capitalHexDigit (n : Nat) : Char :=
  if n < 10 then Char.ofNat (48 + n) else Char.ofNat (55 + n)

/-- The last `width` hexadecimal digits of `n`, in small letters. -/
def hexText (n : Nat) : (width : Nat) → List Char
  | 0 => []
  | width + 1 => hexText (n / 16) width ++ [smallHexDigit (n % 16)]

/-- The number of a code point, in at least four hexadecimal digits, in capitals. -/
def codeDigits (n : Nat) : List Char :=
  (hexText n (if n < 0x10000 then 4 else if n < 0x100000 then 5 else 6)).map Char.toUpper

/-! ## Pairs of units -/

/-- The number is the first half of a pair of UTF-16 units. -/
def isHighUnit (n : Nat) : Bool :=
  0xd800 ≤ n && n < 0xdc00

/-- The number is the second half of a pair of UTF-16 units. -/
def isLowUnit (n : Nat) : Bool :=
  0xdc00 ≤ n && n < 0xe000

/-- The character that a pair of UTF-16 units stands for. -/
def paired (high low : Nat) : Char :=
  Char.ofNat (0x10000 + (high - 0xd800) * 1024 + (low - 0xdc00))

/-! ## Printable characters -/

/-- A character that stands for itself in quoted text: the blank U+0020 and every character that is
no separator, no control and assigned. -/
def isPrintable (c : Char) : Bool :=
  if c.toNat < 127 then 32 ≤ c.toNat else inRanges printableRanges c.toNat

end JmsNaming.Text
