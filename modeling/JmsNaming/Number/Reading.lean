import JmsNaming.Number.Binary64
import JmsNaming.Number.Limit
import JmsNaming.Text.Case
import JmsNaming.Text.Character
import JmsNaming.Text.Quoted

/-
Reading numbers from text: the strict decimals of properties, and the liberal whole numbers and
decimals of settings, which admit blanks around, single underscores between digits and digits of
any script.
-/
namespace JmsNaming.Number

/-- Why a text is no number. -/
inductive Fault where
  /-- The text has a character or shape that no decimal has. -/
  | notDecimal (text : String)
  /-- The text is no whole number in the liberal form. -/
  | notWhole (text : String)
  /-- The text is no number in the liberal form. -/
  | notFloat (text : String)
  /-- More digits than are ever converted. -/
  | tooLong (digits : Nat)
  /-- The number does not fit its type. -/
  | outOfRange (text : String) (least greatest : Int)
  deriving DecidableEq

def Fault.message : Fault → String
  | notDecimal t => "invalid literal for base 10: " ++ String.ofList (Text.quoted t.toList)
  | notWhole t => "invalid literal for int() with base 10: " ++ String.ofList ((Text.quoted t.toList).take 200)
  | notFloat t => "could not convert string to float: " ++ String.ofList (Text.quoted t.toList)
  | tooLong n => "Exceeds the limit (4300 digits) for integer string conversion: value has " ++ toString n ++
      " digits; use sys.set_int_max_str_digits() to increase the limit"
  | outOfRange t a b => "value " ++ t ++ " out of range [" ++ toString a ++ ", " ++ toString b ++ "]"

/-! ## Decimals of properties -/

/-- The sign and the digits of a signed decimal. -/
def unsigned : List Char → Bool × List Char
  | '-' :: cs => (true, cs)
  | '+' :: cs => (false, cs)
  | cs => (false, cs)

/-- Reads an optional sign and ASCII digits as a whole number from `least` to `greatest`. -/
def readDecimal (least greatest : Int) (text : String) : Except Fault Int :=
  let (negative, digits) := unsigned text.toList
  if digits.isEmpty || !digits.all Char.isDigit then .error (.notDecimal text)
  else if maxDigits < digits.length then .error (.tooLong digits.length)
  else
    let n : Int := Text.natOfDigits 0 digits
    let value := if negative then -n else n
    if least ≤ value && value ≤ greatest then .ok value else .error (.outOfRange text least greatest)

/-! ## Liberal numbers -/

/-- The blanks that may stand around a number: white space of any script, but not the separators
U+001C to U+001F. -/
def isNumberBlank (c : Char) : Bool :=
  Text.isBlank c && !(0x1c ≤ c.toNat && c.toNat ≤ 0x1f)

/-- The text without the blanks around a number. -/
def trimNumber (s : List Char) : List Char :=
  ((s.dropWhile isNumberBlank).reverse.dropWhile isNumberBlank).reverse

/-- Digits of any script as ASCII digits; other characters beyond ASCII stay. -/
def plainDigits (s : List Char) : List Char :=
  s.map fun c => match Text.decimalDigit? c with
    | some d => Char.ofNat (48 + d)
    | none => c

/-- The digits, single underscores between two of them, that a text begins with: without the
underscores, and the rest. Nothing is returned when an underscore is not between digits. -/
def digitRun? (s : List Char) : Option (List Char × List Char) :=
  let run := s.takeWhile fun c => c.isDigit || c == '_'
  let rest := s.dropWhile fun c => c.isDigit || c == '_'
  let rec single : List Char → Bool
    | '_' :: '_' :: _ => false
    | _ :: cs => single cs
    | [] => true
  if run.head? == some '_' || run.getLast? == some '_' || !single run then none
  else some (run.filter (· != '_'), rest)

/-- Reads a whole number in the liberal form. -/
def readWhole (text : String) : Except Fault Int :=
  let (negative, body) := unsigned (trimNumber (plainDigits text.toList))
  match digitRun? body with
  | none => .error (.notWhole text)
  | some (digits, rest) =>
    if maxDigits < digits.length then .error (.tooLong digits.length)
    else if digits.isEmpty || !rest.isEmpty then .error (.notWhole text)
    else
      let n : Int := Text.natOfDigits 0 digits
      .ok (if negative then -n else n)

/-- Reads an unsigned decimal with optional fraction and exponent. -/
def readUnsignedFloat? (negative : Bool) (s : List Char) : Option Binary64 := do
  let word := Text.lower s
  if word = "inf".toList || word = "infinity".toList then return .infinite negative
  if word = "nan".toList then return .nan
  let (whole, rest) ← digitRun? s
  let (fraction, rest) ← match rest with
    | '.' :: cs => if cs.head? == some '_' then none else digitRun? cs
    | cs => some ([], cs)
  if whole.isEmpty && fraction.isEmpty then none
  let exponent ← match rest with
    | [] => some 0
    | e :: cs =>
      if e != 'e' && e != 'E' then none
      else
        let (negative, cs) := unsigned cs
        match digitRun? cs with
        | some (digits, []) =>
          if digits.isEmpty then none
          else some (if negative then -(Text.natOfDigits 0 digits : Int) else Text.natOfDigits 0 digits)
        | _ => none
  return Binary64.ofDecimal negative (Text.natOfDigits 0 (whole ++ fraction)) (exponent - fraction.length)

/-- Reads a number in the liberal form. -/
def readFloat (text : String) : Except Fault Binary64 :=
  let (negative, body) := unsigned (trimNumber (plainDigits text.toList))
  match readUnsignedFloat? negative body with
  | some x => .ok x
  | none => .error (.notFloat text)

end JmsNaming.Number
