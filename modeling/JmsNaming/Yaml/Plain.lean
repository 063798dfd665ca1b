import JmsNaming.Text.Cut
import JmsNaming.Value.Basic
import JmsNaming.Yaml.Place

/-
What a plain scalar is: null, a truth value, a number, a date or an instant if it is written like one,
and a text otherwise; and the value that each kind of scalar has.
-/
namespace JmsNaming.Yaml

/-- The kinds of nodes. `merge` and `equals` are the two marks that have a meaning as keys only. -/
inductive Kind where
  | null
  | bool
  | int
  | float
  | timestamp
  | text
  | merge
  | equals
  | sequence
  | mapping
  | unknown
  deriving DecidableEq

/-! ## Shapes -/

/-- An ASCII digit or an underscore. -/
def isSpacedDigit (c : Char) : Bool :=
  c.isDigit || c == '_'

def dropSign : List Char → List Char
  | '-' :: cs => cs
  | '+' :: cs => cs
  | cs => cs

/-- A digit and then digits and underscores. -/
def startsDigit (s : List Char) : Bool :=
  match s with
  | c :: cs => c.isDigit && cs.all isSpacedDigit
  | [] => false

/-- The number of minutes or seconds: one digit, or two below sixty. -/
def isSixtieth : List Char → Bool
  | [a] => a.isDigit
  | [a, b] => '0' ≤ a && a ≤ '5' && b.isDigit
  | _ => false

/-- Nothing, or an exponent with its sign. -/
def isExponent : List Char → Bool
  | [] => true
  | e :: sign :: digits =>
    (e == 'e' || e == 'E') && (sign == '-' || sign == '+') && !digits.isEmpty && digits.all Char.isDigit
  | _ => false

/-- Digits and underscores, and then perhaps an exponent. -/
def isFraction (s : List Char) : Bool :=
  isExponent (s.dropWhile isSpacedDigit)

def isIntText (s : List Char) : Bool :=
  match dropSign s with
  | ['0'] => true
  | '0' :: 'b' :: digits => !digits.isEmpty && digits.all fun c => c == '0' || c == '1' || c == '_'
  | '0' :: 'x' :: digits => !digits.isEmpty && digits.all fun c => (Text.hexDigit? c).isSome || c == '_'
  | '0' :: digits => digits.all fun c => ('0' ≤ c && c ≤ '7') || c == '_'
  | digits =>
    match Text.pieces ':' digits with
    | first :: rest => startsDigit first && rest.all isSixtieth
    | [] => false

def isFloatText (s : List Char) : Bool :=
  let body := dropSign s
  let words := ["inf".toList, "Inf".toList, "INF".toList]
  let nanWords := ["nan".toList, "NaN".toList, "NAN".toList]
  match s, body with
  | _, '.' :: cs =>
    words.contains cs ||
      (s.head? == some '.' && (nanWords.contains cs ||
        (match cs with
          | c :: _ => c.isDigit && isFraction cs
          | [] => false)))
  | _, _ =>
    match Text.cut? '.' body with
    | some (whole, fraction) =>
      match Text.pieces ':' whole with
      | [digits] => startsDigit digits && isFraction fraction
      | first :: rest => startsDigit first && rest.all isSixtieth && fraction.all isSpacedDigit
      | [] => false
    | none => false

def trueWords : List String := ["yes", "Yes", "YES", "true", "True", "TRUE", "on", "On", "ON"]

def falseWords : List String := ["no", "No", "NO", "false", "False", "FALSE", "off", "Off", "OFF"]

def nullWords : List String := ["", "~", "null", "Null", "NULL"]

/-! ## Dates and instants -/

/-- One digit or two, and the rest. -/
def oneOrTwo? : List Char → Option (Nat × List Char)
  | a :: b :: rest =>
    if a.isDigit then
      if b.isDigit then some (Text.natOfDigits 0 [a, b], rest) else some (Text.natOfDigits 0 [a], b :: rest)
    else none
  | [a] => if a.isDigit then some (Text.natOfDigits 0 [a], []) else none
  | [] => none

/-- Exactly two digits, and the rest. -/
def two? : List Char → Option (Nat × List Char)
  | a :: b :: rest => if a.isDigit && b.isDigit then some (Text.natOfDigits 0 [a, b], rest) else none
  | _ => none

/-- The text after `c`. -/
def expect? (c : Char) : List Char → Option (List Char)
  | d :: rest => if c = d then some rest else none
  | [] => none

/-- The offset of a clock at the end of an instant: none, the universal clock, or a signed one. -/
def offset? (s : List Char) : Option (Option Int) :=
  match s with
  | [] => some none
  | _ =>
    match s.dropWhile fun c => c == ' ' || c == '\t' with
    | ['Z'] => some (some 0)
    | sign :: rest =>
      if sign == '-' || sign == '+' then do
        let (hours, rest) ← oneOrTwo? rest
        let minutes ← match rest with
          | [] => some 0
          | ':' :: rest => match two? rest with
            | some (m, []) => some m
            | _ => none
          | _ => none
        let seconds : Int := hours * 3600 + minutes * 60
        return some (if sign == '-' then -seconds else seconds)
      else none
    | [] => none

/-- The first six digits of a fraction as microseconds. -/
def microseconds (digits : List Char) : Nat :=
  let shown := digits.take 6
  Text.natOfDigits 0 (shown ++ List.replicate (6 - shown.length) '0')

/-- The date or instant that a text is written like. Its numbers may still be out of range. -/
def momentOf? (s : List Char) : Option Moment := do
  let year := s.take 4
  if year.length != 4 || !year.all Char.isDigit then none
  let rest ← expect? '-' (s.drop 4)
  let (month, afterMonth) ← oneOrTwo? rest
  let rest ← expect? '-' afterMonth
  let (day, rest) ← oneOrTwo? rest
  let date : Date := ⟨Text.natOfDigits 0 year, month, day⟩
  if rest.isEmpty then
    -- a date alone has two digits for the month and two for the day
    if s.length == 10 then return .date date else none
  let afterGap ← match rest with
    | 'T' :: cs => some cs
    | 't' :: cs => some cs
    | c :: _ => if c == ' ' || c == '\t' then some (rest.dropWhile fun c => c == ' ' || c == '\t') else none
    | [] => none
  let (hour, rest) ← oneOrTwo? afterGap
  let (minute, rest) ← two? (← expect? ':' rest)
  let (second, rest) ← two? (← expect? ':' rest)
  let (fraction, rest) := match rest with
    | '.' :: cs => (cs.takeWhile Char.isDigit, cs.dropWhile Char.isDigit)
    | cs => ([], cs)
  let offset ← offset? rest
  return .dateTime date ⟨hour, minute, second, microseconds fraction⟩ offset

/-- The kind of a plain scalar. -/
def Kind.ofPlain (text : List Char) : Kind :=
  let word := String.ofList text
  if trueWords.contains word || falseWords.contains word then .bool
  else if isFloatText text then .float
  else if isIntText text then .int
  else if text == ['<', '<'] then .merge
  else if nullWords.contains word then .null
  else if (momentOf? text).isSome then .timestamp
  else if text == ['='] then .equals
  else .text

/-- The kind that a tag names. -/
def Kind.ofTag (tag : List Char) : Kind :=
  match String.ofList tag with
  | "tag:yaml.org,2002:null" => .null
  | "tag:yaml.org,2002:bool" => .bool
  | "tag:yaml.org,2002:int" => .int
  | "tag:yaml.org,2002:float" => .float
  | "tag:yaml.org,2002:timestamp" => .timestamp
  | "tag:yaml.org,2002:str" => .text
  | "tag:yaml.org,2002:merge" => .merge
  | "tag:yaml.org,2002:value" => .equals
  | "tag:yaml.org,2002:seq" => .sequence
  | "tag:yaml.org,2002:map" => .mapping
  | _ => .unknown

/-! ## Values -/

/-- The number that digits denote in a base of at most sixteen. -/
def natInBase (base : Nat) (digits : List Char) : Nat :=
  digits.foldl (fun n c => n * base + (Text.hexDigit? c).getD 0) 0

/-- A number of digits in a base; there must be a digit. -/
def inBase (base : Nat) (digits : List Char) : Except Fault Nat :=
  if digits.isEmpty then .error (.noDigits base) else .ok (natInBase base digits)

/-- A text of ASCII digits as a number, of which there may not be too many. -/
def decimal (digits : List Char) : Except Fault Int :=
  (Number.readWhole (String.ofList digits)).mapError .number

/-- The value of an integer: binary, octal, hexadecimal, decimal, or in base sixty. -/
def intValue (text : List Char) : Except Fault Int := do
  let s := text.filter (· != '_')
  let body := dropSign s
  let magnitude : Int ← match body with
    | ['0'] => pure 0
    | '0' :: 'b' :: digits => (inBase 2 digits).map Int.ofNat
    | '0' :: 'x' :: digits => (inBase 16 digits).map Int.ofNat
    | '0' :: digits => (inBase 8 digits).map Int.ofNat
    | _ => do
      let parts ← (Text.pieces ':' body).mapM decimal
      pure (parts.foldl (fun n d => n * 60 + d) 0)
  return if s.head? == some '-' then -magnitude else magnitude

/-- A part of a floating-point number as a number. -/
def floatPart (s : List Char) : Except Fault Binary64 :=
  (Number.readFloat (String.ofList s)).mapError .number

/-- The sum of parts, the last counting once, the one before it sixty times, and so on, added from the
last on. Each product and each sum is rounded, and so is the power of sixty, which must be in range. -/
def sexagesimal (base : Nat) (sum : Binary64) : List Binary64 → Except Fault Binary64
  | [] => .ok sum
  | x :: xs =>
    match Binary64.ofInt base with
    | .infinite _ => .error .overflow
    | weight => sexagesimal (base * 60) (sum.add (x.mul weight)) xs

/-- The value of a floating-point number: decimal, in base sixty, infinite or none. -/
def floatValue (text : List Char) : Except Fault Binary64 := do
  let s := (text.filter (· != '_')).map Char.toLower
  let body := dropSign s
  let magnitude ←
    if body == ".inf".toList then pure (.infinite false)
    else if body == ".nan".toList then pure .nan
    else if body.contains ':' then do
      let parts ← (Text.pieces ':' body).mapM floatPart
      sexagesimal 1 (.finite false 0 Binary64.leastExponent) parts.reverse
    else floatPart body
  return if s.head? == some '-' then magnitude.neg else magnitude

/-- A date or instant whose numbers are in range. -/
def momentValue (m : Moment) : Except CalendarFault Moment := do
  match m with
  | .date d => d.check
  | .time t => t.check
  | .dateTime d t offset =>
    match offset with
    | some seconds => checkOffset seconds
    | none => pure ()
    d.check
    t.check
  return m

/-- The value of a scalar of a kind. -/
def scalarValue (kind : Kind) (text : List Char) : Except Fault Scalar :=
  match kind with
  | .null => .ok .null
  | .bool =>
    let word := String.ofList text
    if trueWords.contains word then .ok (.bool true)
    else if falseWords.contains word then .ok (.bool false)
    else .error .malformed
  | .int => (intValue text).map .int
  | .float => (floatValue text).map .float
  | .timestamp =>
    match momentOf? text with
    | some m => ((momentValue m).mapError .calendar).map .moment
    | none => .error .malformed
  | .text => .ok (.text (String.ofList text))
  | _ => .error .malformed

end JmsNaming.Yaml
