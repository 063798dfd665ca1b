import JmsNaming.Number.Limit
import JmsNaming.Text.Character

/-
Why a text is no expression, and why an expression is no literal.
-/
namespace JmsNaming.Expression

/-- The notation of a number. -/
inductive Notation where
  | decimal
  | hexadecimal
  | octal
  | binary
  | imaginary
  deriving DecidableEq

def Notation.text : Notation → String
  | decimal => "decimal"
  | hexadecimal => "hexadecimal"
  | octal => "octal"
  | binary => "binary"
  | imaginary => "imaginary"

/-- What is wrong with an escape in a quoted text. -/
inductive EscapeFault where
  /-- Fewer digits than the escape `\x`, `\u` or `\U` needs. -/
  | short (letter : Char)
  /-- A number beyond the code points. -/
  | beyond
  /-- A name without its braces. -/
  | unnamed
  /-- A name that no character has. -/
  | unknownName
  deriving DecidableEq

def EscapeFault.message : EscapeFault → String
  | short letter => "truncated \\" ++ String.ofList (letter :: List.replicate
      (if letter = 'x' then 2 else if letter = 'u' then 4 else 8) 'X') ++ " escape"
  | beyond => "illegal Unicode character"
  | unnamed => "malformed \\N character escape"
  | unknownName => "unknown Unicode character name"

/-- What may hold another value but is put into a set or used as a key. -/
inductive Container where
  | set
  | dict
  deriving DecidableEq

def Container.text : Container → String
  | set => "set"
  | dict => "dict"

/-- What is wrong with a text that has expressions between braces. -/
inductive FormatFault where
  /-- An expression stands in the format of an expression in a format. -/
  | tooNested
  | backslash
  | comment
  | tooManyBrackets
  | unmatched (bracket : Char)
  | mismatched (bracket opening : Char)
  /-- A quoted text in an expression is not closed. -/
  | unclosedText
  /-- The brace of an expression is not closed. -/
  | unclosed
  /-- There is nothing between the braces. -/
  | empty
  /-- There is nothing before a mark that follows an expression. -/
  | nothingBefore (mark : Char)
  /-- The letter for the form of a value is none that is known. -/
  | badConversion
  | loneBrace
  deriving DecidableEq

/-- A character between single quotes. -/
def singleQuoted (c : Char) : String :=
  String.ofList ['\'', c, '\'']

def FormatFault.message : FormatFault → String
  | tooNested => "f-string: expressions nested too deeply"
  | backslash => "f-string expression part cannot include a backslash"
  | comment => "f-string expression part cannot include '#'"
  | tooManyBrackets => "f-string: too many nested parenthesis"
  | unmatched c => "f-string: unmatched " ++ singleQuoted c
  | mismatched c o => "f-string: closing parenthesis " ++ singleQuoted c ++
      " does not match opening parenthesis " ++ singleQuoted o
  | unclosedText => "f-string: unterminated string"
  | unclosed => "f-string: expecting '\x7d'"
  | empty => "f-string: empty expression not allowed"
  | nothingBefore c => "f-string: expression required before " ++ singleQuoted c
  | badConversion => "f-string: invalid conversion character: expected 's', 'r', or 'a'"
  | loneBrace => "f-string: single '\x7d' is not allowed"

/-- Why a text is no expression. -/
inductive SyntaxFault where
  | invalid
  /-- A line is indented. -/
  | indented
  /-- A bracket is still open at the end. -/
  | unclosed (bracket : Char)
  /-- The end comes after a line that is to be continued. -/
  | unexpectedEnd
  /-- A line is to be continued but does not end. -/
  | brokenContinuation
  | unmatched (bracket : Char)
  /-- A bracket closes one of another kind, which stands on the line if that is another one. -/
  | mismatched (bracket opening : Char) (line : Option Nat)
  | tooNested
  /-- A quoted text is not closed; the line is the last one looked at. -/
  | unclosedText (triple : Bool) (line : Nat)
  | strangeCharacter (c : Char)
  | badNumber (form : Notation)
  | badDigit (digit : Char) (form : Notation)
  | leadingZeros
  | longNumber (digits : Nat)
  | badEscape (first last : Nat) (fault : EscapeFault)
  | badByteEscape (position : Nat)
  | notAscii
  | mixedTexts
  | missingComma
  | missingElse
  /-- A word that once was a statement is followed by what it was applied to. -/
  | missingParentheses (word : String)
  | assignmentWith (kind : String)
  /-- An equals sign where only a comparison or a naming can stand. -/
  | equalsInPlace
  | assignmentHere (kind : String)
  | assignmentTo (kind : String)
  | assignmentInArgument
  | unpackingAfterKeywords
  | bareGenerator
  | positionalAfterKeyword (unpacked : Bool)
  | starredInComprehension
  | unparenthesizedTarget
  | doubleStarredInComprehension
  | starredHere
  | doubleStarredHere
  | starredValue
  | missingColon
  | missingValue
  | missingDefault
  | defaultOrder
  | parenthesizedParameters
  | nothingBeforeSlash
  | secondSlash
  | slashAfterStar
  | starAfterSlash
  | nothingAfterStar
  | starDefault
  | secondStar
  | doubleStarDefault
  | afterDoubleStar
  | format (fault : FormatFault)
  /-- An expression in a text has a fault, which its tokens have or not. -/
  | embedded (ofTokens : Bool) (fault : SyntaxFault)
  deriving DecidableEq

/-- The fault as one of an expression in a text, unless it is one already. -/
def SyntaxFault.embed (ofTokens : Bool) : SyntaxFault → SyntaxFault
  | embedded b fault => embedded b fault
  | fault => embedded ofTokens fault

def SyntaxFault.message : SyntaxFault → String
  | invalid => "invalid syntax"
  | indented => "unexpected indent"
  | unclosed c => singleQuoted c ++ " was never closed"
  | unexpectedEnd => "unexpected EOF while parsing"
  | brokenContinuation => "unexpected character after line continuation character"
  | unmatched c => "unmatched " ++ singleQuoted c
  | mismatched c o line => "closing parenthesis " ++ singleQuoted c ++ " does not match opening parenthesis " ++
      singleQuoted o ++ line.elim "" fun n => " on line " ++ toString n
  | tooNested => "too many nested parentheses"
  | unclosedText triple line => (if triple then "unterminated triple-quoted" else "unterminated") ++
      " string literal (detected at line " ++ toString line ++ ")"
  | strangeCharacter c =>
      let code := "U+" ++ String.ofList (Text.codeDigits c.toNat)
      if Text.isPrintable c then "invalid character " ++ singleQuoted c ++ " (" ++ code ++ ")"
      else "invalid non-printable character " ++ code
  | badNumber n => "invalid " ++ n.text ++ " literal"
  | badDigit d n => "invalid digit " ++ singleQuoted d ++ " in " ++ n.text ++ " literal"
  | leadingZeros => "leading zeros in decimal integer literals are not permitted; use an 0o prefix for octal integers"
  | longNumber n => "Exceeds the limit (" ++ toString Number.maxDigits ++ " digits) for integer string conversion: " ++
      "value has " ++ toString n ++ " digits; use sys.set_int_max_str_digits() to increase the limit - Consider " ++
      "hexadecimal for huge integer literals to avoid decimal conversion limits."
  | badEscape first last fault => "(unicode error) 'unicodeescape' codec can't decode bytes in position " ++
      toString first ++ "-" ++ toString last ++ ": " ++ fault.message
  | badByteEscape n => "(value error) invalid \\x escape at position " ++ toString n
  | notAscii => "bytes can only contain ASCII literal characters"
  | mixedTexts => "cannot mix bytes and nonbytes literals"
  | missingComma => "invalid syntax. Perhaps you forgot a comma?"
  | missingElse => "expected 'else' after 'if' expression"
  | missingParentheses w => "Missing parentheses in call to '" ++ w ++ "'. Did you mean " ++ w ++ "(...)?"
  | assignmentWith kind => "cannot use assignment expressions with " ++ kind
  | equalsInPlace => "invalid syntax. Maybe you meant '==' or ':=' instead of '='?"
  | assignmentHere kind => "cannot assign to " ++ kind ++ " here. Maybe you meant '==' instead of '='?"
  | assignmentTo kind => "cannot assign to " ++ kind
  | assignmentInArgument => "expression cannot contain assignment, perhaps you meant \"==\"?"
  | unpackingAfterKeywords => "iterable argument unpacking follows keyword argument unpacking"
  | bareGenerator => "Generator expression must be parenthesized"
  | positionalAfterKeyword unpacked =>
      "positional argument follows keyword argument" ++ if unpacked then " unpacking" else ""
  | starredInComprehension => "iterable unpacking cannot be used in comprehension"
  | unparenthesizedTarget => "did you forget parentheses around the comprehension target?"
  | doubleStarredInComprehension => "dict unpacking cannot be used in dict comprehension"
  | starredHere => "cannot use starred expression here"
  | doubleStarredHere => "cannot use double starred expression here"
  | starredValue => "cannot use a starred expression in a dictionary value"
  | missingColon => "':' expected after dictionary key"
  | missingValue => "expression expected after dictionary key and ':'"
  | missingDefault => "expected default value expression"
  | defaultOrder => "non-default argument follows default argument"
  | parenthesizedParameters => "Lambda expression parameters cannot be parenthesized"
  | nothingBeforeSlash => "at least one argument must precede /"
  | secondSlash => "/ may appear only once"
  | slashAfterStar => "/ must be ahead of *"
  | starAfterSlash => "expected comma between / and *"
  | nothingAfterStar => "named arguments must follow bare *"
  | starDefault => "var-positional argument cannot have default value"
  | secondStar => "* argument may appear only once"
  | doubleStarDefault => "var-keyword argument cannot have default value"
  | afterDoubleStar => "arguments cannot follow var-keyword argument"
  | format fault => fault.message
  | embedded ofTokens fault => (if ofTokens then "" else "f-string: ") ++ fault.message

/-- Why an expression is no literal. -/
inductive LiteralFault where
  /-- The text has a null character. -/
  | null
  /-- A part is no literal; it stands on the line. -/
  | noLiteral (line : Nat)
  /-- Entries are taken from another value, where only keys and values may stand. -/
  | unpacked
  /-- A set or a dictionary is in a set or is a key. -/
  | unhashable (container : Container)
  deriving DecidableEq

def LiteralFault.message : LiteralFault → String
  | null => "source code string cannot contain null bytes"
  | noLiteral line => "malformed node or string on line " ++ toString line
  | unpacked => "malformed node or string: None"
  | unhashable c => "unhashable type: '" ++ c.text ++ "'"

end JmsNaming.Expression
