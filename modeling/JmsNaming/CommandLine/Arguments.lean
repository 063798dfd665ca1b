import JmsNaming.Text.Cut
import JmsNaming.Text.Quoted
import JmsNaming.Text.Similarity

/-
The words after a command: options, which begin with a hyphen, and operands. A double hyphen ends the
options. An option that takes a value has it after an equals sign or as the next word.
-/
namespace JmsNaming.CommandLine

/-- An option, with the name of its value if it takes one. -/
structure Switch where
  name : String
  value : Option String := none
  help : String

/-- What is wrong with the words of a command. -/
inductive UsageFault where
  /-- There is no such option; some have names like it. -/
  | unknownOption (name : String) (similar : List String)
  | missingValue (option : String)
  | unwantedValue (option : String)
  | missingOperand (name : String)
  | noFile (operand path : String)
  | directory (operand path : String)
  /-- The operand has a character that no path may have. -/
  | nullInPath
  | extraOperands (words : List String)
  /-- There is no such command; some have names like it. -/
  | unknownCommand (name : String) (similar : List String)
  | missingCommand
  /-- There are no words at all. -/
  | nothing

namespace UsageFault

/-- A text in quotes. -/
def quote (s : String) : String :=
  String.ofList (Text.quoted s.toList)

/-- The question that follows an unknown name where others are like it. -/
def question : List String → String
  | [] => ""
  | [other] => " Did you mean " ++ quote other ++ "?"
  | others => " (Did you mean one of: " ++ String.intercalate ", " (others.map quote) ++ "?)"

def message : UsageFault → String
  | unknownOption name similar => "No such option " ++ quote name ++ "." ++ question similar
  | missingValue option => "Option " ++ quote option ++ " requires an argument."
  | unwantedValue option => "Option " ++ quote option ++ " does not take a value."
  | missingOperand name => "Missing argument '" ++ name ++ "'."
  | noFile operand path => "Invalid value for '" ++ operand ++ "': File " ++ quote path ++ " does not exist."
  | directory operand path => "Invalid value for '" ++ operand ++ "': File " ++ quote path ++ " is a directory."
  | extraOperands words =>
    "Got unexpected extra argument" ++ (if words.length = 1 then "" else "s") ++ " (" ++
      String.intercalate " " words ++ ")"
  | unknownCommand name similar => "No such command " ++ quote name ++ "." ++ question similar
  | nullInPath => "embedded null byte"
  | missingCommand => "Missing command."
  | nothing => ""

/-- The message stands alone, without the usage before it. -/
def isBare : UsageFault → Bool
  | missingValue _ | unwantedValue _ => true
  | _ => false

end UsageFault

/-! ## Reading words -/

/-- The names that are like a word, in order. -/
def similarNames (word : String) (names : List String) : List String :=
  (names.filter fun n => Text.isSimilar n.toList word.toList).mergeSort fun a b => !decide (b < a)

/-- The options and the operands among some words, each in order. -/
structure Arguments where
  options : List (String × String) := []
  operands : List String := []

namespace Arguments

/-- An option is given. -/
def has (a : Arguments) (name : String) : Bool :=
  a.options.any (·.1 == name)

/-- The values of an option, in order. -/
def values (a : Arguments) (name : String) : List String :=
  (a.options.filter (·.1 == name)).map (·.2)

def addOption (name value : String) (a : Arguments) : Arguments :=
  { a with options := (name, value) :: a.options }

def addOperand (word : String) (a : Arguments) : Arguments :=
  { a with operands := word :: a.operands }

/-- The name and the value of an option in one word. -/
def splitOption (word : String) : String × Option String :=
  match Text.cut? '=' word.toList with
  | some (name, value) => (String.ofList name, some (String.ofList value))
  | none => (word, none)

/-- The fault of a word that is no known option: two hyphens name a whole word, one a letter. -/
def unknown (switches : List Switch) (word : String) : UsageFault :=
  match word.toList with
  | '-' :: '-' :: _ =>
    let name := (splitOption word).1
    .unknownOption name (similarNames name (switches.map (·.name)))
  | letters => .unknownOption (String.ofList (letters.take 2)) []

/-- The word is written like an option. -/
def isOption (word : String) : Bool :=
  word.startsWith "-" && word != "-"

/-- Reads words. Unless options may follow operands, the first operand ends them. -/
def read (switches : List Switch) (mixed : Bool) : List String → Except UsageFault Arguments
  | [] => .ok {}
  | word :: rest =>
    if word = "--" then .ok { operands := rest }
    else if isOption word then
      let (name, given) := splitOption word
      match switches.find? (·.name == name) with
      | none => .error (unknown switches word)
      | some switch =>
        match switch.value, given, rest with
        | some _, some value, rest => (read switches mixed rest).map (addOption name value)
        | some _, none, value :: rest => (read switches mixed rest).map (addOption name value)
        | some _, none, [] => .error (.missingValue name)
        | none, some _, _ => .error (.unwantedValue name)
        | none, none, rest => (read switches mixed rest).map (addOption name "")
    else if mixed then (read switches mixed rest).map (addOperand word)
    else .ok { operands := word :: rest }

end Arguments

end JmsNaming.CommandLine
