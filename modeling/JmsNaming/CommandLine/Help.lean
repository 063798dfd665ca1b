import JmsNaming.CommandLine.Request

/-
The texts that tell how the program is used.
-/
namespace JmsNaming.CommandLine

/-- The name under which the program shows itself. -/
def programName : String := "cli"

def version : String := "0.1.0"

/-- The line that names the program, and an empty one. -/
def banner : String :=
  "rmqjms :: RabbitMQ JMS object factory :: (v" ++ version ++ ")\n\n"

def versionText : String :=
  programName ++ ", version " ++ version ++ "\n"

/-- The words that call a command, or the program itself. -/
def callText (command : Option Command) : String :=
  match command with
  | none => programName
  | some c => programName ++ " " ++ c.name

/-- The line that tells which words a command takes. -/
def usageLine (command : Option Command) : String :=
  let words := match command with
    | none => ["[OPTIONS]", "COMMAND", "[ARGS]..."]
    | some c => "[OPTIONS]" :: c.operands
  "Usage: " ++ String.intercalate " " (callText command :: words) ++ "\n"

/-- Terms with what they mean, in two columns under a heading. -/
def definitions (heading : String) (terms : List (String × String)) : String :=
  let widest := (terms.map (·.1.length)).foldl max 0
  heading ++ ":\n" ++ String.join (terms.map fun t =>
    "  " ++ t.1 ++ String.ofList (List.replicate (widest + 2 - t.1.length) ' ') ++ t.2 ++ "\n")

/-- An option with its value. -/
def switchText (s : Switch) : String :=
  match s.value with
  | some value => s.name ++ " " ++ value
  | none => s.name

/-- The help of a command, or of the program with its commands. -/
def helpText (command : Option Command) : String :=
  let options (switches : List Switch) : String :=
    definitions "Options" (switches.map fun s => (switchText s, s.help))
  let start (text : String) : String := usageLine command ++ "\n  " ++ text ++ "\n\n"
  match command with
  | some c => start c.help ++ options c.switches
  | none =>
    start "rmqjms — RabbitMQ JMS object factory CLI." ++ options programSwitches ++ "\n" ++
      definitions "Commands" (Command.all.map fun c => (c.name, c.shortHelp))

/-- The character that begins a control sequence of a terminal. -/
def escapeChar : Char := Char.ofNat 0x1b

/-- What is written of the text after an escape: without the control sequence, if it completes one. -/
def afterEscape (s : List Char) : List Char :=
  match s with
  | '[' :: body =>
    match body.dropWhile fun c => c.isDigit || c = ';' || c = '?' with
    | c :: rest => if c.isAlpha then rest else escapeChar :: s
    | [] => escapeChar :: s
  | s => escapeChar :: s

/-- The text without control sequences. -/
def withoutSequences (s : String) : String :=
  match Text.pieces escapeChar s.toList with
  | [] => ""
  | start :: rest => String.ofList (start ++ rest.flatMap afterEscape)

/-- What is written about a usage fault. -/
def usageText (e : UsageError) : String :=
  let start :=
    if e.fault.isBare then ""
    else usageLine e.command ++ "Try '" ++ callText e.command ++ " --help' for help.\n\n"
  start ++ "Error: " ++ withoutSequences e.fault.message ++ "\n"

end JmsNaming.CommandLine
