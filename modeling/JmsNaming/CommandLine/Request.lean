import JmsNaming.CommandLine.Arguments
import JmsNaming.Settings.Files

/-
The commands of the program, and what a list of words asks of it.
-/
namespace JmsNaming.CommandLine

/-! ## Commands -/

inductive Command where
  | classes
  | resolve
  | resources
  deriving DecidableEq

/-- The option that asks for help. -/
def helpSwitch : Switch :=
  { name := "--help", help := "Show this message and exit." }

def profileSwitch : Switch :=
  { name := "--profile", value := some "TEXT", help := "Profile overlay to merge on top of CONFIG_FILE." }

def jsonSwitch : Switch :=
  { name := "--json", help := "Print the resolved fields as JSON." }

def versionSwitch : Switch :=
  { name := "--version", help := "Show the version and exit." }

/-- The options of the program itself. -/
def programSwitches : List Switch :=
  [versionSwitch, helpSwitch]

namespace Command

/-- The commands by name. -/
def all : List Command :=
  [classes, resolve, resources]

def name : Command → String
  | classes => "classes"
  | resolve => "resolve"
  | resources => "resources"

def ofName? (s : String) : Option Command :=
  all.find? (·.name == s)

def help : Command → String
  | classes => "List the class names a resource may declare."
  | resolve => "Resolve resource NAME from CONFIG_FILE and print its configuration."
  | resources => "List the resources defined under rmqjms.naming.resources."

/-- The help in the list of commands, cut where it is long. -/
def shortHelp : Command → String
  | resolve => "Resolve resource NAME from CONFIG_FILE and print its..."
  | c => c.help

def switches : Command → List Switch
  | classes => [helpSwitch]
  | resolve => [profileSwitch, jsonSwitch, helpSwitch]
  | resources => [profileSwitch, helpSwitch]

/-- The operand for the file with the settings. -/
def fileOperand : String := "CONFIG_FILE"

/-- The operand for the name of a resource. -/
def nameOperand : String := "NAME"

def operands : Command → List String
  | classes => []
  | resolve => [fileOperand, nameOperand]
  | resources => [fileOperand]

end Command

/-! ## Requests -/

/-- What is asked of the program. -/
inductive Request where
  | help (command : Option Command)
  | version
  | classes
  | resources (file : String) (profiles : List String)
  | resolve (file name : String) (profiles : List String) (json : Bool)

/-- A usage fault, in the words of a command or before one. -/
structure UsageError where
  command : Option Command
  fault : UsageFault

/-- The operand is the path of a file. -/
def checkFile (files : Files) (path : String) : Except UsageFault Unit :=
  let asDirectory := ["", ".", ".."].contains ((Text.pieces '/' path.toList).getLastD [] |> String.ofList)
  if path.contains (Char.ofNat 0) then .error .nullInPath
  else if path = "" || path.startsWith "/" then .error (.noFile Command.fileOperand path)
  else match files.find? (.ofText path) with
  | .ok (some (some _)) => if asDirectory then .error (.noFile Command.fileOperand path) else .ok ()
  | .ok (some none) => .error (.directory Command.fileOperand path)
  | _ => .error (.noFile Command.fileOperand path)

namespace Request

/-- Operands that no command wants. -/
def noMore : List String → Except UsageFault Unit
  | [] => .ok ()
  | words => .error (.extraOperands words)

/-- The file among the operands, and the operands after it. -/
def takeFile (files : Files) : List String → Except UsageFault (String × List String)
  | [] => .error (.missingOperand Command.fileOperand)
  | path :: rest => (checkFile files path).map fun _ => (path, rest)

/-- The name among the operands, and the operands after it. -/
def takeName : List String → Except UsageFault (String × List String)
  | [] => .error (.missingOperand Command.nameOperand)
  | name :: rest => .ok (name, rest)

/-- What the words after the name of a command ask. -/
def ofCommand (files : Files) (command : Command) (words : List String) : Except UsageFault Request := do
  let args ← Arguments.read command.switches true words
  if args.has helpSwitch.name then return .help (some command)
  let profiles := args.values profileSwitch.name
  match command with
  | .classes =>
    noMore args.operands
    return .classes
  | .resources =>
    let (file, rest) ← takeFile files args.operands
    noMore rest
    return .resources file profiles
  | .resolve =>
    let (file, rest) ← takeFile files args.operands
    let (name, rest) ← takeName rest
    noMore rest
    return .resolve file name profiles (args.has jsonSwitch.name)

/-- What the options before a command ask by themselves; the first one counts. -/
def ofOptions? (args : Arguments) : Option Request :=
  match args.options with
  | [] => none
  | (name, _) :: _ => if name = versionSwitch.name then some .version else some (.help none)

/-- What the words ask. A word that is no command may still be read as an option. -/
def read (files : Files) (words : List String) : Except UsageError Request :=
  let inProgram {α : Type} (x : Except UsageFault α) : Except UsageError α := x.mapError (⟨none, ·⟩)
  if words.isEmpty then .error ⟨none, .nothing⟩
  else do
    let args ← inProgram (Arguments.read programSwitches false words)
    match ofOptions? args, args.operands with
    | some request, _ => return request
    | none, [] => throw ⟨none, .missingCommand⟩
    | none, word :: rest =>
      match Command.ofName? word with
      | some command => (ofCommand files command rest).mapError (⟨some command, ·⟩)
      | none =>
        let again ← inProgram (Arguments.read programSwitches false (word :: rest))
        match ofOptions? again with
        | some request => return request
        | none => throw ⟨none, .unknownCommand word (similarNames word (Command.all.map (·.name)))⟩

end Request

end JmsNaming.CommandLine
