import JmsNaming.CommandLine.Help
import JmsNaming.Json.Write
import JmsNaming.Log.Setup
import JmsNaming.Naming.Summary
import JmsNaming.Terminal.Table

/-
What the program does with its words: the exit code and all that it writes.
-/
namespace JmsNaming.CommandLine

/-- An error that no command expects; it ends the program. -/
inductive Escape where
  | load (fault : LoadFault)
  | logging (fault : Log.Fault)
  | binding (fault : Schema.Fault)
  /-- The resources are no table. -/
  | noTable (value : Value)
  /-- A resource has a name that is no text. -/
  | noText (name : Scalar)
  | markup (fault : Terminal.MarkupFault)
  /-- A value that is shown has no text. -/
  | unwritable (fault : Number.Unwritable)
  /-- A path has a character that no path may have. -/
  | nullInPath
  | resolution (failure : Failure)

def Escape.message : Escape → String
  | load fault => fault.message
  | logging fault => fault.message
  | binding fault => fault.message
  | noTable v => v.missingAttribute "items"
  | noText name => "expected string or bytes-like object, got '" ++ (Value.scalar name).kindName ++ "'"
  | markup fault => fault.message
  | unwritable fault => fault.message
  | nullInPath => UsageFault.nullInPath.message
  | resolution (.unwritable fault) => fault.message
  | resolution (.naming e) => e.report.message
  | resolution (.client e) => e.message
  | resolution (.destination fault) => fault.message

/-- What a run leaves behind. -/
structure Output where
  exitCode : Nat := 0
  stdout : String := ""
  stderr : String := ""
  escaped : Option Escape := none

namespace Output

/-- The run ends with an unexpected error. -/
def escape (o : Output) (e : Escape) : Output :=
  { o with exitCode := 1, escaped := some e }

/-- The run ends with a message. -/
def fail (o : Output) (markup : String) : Output :=
  match Terminal.print markup with
  | .ok text => { o with exitCode := 1, stderr := o.stderr ++ text }
  | .error fault => o.escape (.markup fault)

/-- The run goes on with more output, if the markup for it is sound. -/
def write (o : Output) (text : Except Terminal.MarkupFault String) : Output :=
  match text with
  | .ok text => { o with stdout := o.stdout ++ text }
  | .error fault => o.escape (.markup fault)

end Output

/-- A text as markup that shows it. -/
def escaped (s : String) : String :=
  String.ofList (Terminal.escape s.toList)

/-! ## Classes -/

/-- What a resource of a class is, for a class name that may be one of several. -/
def classKind (className : String) : String :=
  if ClassName.connectionFactories.contains className then ObjectKind.connectionFactory.text
  else if className = ClassName.adminDestination then "queue or topic (isQueue)"
  else if className = ClassName.topic then ObjectKind.topic.text
  else ObjectKind.queue.text

def classesTable : Terminal.Table :=
  { title := "Supported classes"
    header := some ("Class name", "Builds")
    rows := ClassName.supported.map fun c => (c, classKind c) }

/-! ## Resources -/

/-- The key of the section with the resources. -/
def resourcesKey : String := "rmqjms.naming.resources"

/-- The class name that a resource shows. -/
def shownClass : Value → Except Number.Unwritable String
  | .map t => ((Table.get? t "className").getD (.text "")).toText
  | _ => .ok "(not a mapping)"

/-- The row of a resource, whose name must be a text. The class is looked at first. -/
def resourceRow (name : Scalar) (v : Value) : Except Escape (String × String) := do
  let shown ← (shownClass v).mapError .unwritable
  match name with
  | .text name => return (escaped name, escaped shown)
  | name => throw (.noText name)

/-- The rows of the resources, up to the first that has none. -/
def resourceRows (t : Table) : Except Escape (List (String × String)) :=
  t.mapM fun e => resourceRow e.1 e.2

/-- Lists the sources of the settings and the resources in them. -/
def listResources (s : Settings) : Output :=
  let loaded := s.sources.foldl (fun (o : Output) source =>
    o.write (Terminal.print ("[dim]Loaded " ++ escaped source ++ "[/dim]"))) {}
  match Schema.naming.bind s with
  | .error fault => loaded.escape (.binding fault)
  | .ok fields =>
    let resources := (fields.lookup "resources").getD .null
    if resources.isEmpty then loaded.write (Terminal.print "[warning]No resources defined.[/warning]")
    else match resources with
      | .map t =>
        match resourceRows t with
        | .error e => loaded.escape e
        | .ok rows =>
          loaded.write (Terminal.Table.print { title := "Resources", header := some ("Name", "Class name"), rows })
      | v => loaded.escape (.noTable v)

/-! ## Resolution -/

/-- The fields of a resolved object as JSON, by name. -/
def summaryJson (r : Resource) : String :=
  let fields := r.summary.mergeSort fun a b => !decide (b.1 < a.1)
  String.ofList (Json.write (.indented 0) (.map (fields.map fun f => (.text f.1, f.2)))) ++ "\n"

/-- The fields of a resolved object as a table under the name of the resource. -/
def summaryTable (name : String) (r : Resource) : Terminal.Table :=
  { title := name, rows := r.summary.map fun f => (f.1, escaped f.2.plain) }

/-- The logger of resolutions. -/
def resolutionLogger : Log.LoggerName :=
  .ofText "rmqjms.naming.object_factory"

/-- What is written about a resolution that fails. -/
def namingMarkup (e : NamingError) : String :=
  "[error]" ++ e.report.code.getD "None" ++ ":[/error] " ++ escaped e.report.message

/-- Resolves a resource of the settings and shows it. -/
def resolveResource (setup : Log.Setup) (s : Settings) (vars : Variables) (name : String) (json : Bool) : Output :=
  match s.resolveSection vars resourcesKey with
  | .error fault => Output.fail {} ("[error]Invalid configuration:[/error] " ++ escaped fault.message)
  | .ok resources =>
    match Table.get? resources name with
    | none => Output.fail {} ("[error]Unknown resource:[/error] " ++ escaped name)
    | some (.map environment) =>
      let resolved := resolve .working (.other .null) (some name) (some environment)
      let o : Output := { stderr := setup.logAll resolutionLogger resolved.events }
      match resolved.outcome with
      | .ok r => if json then o.write (.ok (summaryJson r)) else o.write (summaryTable name r).print
      | .error (.naming e) => o.fail (namingMarkup e)
      | .error failure => o.escape (.resolution failure)
    | some _ => Output.fail {} ("[error]Resource " ++ escaped name ++ " is not a mapping of properties[/error]")

/-! ## Runs -/

/-- Loads the settings, puts their logging section into force, and goes on with both. -/
def withSettings (files : Files) (vars : Variables) (file : String) (profiles : List String)
    (next : Log.Setup → Settings → Output) : Output :=
  match Settings.load files file profiles with
  | .error fault => Output.escape {} (.load fault)
  | .ok s =>
    match ({} : Log.Setup).configure s vars with
    | (.error fault, _) => Output.escape {} (.logging fault)
    | (.ok _, setup) => next setup s

/-- Does what is asked. -/
def Request.run (files : Files) (vars : Variables) : Request → Output
  | .help none => { stdout := banner ++ helpText none }
  | .help command => { stdout := helpText command }
  | .version => { stdout := versionText }
  | .classes => Output.write {} classesTable.print
  | .resources file profiles => withSettings files vars file profiles fun _ s => listResources s
  | .resolve file name profiles json =>
    withSettings files vars file profiles fun setup s => resolveResource setup s vars name json

/-- What is written where the words ask for nothing that can be done. -/
def UsageError.output (e : UsageError) : Output :=
  match e.fault with
  | .nothing => { exitCode := 2, stdout := banner, stderr := helpText none }
  | .nullInPath => Output.escape {} .nullInPath
  | _ => { exitCode := 2, stderr := usageText e }

/-- Runs the program on its words, in a directory with some files and under some variables. -/
def run (files : Files) (vars : Variables) (words : List String) : Output :=
  match Request.read files words with
  | .ok request => request.run files vars
  | .error e => e.output

end JmsNaming.CommandLine
