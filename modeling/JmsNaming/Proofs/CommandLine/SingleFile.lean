import JmsNaming.CommandLine.Run
import JmsNaming.Proofs.Outcome

/-
Runs on a single file: the words that ask for a resource are a request for it, and the settings are the tree of the file.
-/
namespace JmsNaming.CommandLine

/-! ## Words -/

section Words

variable {files : Files} {file name : String}

/-- A word that is not written like an option is an operand. -/
theorem Arguments.read_operand {switches : List Switch} {word : String} (h : isOption word = false)
    (rest : List String) : read switches true (word :: rest) = (read switches true rest).map (addOperand word) := by
  have hne : word ≠ "--" := by
    rintro rfl
    exact absurd h (by simp [isOption])
  rw [read, if_neg hne, if_neg (by simp [h]), if_pos rfl]

/-- The words that ask for a resource, as JSON or as a table. -/
theorem read_resolve (json : Bool) (hfile : checkFile files file = .ok ()) (hf : Arguments.isOption file = false)
    (hn : Arguments.isOption name = false) :
    Request.read files ("resolve" :: file :: name :: if json then ["--json"] else []) =
      .ok (.resolve file name [] json) := by
  have hsplit : Arguments.splitOption "--json" = ("--json", none) := by decide
  have hswitch : Command.resolve.switches.find? (·.name == "--json") = some jsonSwitch := by rfl
  have hoption : Arguments.isOption "--json" = true := by simp [Arguments.isOption]
  have hform : Arguments.read Command.resolve.switches true (if json then ["--json"] else []) =
      .ok { options := if json then [("--json", "")] else [] } := by
    cases json with
    | false => rfl
    | true =>
      rw [if_pos rfl, Arguments.read, if_neg (by simp), if_pos hoption, hsplit]
      dsimp only
      rw [hswitch]
      rfl
  have hcommand : Arguments.read Command.resolve.switches true (file :: name :: if json then ["--json"] else []) =
      .ok { options := if json then [("--json", "")] else [], operands := [file, name] } := by
    rw [Arguments.read_operand hf, Arguments.read_operand hn, hform]
    rfl
  have hname : Command.ofName? "resolve" = some .resolve := by decide
  have hof : Request.ofCommand files .resolve (file :: name :: if json then ["--json"] else []) =
      .ok (.resolve file name [] json) := by
    rw [Request.ofCommand, hcommand, ok_bind]
    cases json <;> simp [Request.takeFile, hfile, Request.takeName, Request.noMore, Except.map, Arguments.has,
      Arguments.values, helpSwitch, jsonSwitch, profileSwitch]
  have hprogram : Arguments.read programSwitches false ("resolve" :: file :: name :: if json then ["--json"] else []) =
      .ok { operands := "resolve" :: file :: name :: if json then ["--json"] else [] } := by
    simp [Arguments.read, Arguments.isOption]
  simp [Request.read, hprogram, Request.ofOptions?, hname, hof]

theorem read_resolve_json (hfile : checkFile files file = .ok ()) (hf : Arguments.isOption file = false)
    (hn : Arguments.isOption name = false) :
    Request.read files ["resolve", file, name, "--json"] = .ok (.resolve file name [] true) :=
  read_resolve true hfile hf hn

/-- The words that ask for the list of the resources. -/
theorem read_resources (hfile : checkFile files file = .ok ()) (hf : Arguments.isOption file = false) :
    Request.read files ["resources", file] = .ok (.resources file []) := by
  have hprogram : Arguments.read programSwitches false ["resources", file] = .ok { operands := ["resources", file] } := by
    simp [Arguments.read, Arguments.isOption]
  have hcommand : Arguments.read Command.resources.switches true [file] = .ok { operands := [file] } := by
    rw [Arguments.read_operand hf]
    rfl
  have hname : Command.ofName? "resources" = some .resources := by decide
  have hof : Request.ofCommand files .resources [file] = .ok (.resources file []) := by
    simp [Request.ofCommand, hcommand, Request.takeFile, hfile, Request.noMore, Except.map, Arguments.has,
      Arguments.values]
  simp [Request.read, hprogram, Request.ofOptions?, hname, hof]

end Words

/-! ## The file -/

theorem find?_single (text : String) : Files.find? [("c.toml", some text)] ["c.toml"] = .ok (some (some text)) := by
  have hpath : FilePath.text ["c.toml"] = "c.toml" := by decide
  have hnull : "c.toml".contains (Char.ofNat 0) = false := by simp
  have hname : FilePath.ofText "c.toml" = ["c.toml"] := by decide
  have hsize : "c.toml".utf8ByteSize = 6 := by decide
  simp [Files.find?, Files.locate, Files.isDirectory, Files.maxPathBytes, Files.maxNameBytes, hpath, hnull, hname,
    hsize, Except.map]

theorem checkFile_single (text : String) : checkFile [("c.toml", some text)] "c.toml" = .ok () := by
  have hnull : "c.toml".contains (Char.ofNat 0) = false := by simp
  have hname : FilePath.ofText "c.toml" = ["c.toml"] := by decide
  have hstart : "c.toml".startsWith "/" = false := by simp
  have hdirectory :
      ["", ".", ".."].contains (String.ofList ((Text.pieces '/' "c.toml".toList).getLastD [])) = false := by
    decide
  simp only [checkFile, hnull, hname, hstart, find?_single, hdirectory]
  simp

/-- The settings of a single file are its tree. -/
theorem load_single {text : String} {base : Table} (h : (loadTree ["c.toml"] (some text)).toOption = some base) :
    Settings.load [("c.toml", some text)] "c.toml" [] =
      .ok { root := .map (Tree.merge [] base), sources := ["c.toml"] } := by
  have hname : FilePath.ofText "c.toml" = ["c.toml"] := by decide
  have hshown : FilePath.text ["c.toml"] = "c.toml" := by decide
  simp only [Settings.load, hname, find?_single, eq_ok_of_toOption h, Settings.addProfiles, Except.map, hshown]

/-- A logging section that is in order gives a plan. -/
theorem exists_configure {s : Settings} {vars : Variables}
    (h : (({} : Log.Setup).configure s vars).1.isOk = true) :
    ∃ plan setup, ({} : Log.Setup).configure s vars = (.ok plan, setup) := by
  cases hplan : ({} : Log.Setup).configure s vars with
  | mk outcome setup =>
    rw [hplan] at h
    cases outcome with
    | error fault => cases h
    | ok plan => exact ⟨plan, setup, rfl⟩

end JmsNaming.CommandLine
