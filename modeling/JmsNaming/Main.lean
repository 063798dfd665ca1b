import JmsNaming.CommandLine.Run

/-
The program: reads the files that its words name, runs, and writes what the run leaves behind.
-/
namespace JmsNaming.CommandLine

/-- What is at a path: a text, a directory, or nothing. -/
def readPath (path : String) : IO (Option (String × Option String)) := do
  try
    return some (path, some (← IO.FS.readFile path))
  catch
    | .noFileOrDirectory .. => return none
    | _ => return some (path, none)

/-- The paths that words may lead to: each word, and each word as an overlay of another. -/
def candidatePaths (words : List String) : List String :=
  words ++ words.flatMap fun file => words.map fun profile => ((FilePath.ofText file).overlay profile).text

/-- The variables of the process. -/
def readVariables : IO Variables := do
  let text ← try IO.FS.readFile "/proc/self/environ" catch _ => pure ""
  return (Text.pieces (Char.ofNat 0) text.toList).filterMap fun entry =>
    (Text.cut? '=' entry).map fun p => (String.ofList p.1, String.ofList p.2)

/-- Runs on words in the working directory and returns the exit code. -/
def runProgram (words : List String) : IO UInt32 := do
  let files ← (candidatePaths words).filterMapM readPath
  let o := run files (← readVariables) words
  IO.print o.stdout
  IO.eprint o.stderr
  if let some e := o.escaped then IO.eprintln e.message
  return UInt32.ofNat o.exitCode

end JmsNaming.CommandLine

def main (words : List String) : IO UInt32 :=
  JmsNaming.CommandLine.runProgram words
