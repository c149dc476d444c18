import CalcBench.CommandLine.Outcome

/-!
# CalcBench.Main — the command line

The tool is chosen by the name under which the program is called: `cgev` writes answers, and any
other name checks.
-/

namespace CalcBench.Main

open CommandLine

/-- Runs an action on a file and keeps its error as a value. -/
def attempt {α : Type} (action : IO α) : IO (Except FileError α) := do
  try
    return .ok (← action)
  catch e =>
    match e with
    | .noFileOrDirectory _ _ _ => return .error .notFound
    | .invalidArgument _ 36 _ => return .error .nameTooLong
    | .inappropriateType _ code details =>
      return .error (if code = 21 then .isDirectory else if code = 20 then .notADirectory
        else .other details)
    | e => return .error (.other (toString e))

def readText (path : String) : IO (Except FileError String) := do
  return (← attempt (IO.FS.readBinFile path)).bind FileError.decode

/-- Prints what a tool has to print and gives its exit status. -/
def finish (o : Outcome) : IO UInt32 := do
  IO.print o.stdout
  IO.eprint o.stderr
  return o.exit.toUInt32

def check (s : Settings) : IO UInt32 := do
  let input ← readText s.input
  let trace ←
    match s.file with
    | some path => readText path
    | none => pure (.error .notFound)
  finish (Check.outcome s input trace)

def answer (s : Settings) : IO UInt32 := do
  let input ← readText s.input
  match Answer.answers s input with
  | .error _ => finish (Answer.outcome s input (.ok ()))
  | .ok text =>
    let written ← attempt (IO.FS.writeFile (Answer.outputPath s) text)
    finish (Answer.outcome s input written)

end CalcBench.Main

open CalcBench CommandLine in
def main (arguments : List String) : IO UInt32 := do
  let tool : Tool := if (← IO.appPath).fileName == some "cgev" then .answer else .check
  match tool.settings arguments with
  | .error stop => Main.finish (.ofStop tool stop)
  | .ok s =>
    match tool with
    | .check => Main.check s
    | .answer => Main.answer s
