import CalcBench.CommandLine.Disk
import CalcBench.CommandLine.Request
import CalcBench.CommandLine.Tool
import CalcBench.Device.Model
import CalcBench.Device.Replay
import CalcBench.Log
import CalcBench.Testbench

/-!
# CalcBench.CommandLine.Outcome — what the tools print, how they end, and what they write

The tools are functions of their settings and of what the files hold.  The checker prints nothing
before its run is complete; it succeeds if no case fails.  The answer writer succeeds if the
answers could be written.
-/

namespace CalcBench.CommandLine

/-- The end of a program: its exit status and all that it printed. -/
structure Outcome where
  exit : Nat
  stdout : String
  stderr : String
  deriving DecidableEq

namespace Outcome

/-- The end of a tool that did not start its work. -/
def ofStop (tool : Tool) : Stop → Outcome
  | .help long => ⟨0, tool.helpText long, ""⟩
  | .version => ⟨0, versionText, ""⟩
  | .nothingGiven => ⟨2, "", tool.helpText false⟩
  | .usage e => ⟨2, "", "error: " ++ e.message tool ++ "\n"⟩

/-- The end of a tool that failed after it logged `log`. -/
def ofFailure (stdout log : String) (f : Failure) : Outcome := ⟨1, stdout, log ++ f.report⟩

end Outcome

def Settings.log (s : Settings) (events : List Log.Event) : String :=
  Log.Logger.console ⟨s.threshold, .console⟩ events

namespace Check

/-- The run of the cases of a file on the replay of a trace, or else on the model. -/
def run (w : Width) (replay : Option Replay) (source : String) :
    Except DeviceError Summary × List Log.Event :=
  match replay with
  | some r =>
    let x := Testbench.run ⟨w⟩ Replay.device r source
    (x.outcome, x.events)
  | none =>
    let x := Testbench.run ⟨w⟩ Model.device { width := w } source
    (x.outcome, x.events)

/-- What the checker prints on a complete run. -/
def stdout (summary : Summary) : String :=
  String.join (summary.cases.map (·.text ++ "\n")) ++ summary.text ++ "\n"

def casesFailed (summary : Summary) : Failure :=
  ⟨Nat.repr summary.failed ++ " of " ++ Nat.repr summary.cases.length ++ " cases failed", []⟩

/-- The replay that the settings ask for, where the trace was read with the outcome `trace`. -/
def replay (s : Settings) (trace : Except FileError String) : Except Failure (Option Replay) :=
  match s.file with
  | none => .ok none
  | some path => (Replay.ofFile path trace).map some

/-- The end of the checker, where its files were read with the outcomes `input` and `trace`. -/
def outcome (s : Settings) (input trace : Except FileError String) : Outcome :=
  match input with
  | .error e => .ofFailure "" "" (e.failure "read file" s.input)
  | .ok source =>
    match replay s trace with
    | .error f => .ofFailure "" "" f
    | .ok device =>
      let (result, events) := run s.width device source
      let log := s.log (.checking s.input s.width :: events)
      match result with
      | .error e => .ofFailure "" log ⟨e.message, []⟩
      | .ok summary =>
        if summary.isSuccess then ⟨0, stdout summary, log⟩
        else .ofFailure (stdout summary) log (casesFailed summary)

end Check

namespace Answer

/-- The file for the answers: the one asked for, or else the input with another extension. -/
def outputPath (s : Settings) : String :=
  match s.file with
  | some path => path
  | none => Path.withExtension s.input "golden"

/-- The text to write, if the input could be read. -/
def answers (s : Settings) (input : Except FileError String) : Except FileError String :=
  input.map (AnswerFile.text s.width)

/-- The end of the answer writer, where the input was read with the outcome `input` and the answers
were written with the outcome `written`. -/
def outcome (s : Settings) (input : Except FileError String) (written : Except FileError Unit) :
    Outcome :=
  match input with
  | .error e => .ofFailure "" "" (e.failure "read file" s.input)
  | .ok source =>
    let log := s.log (AnswerFile.events source)
    match written with
    | .error e => .ofFailure "" log (e.failure "write file" (outputPath s))
    | .ok () => ⟨0, "writing to file `" ++ outputPath s ++ "`\n", log⟩

end Answer

/-! ### Tools at work on a disk -/

/-- The end of the checker on a disk, which it leaves as it is. -/
def Check.onDisk (s : Settings) (d : Disk) : Outcome :=
  Check.outcome s (d.readText s.input)
    (match s.file with
      | some path => d.readText path
      | none => .error .notFound)

/-- The end of the answer writer on a disk, and the disk it leaves. -/
def Answer.onDisk (s : Settings) (d : Disk) : Outcome × Disk :=
  let input := d.readText s.input
  match Answer.answers s input with
  | .error _ => (Answer.outcome s input (.ok ()), d)
  | .ok text =>
    match d.writeText (Answer.outputPath s) text with
    | .error e => (Answer.outcome s input (.error e), d)
    | .ok d' => (Answer.outcome s input (.ok ()), d')

/-- A tool with these arguments on a disk: how it ends, and the disk it leaves. -/
def Tool.onDisk (tool : Tool) (arguments : List String) (d : Disk) : Outcome × Disk :=
  match tool.settings arguments with
  | .error stop => (.ofStop tool stop, d)
  | .ok s =>
    match tool with
    | .check => (Check.onDisk s d, d)
    | .answer => Answer.onDisk s d

end CalcBench.CommandLine
