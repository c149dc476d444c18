import CalcBench.Device
import CalcBench.Expression.Evaluation
import CalcBench.Log
import CalcBench.Text.Reading

/-!
# CalcBench.Testbench — a device put to the test, and the golden answers to a file

Each line of a file is one case.  The device is fed the line up to its first end mark, its response
is taken, and the response is compared with the golden response to the whole line.  The answer file has
the golden responses alone, one line per expression, in the form of a trace.
-/

namespace CalcBench

/-- The part of a line that is fed to a device: up to and with the first end mark, which is added
where there is none. -/
def frame : List Char → List Char
  | [] => ['=']
  | c :: rest => if c = '=' then ['='] else c :: frame rest

def utf8 (text : List Char) : List UInt8 := text.flatMap String.utf8EncodeChar

/-- A testbench for devices of one register width. -/
structure Testbench where
  width : Width

namespace Testbench

variable {ε σ : Type}

/-- Puts bytes into a device one after the other, up to the first that it refuses. -/
def feed (device : Device ε σ) (state : σ) : List UInt8 → Exchange ε σ Unit
  | [] => .done () state
  | byte :: rest => (device.put state byte).andThen fun _ state' => feed device state' rest

/-- The case of a line to which the device gave `response`. -/
def judge (t : Testbench) (index : Nat) (line : String) (response : Response) : Case :=
  let golden := Expression.evaluate line
  { index, expression := line, response, golden
    verdict := .ofResponses response (.golden golden t.width) }

def caseEvents (c : Case) : List Log.Event :=
  (Expression.appliedFolds c.expression).map .fold ++ [.caseDone c]
    ++ if c.verdict.isFail then [.caseFailed c.index c.expression] else []

def runCase (t : Testbench) (device : Device ε σ) (state : σ) (index : Nat) (line : String) :
    Exchange ε σ Case :=
  (((feed device state (utf8 (frame line.toList))).andThen fun _ fed => device.get fed).map
    (t.judge index line)).noting caseEvents

/-- Puts lines to the device in order, the first as case `index`, up to the first error. -/
def runLines (t : Testbench) (device : Device ε σ) (state : σ) (index : Nat) :
    List String → Exchange ε σ (List Case)
  | [] => .done [] state
  | line :: rest =>
    (t.runCase device state index line).andThen fun c state' =>
      (runLines t device state' (index + 1) rest).map (c :: ·)

/-- Puts every line of a file that is not blank to the device. -/
def run (t : Testbench) (device : Device ε σ) (state : σ) (source : String) :
    Exchange ε σ Summary :=
  ((t.runLines device state 1 (Text.expressionLines source)).map Summary.mk).noting
    fun summary => [.runDone summary]

end Testbench

end CalcBench

namespace CalcBench.AnswerFile

/-! ### Answer files -/

def answer (w : Width) (line : String) : String :=
  (Response.golden (Expression.evaluate line) w).text ++ "\n"

def text (w : Width) (source : String) : String :=
  String.join ((Text.expressionLines source).map (answer w))

def lineEvents (line : String) : List Log.Event :=
  (Expression.appliedFolds line).map .fold
    ++ match Expression.evaluate line with
      | .ok _ => []
      | .error fault => [.lineFault line fault]

def events (source : String) : List Log.Event :=
  (Text.expressionLines source).flatMap lineEvents

end CalcBench.AnswerFile
