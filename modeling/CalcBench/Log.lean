import CalcBench.Expression.Evaluation
import CalcBench.Report

/-!
# CalcBench.Log — events and where they go

Events are values: every computation returns those it gives rise to, in order.  A logger shows the
events down to its level, either as lines of text on the error output or as JSON records in a file.
There is one logger; the first to be installed stays.
-/

namespace CalcBench.Log

/-! ### Levels -/

/-- The importance of an event, the most important first. -/
inductive Level where
  | error
  | warn
  | info
  | debug
  | trace
  deriving DecidableEq

namespace Level

def rank : Level → Nat
  | .error => 0
  | .warn => 1
  | .info => 2
  | .debug => 3
  | .trace => 4

def name : Level → String
  | .error => "ERROR"
  | .warn => "WARN"
  | .info => "INFO"
  | .debug => "DEBUG"
  | .trace => "TRACE"

/-- An event of level `event` is shown by a log that is open down to `threshold`. -/
def shows (threshold event : Level) : Bool := event.rank ≤ threshold.rank

/-- The threshold that belongs to a requested verbosity: one level more than asked for, so that a
plain run shows warnings; silence still shows errors. -/
def ofVerbosity : Option Level → Level
  | none => .error
  | some .error => .warn
  | some .warn => .info
  | some .info => .debug
  | some .debug => .trace
  | some .trace => .trace

/-- The verbosity asked for by flags: each `verbose` goes one level down from errors, each `quiet`
one level up. -/
def verbosity (verbose quiet : Nat) : Option Level :=
  if verbose < quiet then none
  else
    match verbose - quiet with
    | 0 => some .error
    | 1 => some .warn
    | 2 => some .info
    | 3 => some .debug
    | _ => some .trace

end Level

/-! ### Events -/

/-- Something worth telling. -/
inductive Event where
  | fold (f : Expression.Fold)
  | modelResponse (expression : String) (response : Response)
  | caseDone (c : Case)
  | caseFailed (index : Nat) (expression : String)
  | runDone (summary : Summary)
  | checking (input : String) (width : Width)
  | lineFault (line : String) (fault : Fault)

/-- The value of a field of an event. -/
inductive FieldValue where
  | number (n : Int)
  /-- Plain text, quoted in lines of a log. -/
  | plain (text : String)
  /-- The written form of a value. -/
  | shown (text : String)

namespace Event

def level : Event → Level
  | .fold _ => .trace
  | .modelResponse _ _ => .trace
  | .caseDone _ => .debug
  | .caseFailed _ _ => .warn
  | .runDone _ => .info
  | .checking _ _ => .info
  | .lineFault _ _ => .debug

def message : Event → String
  | .fold _ => "fold"
  | .modelResponse _ _ => "model response"
  | .caseDone _ => "case done"
  | .caseFailed index expression =>
    "case " ++ Nat.repr index ++ " failed: \"" ++ expression ++ "\""
  | .runDone summary => summary.text
  | .checking input width =>
    "checking `" ++ input ++ "` at " ++ Nat.repr width.bits ++ " bits"
  | .lineFault line fault => "\"" ++ line ++ "\": " ++ fault.message

/-- The named particulars of an event, in order. -/
def fields : Event → List (String × FieldValue)
  | .fold f =>
    [("op", .shown f.op.text), ("lhs", .number f.lhs.toInt), ("rhs", .number f.rhs.toInt),
     ("result", .number f.result.toInt)]
  | .modelResponse expression response =>
    [("expr", .shown expression), ("r", .shown response.text)]
  | .caseDone c =>
    [("index", .number c.index), ("line", .plain c.expression),
     ("response", .shown c.response.text), ("golden", .shown (detailedResult c.golden)),
     ("verdict", .shown c.verdict.name)]
  | _ => []

end Event

/-! ### Loggers -/

/-- The form and the place of a log. -/
inductive Sink where
  | console
  | file
  deriving DecidableEq

structure Logger where
  level : Level
  sink : Sink

namespace FieldValue

def bare : FieldValue → String
  | .number n => Text.decimal n
  | .plain text => text
  | .shown text => text

/-- The value in a line of text: plain text in quotes, other forms as they are. -/
def inLine : FieldValue → String
  | .number n => Text.decimal n
  | .plain text => Text.quoted text
  | .shown text => text

/-- The value in a record: numbers as such, all else as strings. -/
def json : FieldValue → String
  | .number n => Text.decimal n
  | .plain text => Text.JsonText.string text
  | .shown text => Text.JsonText.string text

end FieldValue

namespace Event

/-- The event as a line of text, without its time; the message is safe for a terminal. -/
def line (e : Event) : String :=
  e.level.name ++ " " ++ Text.terminalSafe e.message
    ++ String.join (e.fields.map fun (name, value) => " " ++ name ++ "=" ++ value.inLine)

/-- The event as a JSON record, without its time. -/
def record (e : Event) : String :=
  Text.JsonText.object
    [("level", Text.JsonText.string e.level.name),
     ("fields", Text.JsonText.object
       (("message", Text.JsonText.string e.message)
         :: e.fields.map fun (name, value) => (name, value.json)))]

end Event

namespace Logger

/-- Installs a logger where there may be one already, which then stays; also gives the complaint. -/
def install (current : Option Logger) (wanted : Logger) : Logger × String :=
  match current with
  | none => (wanted, "")
  | some first =>
    (first, "logging already initialized: "
      ++ "a global default trace dispatcher has already been set\n")

/-- Installs a logger `times` times; gives the one in place and all complaints. -/
def installRepeatedly (wanted : Logger) : Nat → Option Logger × String
  | 0 => (none, "")
  | times + 1 =>
    let (current, complaints) := installRepeatedly wanted times
    let (logger, complaint) := install current wanted
    (some logger, complaints ++ complaint)

def shown (l : Logger) (events : List Event) : List Event :=
  events.filter fun e => l.level.shows e.level

def console (l : Logger) (events : List Event) : String :=
  match l.sink with
  | .console => String.join ((l.shown events).map fun e => e.line ++ "\n")
  | .file => ""

def records (l : Logger) (events : List Event) : List String :=
  match l.sink with
  | .console => []
  | .file => (l.shown events).map Event.record

end Logger

end CalcBench.Log
