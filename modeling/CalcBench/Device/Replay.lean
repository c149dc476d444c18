import CalcBench.Device
import CalcBench.Failure
import CalcBench.Response
import CalcBench.Text.Reading

/-!
# CalcBench.Device.Replay — recorded responses, and a device that repeats them

A trace has one response per line: the word `fault` or a decimal number with an optional minus sign.
White space around it is free, `#` starts a comment, and a line may hold no response.  The replay takes
every byte and looks at none; each request is answered by the next response of the trace.
-/

namespace CalcBench

/-! ### Traces -/

/-- What a line of a trace records. -/
inductive Reading where
  | fault
  | value (n : Int)
  deriving DecidableEq

/-- Why a text is no trace; lines are numbered from 1. -/
inductive TraceError where
  | invalidLine (number : Nat) (line : String)
  | outOfRange (number : Nat) (cause : Text.NumberError)
  deriving DecidableEq

def TraceError.failure : TraceError → Failure
  | .invalidLine number line =>
    ⟨"invalid trace line " ++ Nat.repr number ++ ": " ++ Text.quoted line, []⟩
  | .outOfRange number cause =>
    ⟨"value out of range on trace line " ++ Nat.repr number, [cause.message]⟩

namespace Trace

/-- Splits the digits off the front of a text, if it starts with any. -/
def splitNumber (text : List Char) : Option (Nat × List Char) :=
  match text.takeWhile Char.isDigit with
  | [] => none
  | digits => some (Nat.ofDigitChars 10 digits 0, text.dropWhile Char.isDigit)

/-- Splits a reading off the front of a text; a text that starts with none is left whole. -/
def splitReading : List Char → Option Reading × List Char
  | 'f' :: 'a' :: 'u' :: 'l' :: 't' :: rest => (some .fault, rest)
  | '-' :: rest =>
    match splitNumber rest with
    | some (n, rest') => (some (.value (-n)), rest')
    | none => (none, '-' :: rest)
  | text =>
    match splitNumber text with
    | some (n, rest) => (some (.value n), rest)
    | none => (none, text)

/-- Nothing but white space before the end or a comment. -/
def isPadding (text : List Char) : Bool :=
  match text.dropWhile Text.isWhiteSpace with
  | [] => true
  | c :: _ => c == '#'

/-- The reading of a line, if it has the form of a trace line. -/
def parseLine (line : List Char) : Option (Option Reading) :=
  match splitReading (line.dropWhile Text.isWhiteSpace) with
  | (reading, rest) => if isPadding rest then some reading else none

def response : Reading → Except Text.NumberError Response
  | .fault => .ok .faulted
  | .value n => (Text.fitInt64 n).map .ofValue

/-- The responses recorded in lines of which the first has the number `number`. -/
def parseFrom (number : Nat) : List (List Char) → Except TraceError (List Response)
  | [] => .ok []
  | line :: rest =>
    match parseLine line with
    | none => .error (.invalidLine number (String.ofList line))
    | some none => parseFrom (number + 1) rest
    | some (some reading) =>
      match response reading with
      | .error cause => .error (.outOfRange number cause)
      | .ok r => (parseFrom (number + 1) rest).map (r :: ·)

/-- The responses recorded in a trace; the first offending line decides the error. -/
def parse (source : String) : Except TraceError (List Response) :=
  parseFrom 1 (Text.lines source.toList)

end Trace

/-! ### Replays -/

/-- The responses still to come, and how many are gone. -/
structure Replay where
  responses : List Response
  consumed : Nat := 0
  deriving DecidableEq

namespace Replay

def ofTrace (source : String) : Except TraceError Replay :=
  (Trace.parse source).map fun responses => { responses }

/-- A replay of the trace file at `path`, which was read with the outcome `content`. -/
def ofFile (path : String) (content : Except FileError String) : Except Failure Replay :=
  match content with
  | .error e => .error (e.failure "read trace" path)
  | .ok source =>
    (ofTrace source).mapError fun e => e.failure.within ("in trace `" ++ path ++ "`")

def remaining (r : Replay) : Nat := r.responses.length

def put (r : Replay) (_byte : UInt8) : Exchange DeviceError Replay Unit := .done () r

def get (r : Replay) : Exchange DeviceError Replay Response :=
  match r.responses with
  | [] => ⟨.error (.exhausted r.consumed), r, []⟩
  | response :: rest => .done response ⟨rest, r.consumed + 1⟩

def device : Device DeviceError Replay := ⟨put, get⟩

end Replay

end CalcBench
