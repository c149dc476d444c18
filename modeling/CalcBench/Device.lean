import CalcBench.Log

/-!
# CalcBench.Device — a device behind its byte interface

A device is a type of states with two operations that may change the state and may fail: taking a
byte of the expression, and handing out the response to the expression that the end mark closed.
A failed operation leaves a state too.  Calls are the two operations as data.
-/

namespace CalcBench

/-- What a dealing with a device leads to: an outcome, the state it leaves, and the events. -/
structure Exchange (ε σ α : Type) where
  outcome : Except ε α
  state : σ
  events : List Log.Event

namespace Exchange

variable {ε σ α β : Type}

def done (a : α) (state : σ) : Exchange ε σ α := ⟨.ok a, state, []⟩

/-- Goes on after a success; an error ends the dealing. -/
def andThen (x : Exchange ε σ α) (next : α → σ → Exchange ε σ β) : Exchange ε σ β :=
  match x.outcome with
  | .ok a =>
    let y := next a x.state
    ⟨y.outcome, y.state, x.events ++ y.events⟩
  | .error e => ⟨.error e, x.state, x.events⟩

def map (f : α → β) (x : Exchange ε σ α) : Exchange ε σ β :=
  ⟨x.outcome.map f, x.state, x.events⟩

/-- Adds events that depend on the value of a success, after those there are. -/
def noting (events : α → List Log.Event) (x : Exchange ε σ α) : Exchange ε σ α :=
  match x.outcome with
  | .ok a => { x with events := x.events ++ events a }
  | .error _ => x

end Exchange

/-- The two operations of a device with states `σ` and errors `ε`. -/
structure Device (ε σ : Type) where
  /-- Feeds one byte of an expression. -/
  put : σ → UInt8 → Exchange ε σ Unit
  /-- Takes the response to the expression fed. -/
  get : σ → Exchange ε σ Response

/-- Why one of the devices of this library fails. -/
inductive DeviceError where
  /-- A response was asked for while the expression had no end mark. -/
  | early (received : String)
  /-- A recorded trace has no response left. -/
  | exhausted (consumed : Nat)
  deriving DecidableEq

def DeviceError.message : DeviceError → String
  | .early received => "result requested before `=`: \"" ++ received ++ "\""
  | .exhausted consumed => "trace exhausted after " ++ Nat.repr consumed ++ " responses"

/-! ### Calls -/

inductive Call where
  | put (byte : UInt8)
  | get
  deriving DecidableEq

namespace Device

variable {ε σ : Type}

/-- One call: the response if one was asked for and given, and the state after it. -/
def perform (d : Device ε σ) (state : σ) : Call → Exchange ε σ (Option Response)
  | .put byte => (d.put state byte).map fun _ => none
  | .get => (d.get state).map some

/-- The state after calls, whatever their outcomes. -/
def after (d : Device ε σ) (state : σ) (calls : List Call) : σ :=
  calls.foldl (fun s call => (d.perform s call).state) state

/-- The device together with the calls made so far, in order. -/
def recorded (d : Device ε σ) : Device ε (σ × List Call) where
  put := fun (state, calls) byte =>
    let x := d.put state byte
    ⟨x.outcome, (x.state, calls ++ [.put byte]), x.events⟩
  get := fun (state, calls) =>
    let x := d.get state
    ⟨x.outcome, (x.state, calls ++ [.get]), x.events⟩

end Device

/-! ### A device that observes a testbench -/

/-- The bytes taken and the requests so far, the responses still to come, and the number of the byte to
refuse, from 0. -/
structure Probe where
  fed : List UInt8 := []
  requests : Nat := 0
  responses : List Response
  refusesAt : Option Nat := none

inductive ProbeError where
  | refused (byte : Nat)
  | unprepared

namespace Probe

def put (p : Probe) (byte : UInt8) : Exchange ProbeError Probe Unit :=
  if p.refusesAt = some p.fed.length then ⟨.error (.refused p.fed.length), p, []⟩
  else .done () { p with fed := p.fed ++ [byte] }

def get (p : Probe) : Exchange ProbeError Probe Response :=
  match p.responses with
  | [] => ⟨.error .unprepared, { p with requests := p.requests + 1 }, []⟩
  | response :: rest => .done response { p with requests := p.requests + 1, responses := rest }

def device : Device ProbeError Probe := ⟨put, get⟩

end Probe

end CalcBench
