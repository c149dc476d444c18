import CalcBench.Operator
import CalcBench.Text.Reading
import CalcBench.Text.Shown

/-!
# CalcBench.Response — the result register, what a device answers, and the verdict

The register has between 1 and 64 bits and is read back as a signed number.  A device answers an
expression with its fault flag and its register; the verdict holds that against the golden response,
the answer that a correct device of the same width gives.
-/

namespace CalcBench

/-! ### Widths -/

/-- The number of bits of a result register. -/
structure Width where
  bits : Nat
  one_le_bits : 1 ≤ bits
  bits_le_max : bits ≤ 64
  deriving DecidableEq

inductive WidthError where
  | notANumber (cause : Text.NumberError)
  | outOfRange
  deriving DecidableEq

def WidthError.message : WidthError → String
  | .notANumber cause => cause.message
  | .outOfRange => "width must be within 1..=64"

namespace Width

def ofBits? (bits : Nat) : Option Width :=
  if h : 1 ≤ bits ∧ bits ≤ 64 then some ⟨bits, h.1, h.2⟩ else none

/-- The width in use unless another one is asked for. -/
def standard : Width := ⟨32, by decide, by decide⟩

/-- Reads a width from a number of at most 32 bits. -/
def parse (text : String) : Except WidthError Width :=
  match Text.readUnsigned (UInt32.size - 1) text.toList with
  | .error cause => .error (.notANumber cause)
  | .ok bits =>
    match ofBits? bits with
    | some width => .ok width
    | none => .error .outOfRange

/-- The distance between the register and a 64-bit word. -/
def shift (w : Width) : Int64 := Int64.ofNat (64 - w.bits)

/-- What the register shows of a value: its low bits, the highest of them repeated upwards. -/
def truncate (w : Width) (v : Int64) : Int64 := (v <<< w.shift) >>> w.shift

def json (w : Width) : String := Nat.repr w.bits

end Width

/-! ### Responses -/

/-- The fault flag and the result register. -/
structure Response where
  fault : Bool
  value : Int64
  deriving DecidableEq

namespace Response

/-- The flag is clear and the register holds `v`. -/
def ofValue (v : Int64) : Response := ⟨false, v⟩

/-- The flag is raised and the register is zero. -/
def faulted : Response := ⟨true, 0⟩

/-- The response that a correct device of width `w` gives for an evaluation with this result. -/
def golden (result : Except Fault Int64) (w : Width) : Response :=
  match result with
  | .ok v => ofValue (w.truncate v)
  | .error _ => faulted

/-- The response in one word; the register does not show while the flag is raised. -/
def text (r : Response) : String := if r.fault then "fault" else Text.decimal r.value.toInt

def json (r : Response) : String :=
  Text.JsonText.object
    [("fault", Text.JsonText.bool r.fault), ("value", Text.decimal r.value.toInt)]

end Response

/-! ### Verdicts -/

/-- The outcome of one comparison. -/
inductive Verdict where
  /-- Both sides give the same value. -/
  | pass
  /-- Both sides agree that the expression has no value. -/
  | invalid
  /-- The values differ, or only one side raised its fault flag. -/
  | fail
  deriving DecidableEq

namespace Verdict

/-- Compares a response with the golden one; a register does not count while its flag is raised. -/
def ofResponses (response golden : Response) : Verdict :=
  match response.fault, golden.fault with
  | true, true => .invalid
  | false, false => if response.value = golden.value then .pass else .fail
  | _, _ => .fail

def isFail (v : Verdict) : Bool := v == .fail

def name : Verdict → String
  | .pass => "Pass"
  | .invalid => "Invalid"
  | .fail => "Fail"

/-- The verdict as it stands in a report, in its colour. -/
def text : Verdict → String
  | .pass => Text.painted "32" "PASS"
  | .invalid => Text.painted "31" "Invalid Expression"
  | .fail => Text.painted "1;31" "FAIL"

def json (v : Verdict) : String := Text.JsonText.string v.name

end Verdict

end CalcBench
