import CalcBench.Text.Reading
import CalcBench.Text.Shown

/-!
# CalcBench.Operator — the four operators of the calculator core, and the faults

Values are signed 64-bit words.  Addition, subtraction and multiplication wrap; division drops the
fraction, faults on a zero divisor, and wraps where the quotient does not fit.  The core signals every
fault by its single flag; the golden model tells them apart.
-/

namespace CalcBench

/-! ### Faults -/

/-- The reasons for which an expression has no value. -/
inductive Fault where
  | divisionByZero
  /-- A closing parenthesis without a pending opening one. -/
  | unmatchedClose
  /-- An opening parenthesis still pending at the end. -/
  | unmatchedOpen
  /-- Too few operands for an operator, or not exactly one value at the end. -/
  | malformed
  /-- A character outside the alphabet of expressions, at a byte offset. -/
  | invalidCharacter (ch : Char) (offset : Nat)
  deriving DecidableEq

namespace Fault

def kind : Fault → String
  | .divisionByZero => "DivisionByZero"
  | .unmatchedClose => "UnmatchedCloseParen"
  | .unmatchedOpen => "UnmatchedOpenParen"
  | .malformed => "MalformedExpression"
  | .invalidCharacter _ _ => "InvalidCharacter"

def message : Fault → String
  | .divisionByZero => "division by zero"
  | .unmatchedClose => "unmatched `)`"
  | .unmatchedOpen => "unmatched `(`"
  | .malformed => "malformed expression"
  | .invalidCharacter ch offset =>
    "invalid character " ++ Text.quotedChar ch ++ " at offset " ++ Nat.repr offset

/-- The kind with the particulars, for logs. -/
def detailed : Fault → String
  | .invalidCharacter ch offset =>
    "InvalidCharacter \x7b ch: " ++ Text.quotedChar ch ++ ", pos: " ++ Nat.repr offset ++ " \x7d"
  | fault => fault.kind

/-- The fault as a JSON value: a string, or an object where there are particulars. -/
def json : Fault → String
  | .invalidCharacter ch offset =>
    Text.JsonText.object [("InvalidCharacter", Text.JsonText.object
      [("ch", Text.JsonText.string (String.singleton ch)), ("pos", Nat.repr offset)])]
  | fault => Text.JsonText.string fault.kind

end Fault

def detailedResult : Except Fault Int64 → String
  | .ok v => "Ok(" ++ Text.decimal v.toInt ++ ")"
  | .error fault => "Err(" ++ fault.detailed ++ ")"

/-! ### Operators -/

inductive Operator where
  | add
  | sub
  | mul
  | div
  deriving DecidableEq

namespace Operator

def symbol : Operator → Char
  | .add => '+'
  | .sub => '-'
  | .mul => '*'
  | .div => '/'

def ofSymbol? (c : Char) : Option Operator :=
  if c = '+' then some .add
  else if c = '-' then some .sub
  else if c = '*' then some .mul
  else if c = '/' then some .div
  else none

/-- How tightly an operator binds; parentheses rank below all operators, at zero. -/
def precedence : Operator → Nat
  | .add | .sub => 1
  | .mul | .div => 2

/-- The value of an operator on two words. -/
def apply : Operator → Int64 → Int64 → Except Fault Int64
  | .add, lhs, rhs => .ok (lhs + rhs)
  | .sub, lhs, rhs => .ok (lhs - rhs)
  | .mul, lhs, rhs => .ok (lhs * rhs)
  | .div, lhs, rhs => if rhs = 0 then .error .divisionByZero else .ok (lhs / rhs)

def name : Operator → String
  | .add => "Add"
  | .sub => "Sub"
  | .mul => "Mul"
  | .div => "Div"

def text (op : Operator) : String := String.singleton op.symbol

/-- Each operator has one symbol, and no other character is one. -/
theorem ofSymbol?_eq_some_iff {c : Char} {op : Operator} :
    ofSymbol? c = some op ↔ op.symbol = c := by
  constructor
  · intro h
    grind [ofSymbol?, Operator.symbol]
  · rintro rfl
    cases op <;> rfl

/-- Only a division by zero has no value. -/
theorem apply_eq_error_iff {op : Operator} {lhs rhs : Int64} {fault : Fault} :
    op.apply lhs rhs = .error fault ↔ op = .div ∧ rhs = 0 ∧ fault = .divisionByZero := by
  cases op with
  | add => exact ⟨nofun, nofun⟩
  | sub => exact ⟨nofun, nofun⟩
  | mul => exact ⟨nofun, nofun⟩
  | div =>
    by_cases h : rhs = 0
    · simp [apply, h, eq_comm]
    · simp [apply, h]

end Operator

end CalcBench
