import CalcBench.Expression.Symbol
import CalcBench.Operator

/-!
# CalcBench.Expression.Evaluation — the golden model

`evaluate` gives the value of an infix expression such as `(2+3)*4=`, or the fault.  There is no
sign: `-7/2=` is malformed, and `(0-7)/2=` is `-3`.

One pass keeps the values found so far and the operators that still wait for their right operand, each
as a stack with its top first.  An opening parenthesis is a barrier on the second stack, below which
nothing is applied before the parenthesis closes.
-/

namespace CalcBench.Expression

/-! ### Values and pending operators -/

/-- One applied operator with its operands and its value. -/
structure Fold where
  op : Operator
  lhs : Int64
  rhs : Int64
  result : Int64
  deriving DecidableEq

inductive Pending where
  | opened
  | apply (op : Operator)
  deriving DecidableEq

/-- Values, pending operators and the operators applied so far, each with the newest first. -/
structure Stacks where
  values : List Int64 := []
  pending : List Pending := []
  folds : List Fold := []
  deriving DecidableEq

/-- An evaluation that stopped, with the operators applied before, the newest first. -/
structure Halt where
  fault : Fault
  folds : List Fold
  deriving DecidableEq

namespace Stacks

/-- Applies the operator on top to the two values on top. -/
def fold (s : Stacks) : Except Fault Stacks :=
  match s.values, s.pending with
  | rhs :: lhs :: values, .apply op :: pending =>
    match op.apply lhs rhs with
    | .ok result => .ok ⟨result :: values, pending, ⟨op, lhs, rhs, result⟩ :: s.folds⟩
    | .error fault => .error fault
  | _, _ => .error .malformed

/-- Folds while the top of `pending` is an operator that binds at least as tightly as `rank`. -/
def unwindFrom (rank : Nat) (values : List Int64) (folds : List Fold) :
    List Pending → Except Halt Stacks
  | [] => .ok ⟨values, [], folds⟩
  | .opened :: below => .ok ⟨values, .opened :: below, folds⟩
  | .apply op :: below =>
    if rank ≤ op.precedence then
      match fold ⟨values, .apply op :: below, folds⟩ with
      | .ok s => unwindFrom rank s.values s.folds below
      | .error fault => .error ⟨fault, folds⟩
    else .ok ⟨values, .apply op :: below, folds⟩

/-- Folds the pending operators of rank at least `rank`, down to the first that is not. -/
def unwind (rank : Nat) (s : Stacks) : Except Halt Stacks :=
  unwindFrom rank s.values s.folds s.pending

/-- Takes a digit: the first of a literal starts a new value, the others extend the value on top. -/
def digit (continues : Bool) (d : Nat) (s : Stacks) : Stacks :=
  match continues, s.values with
  | true, v :: values => { s with values := (v * 10 + Int64.ofNat d) :: values }
  | _, values => { s with values := Int64.ofNat d :: values }

def opening (s : Stacks) : Stacks := { s with pending := .opened :: s.pending }

/-- Takes a closing parenthesis: all operators above the barrier are folded, the barrier goes. -/
def closing (s : Stacks) : Except Halt Stacks :=
  match s.unwind 0 with
  | .error halt => .error halt
  | .ok ⟨values, .opened :: below, folds⟩ => .ok ⟨values, below, folds⟩
  | .ok ⟨_, _, folds⟩ => .error ⟨.unmatchedClose, folds⟩

/-- Takes an operator: those that bind at least as tightly are folded first, since operators of
one rank group to the left. -/
def operator (op : Operator) (s : Stacks) : Except Halt Stacks :=
  match s.unwind op.precedence with
  | .error halt => .error halt
  | .ok s' => .ok { s' with pending := .apply op :: s'.pending }

/-- Takes the end of the expression: all operators are folded, and one value must be left. -/
def finish (s : Stacks) : Except Halt (Int64 × List Fold) :=
  match s.unwind 0 with
  | .error halt => .error halt
  | .ok ⟨_, _ :: _, folds⟩ => .error ⟨.unmatchedOpen, folds⟩
  | .ok ⟨[v], [], folds⟩ => .ok (v, folds)
  | .ok ⟨_, [], folds⟩ => .error ⟨.malformed, folds⟩

end Stacks

/-! ### The pass over a text -/

/-- The state between two characters. -/
structure Scan where
  work : Stacks := {}
  /-- The UTF-8 length of the text read so far. -/
  offset : Nat := 0
  /-- The last character was a digit, so the value on top may still grow. -/
  inLiteral : Bool := false
  deriving DecidableEq

namespace Scan

def step (s : Scan) (c : Char) : Except Halt Scan :=
  let next (inLiteral : Bool) (work : Stacks) : Scan :=
    ⟨work, s.offset + c.utf8Size, inLiteral⟩
  match Symbol.ofChar c with
  | .skipped => .ok (next false s.work)
  | .digit d => .ok (next true (s.work.digit s.inLiteral d))
  | .opening => .ok (next false s.work.opening)
  | .closing => s.work.closing.map (next false)
  | .operator op => (s.work.operator op).map (next false)
  | .foreign => .error ⟨.invalidCharacter c s.offset, s.work.folds⟩

def run (s : Scan) : List Char → Except Halt Scan
  | [] => .ok s
  | c :: rest =>
    match s.step c with
    | .ok s' => s'.run rest
    | .error halt => .error halt

@[simp] theorem run_nil (s : Scan) : s.run [] = .ok s := rfl

theorem run_cons (s : Scan) (c : Char) (rest : List Char) :
    s.run (c :: rest) = (s.step c).bind (·.run rest) := by
  simp only [run]
  cases s.step c with
  | ok s' => rfl
  | error halt => rfl

/-- Reading a text is reading its parts in turn. -/
theorem run_append (s : Scan) (front back : List Char) :
    s.run (front ++ back) = (s.run front).bind (·.run back) := by
  induction front generalizing s with
  | nil => rfl
  | cons c rest ih =>
    rw [List.cons_append, run_cons, run_cons]
    cases s.step c with
    | ok s' => exact ih s'
    | error halt => rfl

end Scan

/-- What an evaluation gives: its result, and the operators it applied, in order. -/
structure Evaluation where
  result : Except Fault Int64
  folds : List Fold

/-- The evaluation of a text, character by character and then its end. -/
def evaluation (text : List Char) : Evaluation :=
  match ((Scan.run {} text).bind fun s => s.work.finish) with
  | .ok (v, folds) => ⟨.ok v, folds.reverse⟩
  | .error halt => ⟨.error halt.fault, halt.folds.reverse⟩

/-- The value of an expression, or why it has none. -/
def evaluate (expression : String) : Except Fault Int64 := (evaluation expression.toList).result

/-- The operators that `evaluate` applies, in order, up to a fault if there is one. -/
def appliedFolds (expression : String) : List Fold := (evaluation expression.toList).folds

end CalcBench.Expression
