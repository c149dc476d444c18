import CalcBench.Expression.Evaluation
import CalcBench.Expression.Symbol

/-!
# CalcBench.Expression.Postfix — postfix programs

Evaluation in two stages.  The first looks at characters and pending operators only and writes a
program for a stack machine, together with the fault it met, if any; the second runs the program.
A fault of the second stage comes before one of the first.
-/

namespace CalcBench.Expression.Postfix

inductive Instr where
  | push (v : Int64)
  | apply (op : Operator)
  deriving DecidableEq

/-- Instructions, and the fault at which the text could not be followed any further. -/
structure Program where
  code : List Instr
  ending : Option Fault
  deriving DecidableEq

/-- The program with instructions put in front. -/
def Program.after (front : List Instr) (p : Program) : Program := ⟨front ++ p.code, p.ending⟩

/-- The pending operators that bind at least as tightly as `rank`, down to the first entry that
does not, and the entries that stay. -/
def release (rank : Nat) : List Pending → List Instr × List Pending
  | [] => ([], [])
  | .opened :: below => ([], .opened :: below)
  | .apply op :: below =>
    if rank ≤ op.precedence then
      let (code, rest) := release rank below
      (.apply op :: code, rest)
    else ([], .apply op :: below)

/-- The instruction that ends an unfinished literal. -/
def pushed : Option Int64 → List Instr
  | none => []
  | some v => [.push v]

/-- The program for the rest of a text, with the unfinished literal and the byte offset at hand. -/
def compile (pending : List Pending) (literal : Option Int64) (offset : Nat) :
    List Char → Program
  | [] =>
    let (code, rest) := release 0 pending
    ⟨pushed literal ++ code, if rest = [] then none else some .unmatchedOpen⟩
  | c :: text =>
    let next := offset + c.utf8Size
    match Symbol.ofChar c with
    | .skipped => (compile pending none next text).after (pushed literal)
    | .digit d => compile pending (some (literal.getD 0 * 10 + Int64.ofNat d)) next text
    | .opening => (compile (.opened :: pending) none next text).after (pushed literal)
    | .closing =>
      match release 0 pending with
      | (code, .opened :: rest) => (compile rest none next text).after (pushed literal ++ code)
      | (code, _) => ⟨pushed literal ++ code, some .unmatchedClose⟩
    | .operator op =>
      let (code, rest) := release op.precedence pending
      (compile (.apply op :: rest) none next text).after (pushed literal ++ code)
    | .foreign => ⟨pushed literal, some (.invalidCharacter c offset)⟩

/-- The stack that a program leaves, with its top first, or the first fault. -/
def exec : List Instr → List Int64 → Except Fault (List Int64)
  | [], values => .ok values
  | .push v :: code, values => exec code (v :: values)
  | .apply op :: code, rhs :: lhs :: values =>
    match op.apply lhs rhs with
    | .ok result => exec code (result :: values)
    | .error fault => .error fault
  | .apply _ :: _, _ => .error .malformed

/-- The outcome of a program: its own first fault, else the fault at its end, else the one value
it leaves. -/
def Program.result (p : Program) : Except Fault Int64 :=
  match exec p.code [] with
  | .error fault => .error fault
  | .ok values =>
    match p.ending, values with
    | some fault, _ => .error fault
    | none, [v] => .ok v
    | none, _ => .error .malformed

def ofText (text : List Char) : Program := compile [] none 0 text

end CalcBench.Expression.Postfix
