import CalcBench.Expression.Evaluation
import CalcBench.Expression.Symbol
import CalcBench.Response

/-!
# CalcBench.Expression.Infix — the grammar of expressions and what it means

A well-formed expression is a sum of products of literals and parenthesised expressions, grouped to
the left.  Skipped characters may stand before, after and between its tokens, but not inside a
literal.  The meaning of a syntax tree is compositional.  It has three values: the 64-bit one, the one
over the integers without bound, and the one on a datapath that keeps each literal and each result in a
signed register.
-/

namespace CalcBench.Expression

inductive Tree where
  | literal (n : Nat)
  | node (op : Operator) (lhs rhs : Tree)
  deriving DecidableEq

namespace Tree

/-- The value of a tree; the first zero divisor from the left, innermost first, is the fault. -/
def value : Tree → Except Fault Int64
  | literal n => .ok (Int64.ofNat n)
  | node op lhs rhs =>
    match lhs.value with
    | .error fault => .error fault
    | .ok a =>
      match rhs.value with
      | .error fault => .error fault
      | .ok b => op.apply a b

/-- The operators of a tree in postorder, each with its operands and its value, up to the first
that has no value. -/
def folds : Tree → List Fold
  | literal _ => []
  | node op lhs rhs =>
    lhs.folds ++
      match lhs.value with
      | .error _ => []
      | .ok a =>
        rhs.folds ++
          match rhs.value with
          | .error _ => []
          | .ok b =>
            match op.apply a b with
            | .error _ => []
            | .ok result => [⟨op, a, b, result⟩]

end Tree

/-- `Writes rank t text`: the text is a way to write the tree as an expression whose outermost
operators, parentheses aside, have at least the rank `rank`.  Sums and differences have rank 1, products
and quotients rank 2, and literals and parenthesised expressions rank 3. -/
inductive Writes : Nat → Tree → List Char → Prop where
  | literal {digits : List Char} : digits ≠ [] → (∀ c ∈ digits, c.isDigit) →
      Writes 3 (.literal (Nat.ofDigitChars 10 digits 0)) digits
  | group {t : Tree} {text : List Char} : Writes 1 t text → Writes 3 t ('(' :: (text ++ [')']))
  | add {lhs rhs : Tree} {front back : List Char} : Writes 1 lhs front → Writes 2 rhs back →
      Writes 1 (.node .add lhs rhs) (front ++ '+' :: back)
  | sub {lhs rhs : Tree} {front back : List Char} : Writes 1 lhs front → Writes 2 rhs back →
      Writes 1 (.node .sub lhs rhs) (front ++ '-' :: back)
  | mul {lhs rhs : Tree} {front back : List Char} : Writes 2 lhs front → Writes 3 rhs back →
      Writes 2 (.node .mul lhs rhs) (front ++ '*' :: back)
  | div {lhs rhs : Tree} {front back : List Char} : Writes 2 lhs front → Writes 3 rhs back →
      Writes 2 (.node .div lhs rhs) (front ++ '/' :: back)
  | tighter {rank : Nat} {t : Tree} {text : List Char} :
      Writes (rank + 1) t text → Writes rank t text
  | skipBefore {rank : Nat} {t : Tree} {text : List Char} {c : Char} : isSkipped c →
      Writes rank t text → Writes rank t (c :: text)
  | skipAfter {rank : Nat} {t : Tree} {text : List Char} {c : Char} : isSkipped c →
      Writes rank t text → Writes rank t (text ++ [c])

namespace Writes

/-- The ranks of the grammar are the precedences of the operators. -/
theorem node {op : Operator} {lhs rhs : Tree} {front back : List Char}
    (hl : Writes op.precedence lhs front) (hr : Writes (op.precedence + 1) rhs back) :
    Writes op.precedence (.node op lhs rhs) (front ++ op.symbol :: back) := by
  cases op with
  | add => exact .add hl hr
  | sub => exact .sub hl hr
  | mul => exact .mul hl hr
  | div => exact .div hl hr

/-- Induction on how an expression is written, the four operators in one case. -/
@[elab_as_elim]
theorem induct {motive : (rank : Nat) → (t : Tree) → (text : List Char) → Writes rank t text → Prop}
    (literal : ∀ {digits : List Char} (hne : digits ≠ []) (hd : ∀ c ∈ digits, c.isDigit),
      motive 3 _ digits (.literal hne hd))
    (group : ∀ {t : Tree} {text : List Char} (h : Writes 1 t text),
      motive 1 t text h → motive 3 t _ (.group h))
    (node : ∀ {op : Operator} {lhs rhs : Tree} {front back : List Char}
      (hl : Writes op.precedence lhs front) (hr : Writes (op.precedence + 1) rhs back),
      motive _ lhs front hl → motive _ rhs back hr → motive _ _ _ (node hl hr))
    (tighter : ∀ {rank : Nat} {t : Tree} {text : List Char} (h : Writes (rank + 1) t text),
      motive (rank + 1) t text h → motive rank t text (.tighter h))
    (skipBefore : ∀ {rank : Nat} {t : Tree} {text : List Char} {c : Char} (hc : isSkipped c)
      (h : Writes rank t text), motive rank t text h → motive rank t _ (.skipBefore hc h))
    (skipAfter : ∀ {rank : Nat} {t : Tree} {text : List Char} {c : Char} (hc : isSkipped c)
      (h : Writes rank t text), motive rank t text h → motive rank t _ (.skipAfter hc h))
    {rank : Nat} {t : Tree} {text : List Char} (h : Writes rank t text) : motive rank t text h := by
  induction h with
  | literal hne hd => exact literal hne hd
  | group h ih => exact group h ih
  | add hl hr ihl ihr => exact @node .add _ _ _ _ hl hr ihl ihr
  | sub hl hr ihl ihr => exact @node .sub _ _ _ _ hl hr ihl ihr
  | mul hl hr ihl ihr => exact @node .mul _ _ _ _ hl hr ihl ihr
  | div hl hr ihl ihr => exact @node .div _ _ _ _ hl hr ihl ihr
  | tighter h ih => exact tighter h ih
  | skipBefore hc h ih => exact skipBefore hc h ih
  | skipAfter hc h ih => exact skipAfter hc h ih

end Writes

def IsInfix (text : List Char) : Prop := ∃ t, Writes 1 t text

end CalcBench.Expression

namespace CalcBench

/-! ### Exact values, and values on a narrow datapath -/

/-- The number of values of a register. -/
def Width.size (w : Width) : Nat := 1 <<< w.bits

/-- The value in the signed range of a register that differs from `n` by a multiple of its size. -/
def Width.wrap (w : Width) (n : Int) : Int := n.bmod w.size

/-- The register can hold `n`. -/
def Width.Holds (w : Width) (n : Int) : Prop := w.wrap n = n

/-- The exact value of an operator; a zero divisor has none. -/
def Operator.exact : Operator → Int → Int → Option Int
  | .add, lhs, rhs => some (lhs + rhs)
  | .sub, lhs, rhs => some (lhs - rhs)
  | .mul, lhs, rhs => some (lhs * rhs)
  | .div, lhs, rhs => if rhs = 0 then none else some (lhs.tdiv rhs)

namespace Expression.Tree

/-- The exact value of a tree, unless a divisor is zero. -/
def exact : Tree → Option Int
  | literal n => some n
  | node op lhs rhs =>
    match lhs.exact, rhs.exact with
    | some a, some b => op.exact a b
    | _, _ => none

/-- The value of a tree on a datapath of width `w`, unless a divisor is zero there. -/
def onDatapath (w : Width) : Tree → Option Int
  | literal n => some (w.wrap n)
  | node op lhs rhs =>
    match lhs.onDatapath w, rhs.onDatapath w with
    | some a, some b => (op.exact a b).map w.wrap
    | _, _ => none

/-- Each division of the tree has operands that a register of width `w` can hold, as far as they
have exact values. -/
def DividesWithin (w : Width) : Tree → Prop
  | literal _ => True
  | node op lhs rhs =>
    lhs.DividesWithin w ∧ rhs.DividesWithin w ∧
      (op = .div → (∀ a ∈ lhs.exact, w.Holds a) ∧ ∀ b ∈ rhs.exact, w.Holds b)

end Expression.Tree

end CalcBench
