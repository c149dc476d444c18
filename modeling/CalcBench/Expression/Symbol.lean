import CalcBench.Operator
import CalcBench.Text.Reading

/-!
# CalcBench.Expression.Symbol — what a character does in an expression, and what a text holds

The alphabet of expressions has decimal digits, the four operators and parentheses.  ASCII blanks and
the end mark `=` may stand anywhere and are skipped.  What a text holds is taken without regard to
whether it makes an expression.
-/

namespace CalcBench.Expression

/-- The part a character plays in an expression. -/
inductive Symbol where
  | skipped
  | digit (value : Nat)
  | opening
  | closing
  | operator (op : Operator)
  | foreign
  deriving DecidableEq

/-- Characters between tokens that have no effect: ASCII blanks and the end mark. -/
def isSkipped (c : Char) : Bool := Text.isAsciiBlank c || c == '='

def Symbol.ofChar (c : Char) : Symbol :=
  if isSkipped c then .skipped
  else if c.isDigit then .digit (Text.digitValue c)
  else if c = '(' then .opening
  else if c = ')' then .closing
  else
    match Operator.ofSymbol? c with
    | some op => .operator op
    | none => .foreign

/-! ### Operators, literals and parentheses of a text -/

def operators (text : List Char) : List Operator := text.filterMap Operator.ofSymbol?

/-- The maximal runs of digits of a text, in order. -/
def digitRuns : List Char → List (List Char)
  | [] => []
  | c :: rest =>
    if c.isDigit then
      match rest, digitRuns rest with
      | d :: _, run :: runs => if d.isDigit then (c :: run) :: runs else [c] :: run :: runs
      | _, runs => [c] :: runs
    else digitRuns rest

def literals (text : List Char) : List Int64 :=
  (digitRuns text).map fun run => Int64.ofNat (Nat.ofDigitChars 10 run 0)

/-- The characters of expressions: digits, operators, parentheses, and what is skipped. -/
def alphabet : List Char := "0123456789+-*/() \t\n\x0c\r=".toList

/-- A character outside the alphabet of expressions. -/
def IsForeign (c : Char) : Prop := Symbol.ofChar c = .foreign

/-- The text has more closing than opening parentheses. -/
def ClosesTooMany (text : List Char) : Prop := text.count '(' < text.count ')'

/-- Each closing parenthesis has an opening one before it to close: no prefix closes too many. -/
def ClosesOnlyOpened (text : List Char) : Prop := ∀ q, q <+: text → ¬ ClosesTooMany q

def utf8Length : List Char → Nat
  | [] => 0
  | c :: rest => c.utf8Size + utf8Length rest

end CalcBench.Expression
