/-!
# CalcBench.Text.Reading — blanks, lines and numbers

What is read of a text: its blank characters, its lines without their ends, and decimal numbers, which
are ASCII digits with any count of leading zeros.
-/

namespace CalcBench.Text

/-! ### Blank characters -/

/-- The ASCII blanks: space, tab, line feed, form feed and carriage return, but no vertical tab. -/
def isAsciiBlank (c : Char) : Bool :=
  c == ' ' || c == '\t' || c == '\n' || c == '\x0c' || c == '\r'

/-- The characters with the Unicode property White_Space. -/
def isWhiteSpace (c : Char) : Bool :=
  let n := c.toNat
  (0x09 ≤ n && n ≤ 0x0D) || n == 0x20 || n == 0x85 || n == 0xA0 || n == 0x1680
    || (0x2000 ≤ n && n ≤ 0x200A) || n == 0x2028 || n == 0x2029 || n == 0x202F || n == 0x205F
    || n == 0x3000

/-- A line with no character outside White_Space. -/
def isBlankLine (line : List Char) : Bool := line.all isWhiteSpace

/-! ### Lines -/

def lines : List Char → List (List Char)
  | [] => []
  | '\n' :: rest => [] :: lines rest
  | '\r' :: '\n' :: rest => [] :: lines rest
  | c :: rest =>
    match lines rest with
    | [] => [[c]]
    | first :: others => (c :: first) :: others

/-- The lines of a file that hold an expression: all but the blank ones, in order. -/
def expressionLines (source : String) : List String :=
  ((lines source.toList).filter (!isBlankLine ·)).map String.ofList

/-! ### Numbers -/

inductive NumberError where
  | empty
  | invalidDigit
  | tooLarge
  | tooSmall
  deriving DecidableEq

def NumberError.message : NumberError → String
  | .empty => "cannot parse integer from empty string"
  | .invalidDigit => "invalid digit found in string"
  | .tooLarge => "number too large to fit in target type"
  | .tooSmall => "number too small to fit in target type"

def digitValue (c : Char) : Nat := c.toNat - '0'.toNat

/-- Reads digits onto `n`; of a foreign character and an excess over `limit` the first met wins. -/
def readDigits (limit : Nat) (n : Nat) : List Char → Except NumberError Nat
  | [] => .ok n
  | c :: rest =>
    if c.isDigit then
      let m := 10 * n + digitValue c
      if m ≤ limit then readDigits limit m rest else .error .tooLarge
    else .error .invalidDigit

/-- Reads an unsigned number of at most `limit`; one leading `+` is allowed before a digit. -/
def readUnsigned (limit : Nat) : List Char → Except NumberError Nat
  | [] => .error .empty
  | ['+'] => .error .invalidDigit
  | '+' :: digits => readDigits limit 0 digits
  | digits => readDigits limit 0 digits

/-- The signed 64-bit number equal to `n`, if there is one. -/
def fitInt64 (n : Int) : Except NumberError Int64 :=
  if 9223372036854775807 < n then .error .tooLarge
  else if n < -9223372036854775808 then .error .tooSmall
  else .ok (Int64.ofInt n)

/-- A number in decimal: a minus sign if negative, and no leading zeros. -/
def decimal (n : Int) : String :=
  if n < 0 then "-" ++ Nat.repr n.natAbs else Nat.repr n.natAbs

end CalcBench.Text
