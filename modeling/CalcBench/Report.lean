import CalcBench.Response

/-!
# CalcBench.Report — cases and summaries

A case records one expression with the response of the device and the golden result.  A summary
holds the cases of a run.
-/

namespace CalcBench

/-- One expression that was put to a device. -/
structure Case where
  /-- The number of the case, from 1. -/
  index : Nat
  expression : String
  response : Response
  golden : Except Fault Int64
  verdict : Verdict

/-- The cases of one run, in order. -/
structure Summary where
  cases : List Case

namespace Case

/-- The frame of a report. -/
def rule : String := String.ofList (List.replicate 46 '=')

/-- What a report names as expected: the value in full, or the fault with its explanation. -/
def expected : Except Fault Int64 → String
  | .ok v => Text.decimal v.toInt
  | .error fault => "fault " ++ Text.painted "38;5;244" ("(" ++ fault.message ++ ")")

def reportLines (c : Case) : List String :=
  [rule,
   "Test Case : " ++ Nat.repr c.index,
   "Expression: \"" ++ c.expression ++ "\"",
   "Result    : " ++ c.response.text,
   "Expected  : " ++ expected c.golden,
   "Compare result: " ++ c.verdict.text,
   rule]

def text (c : Case) : String := String.intercalate "\n" c.reportLines

end Case

namespace Summary

def count (s : Summary) (v : Verdict) : Nat := (s.cases.filter (·.verdict == v)).length

def passed (s : Summary) : Nat := s.count .pass

def invalid (s : Summary) : Nat := s.count .invalid

def failed (s : Summary) : Nat := s.count .fail

/-- No case failed; a fault on both sides is a success. -/
def isSuccess (s : Summary) : Bool := s.failed == 0

def text (s : Summary) : String :=
  Nat.repr s.cases.length ++ " cases: " ++ Nat.repr s.passed ++ " passed, "
    ++ Nat.repr s.invalid ++ " invalid, " ++ Nat.repr s.failed ++ " failed"

end Summary

end CalcBench
