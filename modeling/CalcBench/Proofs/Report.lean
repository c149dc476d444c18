import CalcBench.Failure
import CalcBench.Proofs.Device.Trace
import CalcBench.Proofs.Text.Lines
import CalcBench.Report

/-!
# CalcBench.Proofs.Report — reports break no line

Apart from the line ends that a report sets itself it has no line feed: numbers, verdicts and messages
have none, a character in quotes is escaped if it is one, and an expression is a line of a file.

* `Case.unbroken_of_mem_reportLines`, `Summary.unbroken_text`: **the lines of reports**.
-/

namespace CalcBench

/-! ### Texts without a line feed -/

namespace Text

def Unbroken (text : String) : Prop := '\n' ∉ text.toList

instance (text : String) : Decidable (Unbroken text) :=
  inferInstanceAs (Decidable ('\n' ∉ text.toList))

theorem Unbroken.append {front back : String} (hf : Unbroken front) (hb : Unbroken back) :
    Unbroken (front ++ back) := by
  rw [Unbroken, String.toList_append, List.mem_append, not_or]
  exact ⟨hf, hb⟩

theorem unbroken_singleton {c : Char} (h : c ≠ '\n') : Unbroken (String.singleton c) := by
  rw [Unbroken, String.toList_singleton, List.mem_singleton]
  exact Ne.symm h

theorem unbroken_decimal (n : Int) : Unbroken (decimal n) := by
  intro h
  rcases eq_minus_or_isDigit_of_mem_decimal h with h | h
  · exact absurd h (by decide)
  · exact absurd h (by decide)

theorem unbroken_repr (n : Nat) : Unbroken (Nat.repr n) := by
  intro h
  rw [Nat.toList_repr] at h
  exact absurd (isDigit_of_mem_toDigits h) (by decide)

theorem unbroken_hexadecimal (n : Nat) : Unbroken (hexadecimal n) := by
  rw [Unbroken, hexadecimal, String.toList_ofList]
  -- the digits of `n` are those of its sixteenth part and one more
  induction n using Nat.strongRecOn with
  | ind n ih =>
    have hdigit : ∀ k : Nat, '\n' ≠ k.digitChar := fun k => (Nat.digitChar_ne '\n' (by decide)).symm
    rw [Nat.toDigits_eq_if (by decide)]
    split
    · rw [List.mem_singleton]
      exact hdigit n
    · next hge =>
      rw [List.mem_append, List.mem_singleton, not_or]
      exact ⟨ih (n / 16) (by omega), hdigit (n % 16)⟩

/-- In quotes a line feed is escaped. -/
theorem unbroken_escaped (quote c : Char) : Unbroken (escaped quote c) := by
  unfold escaped
  split_ifs with _ _ hnewline
  · decide
  · decide
  · decide
  · decide
  · decide
  · rw [Unbroken, String.toList_ofList]
    simp [Ne.symm hnewline]
  · exact .append (.append (by decide) (unbroken_hexadecimal _)) (by decide)
  · exact unbroken_singleton hnewline

theorem unbroken_quotedChar (c : Char) : Unbroken (quotedChar c) :=
  .append (.append (by decide) (unbroken_escaped '\'' c)) (by decide)

theorem unbroken_painted {code text : String} (hc : Unbroken code) (ht : Unbroken text) :
    Unbroken (painted code text) :=
  .append (.append (.append (.append (by decide) hc) (by decide)) ht) (by decide)

theorem unbroken_of_mem_expressionLines {source line : String} (h : line ∈ expressionLines source) :
    Unbroken line := by
  obtain ⟨chars, hchars, rfl⟩ := List.mem_map.mp h
  rw [Unbroken, String.toList_ofList]
  exact newline_notMem_of_mem_lines (List.mem_filter.mp hchars).1

/-- Lines put together with line feeds between them, and one at the end, are lines that each end with
one. -/
theorem intercalate_append_newline {lines : List String} (h : lines ≠ []) :
    String.intercalate "\n" lines ++ "\n" = String.join (lines.map (· ++ "\n")) := by
  induction lines with
  | nil => exact absurd rfl h
  | cons line rest ih =>
    cases rest with
    | nil =>
      rw [String.intercalate_singleton, List.map_singleton, String.join_cons, String.join_nil,
        String.append_empty]
    | cons line' rest =>
      rw [String.intercalate_cons_cons, String.append_assoc, ih (List.cons_ne_nil _ _)]
      simp only [List.map_cons, String.join_cons, String.append_assoc]

end Text

open Text

/-! ### Parts of a report -/

theorem Fault.unbroken_message (fault : Fault) : Unbroken fault.message := by
  cases fault with
  | divisionByZero => decide
  | unmatchedClose => decide
  | unmatchedOpen => decide
  | malformed => decide
  | invalidCharacter ch offset =>
    exact .append (.append (.append (by decide) (unbroken_quotedChar ch)) (by decide))
      (unbroken_repr offset)

theorem Response.unbroken_text (r : Response) : Unbroken r.text := by
  unfold text
  split
  · decide
  · exact unbroken_decimal _

theorem Verdict.unbroken_text (v : Verdict) : Unbroken v.text := by
  cases v with
  | pass => decide
  | invalid => decide
  | fail => decide

/-! ### Reports -/

namespace Case

theorem unbroken_expected (result : Except Fault Int64) : Unbroken (expected result) := by
  cases result with
  | ok v => exact unbroken_decimal v.toInt
  | error fault =>
    exact .append (by decide) (unbroken_painted (by decide)
      (.append (.append (by decide) fault.unbroken_message) (by decide)))

/-- **The lines of a report** have no line feed, if the expression has none. -/
theorem unbroken_of_mem_reportLines {c : Case} (h : Unbroken c.expression) :
    ∀ line ∈ c.reportLines, Unbroken line := by
  have hrule : Unbroken rule := by decide
  rw [reportLines]
  simp only [List.forall_mem_cons]
  refine ⟨hrule, .append (by decide) (unbroken_repr _), ?_, .append (by decide) c.response.unbroken_text,
    .append (by decide) (unbroken_expected _), .append (by decide) c.verdict.unbroken_text, hrule, nofun⟩
  exact .append (.append (by decide) h) (by decide)

theorem text_append_newline (c : Case) :
    c.text ++ "\n" = String.join (c.reportLines.map (· ++ "\n")) :=
  intercalate_append_newline (List.cons_ne_nil _ _)

end Case

theorem Summary.unbroken_text (s : Summary) : Unbroken s.text := by
  have hpassed : Unbroken (Nat.repr s.cases.length ++ " cases: " ++ Nat.repr s.passed
      ++ " passed, ") :=
    .append (.append (.append (unbroken_repr _) (by decide)) (unbroken_repr _)) (by decide)
  have hinvalid : Unbroken (Nat.repr s.cases.length ++ " cases: " ++ Nat.repr s.passed
      ++ " passed, " ++ Nat.repr s.invalid ++ " invalid, ") :=
    .append (.append hpassed (unbroken_repr _)) (by decide)
  exact .append (.append hinvalid (unbroken_repr _)) (by decide)

/-! ### Last words -/

theorem Failure.report_of_no_cause (message : String) :
    Failure.report ⟨message, []⟩ = "Error: " ++ message ++ "\n" := by
  rw [report, causeLines, List.map_singleton, String.join_cons, String.join_nil, String.append_empty]

end CalcBench
