import CalcBench.Device.Model
import CalcBench.Device.Replay
import CalcBench.Proofs.Device.Trace
import CalcBench.Proofs.Testbench.Protocol
import CalcBench.Proofs.Verdict

/-!
# CalcBench.Proofs.Testbench.Reporting — what a report shows against what was compared

The verdict of a case holds the response of the device against the golden response, which is cut down
to the register of the testbench.  The report on the case shows the golden value in full instead.

* `Testbench.runCase_shows`: **the report against its verdict**: the two agree, unless the golden value
  does not fit the register and the device gives it either in full or cut down.
-/

namespace CalcBench

/-! ### Texts -/

namespace Text

theorem decimal_injective {m n : Int} (h : decimal m = decimal n) : m = n := by
  have hm := Trace.splitReading_toList_decimal m
  rw [h, Trace.splitReading_toList_decimal n] at hm
  cases hm
  rfl

theorem decimal_ne_of_f_mem {n : Int} {text : String} (h : 'f' ∈ text.toList) : decimal n ≠ text := by
  rintro rfl
  rcases eq_minus_or_isDigit_of_mem_decimal h with hf | hf
  · cases hf
  · cases hf

theorem take_eq_of_append_eq {k : Nat} {a b x y : String} (ha : k ≤ a.toList.length)
    (hb : k ≤ b.toList.length) (h : a ++ x = b ++ y) : a.toList.take k = b.toList.take k := by
  have htake := congrArg (fun text : String => text.toList.take k) h
  simpa only [String.toList_append, List.take_append_of_le_length ha,
    List.take_append_of_le_length hb] using htake

end Text

/-! ### The lines of a report -/

namespace Case

/-- What the lines of a report begin with. -/
def labels : List String :=
  [rule, "Test Case : ", "Expression: \"", "Result    : ", "Expected  : ", "Compare result: "]

/-- The lines of a report, each parted behind its label. -/
def parts (c : Case) : List (String × String) :=
  [(rule, ""),
   ("Test Case : ", Nat.repr c.index),
   ("Expression: \"", c.expression ++ "\""),
   ("Result    : ", c.response.text),
   ("Expected  : ", expected c.golden),
   ("Compare result: ", c.verdict.text),
   (rule, "")]

theorem reportLines_eq (c : Case) : c.reportLines = c.parts.map fun part => part.1 ++ part.2 := by
  have hexpression : "Expression: \"" ++ c.expression ++ "\"" =
      "Expression: \"" ++ (c.expression ++ "\"") := String.append_assoc
  rw [reportLines, hexpression]
  rfl

theorem mem_labels_of_mem_parts {c : Case} {part : String × String} (h : part ∈ c.parts) :
    part.1 ∈ labels := by
  have hall : ∀ label ∈ labels ++ [rule], label ∈ labels := by decide
  exact hall part.1 (List.mem_map_of_mem (f := Prod.fst) h)

/-- No label is taken for another: they differ in their first four letters. -/
theorem eq_of_label_append {a b x y : String} (ha : a ∈ labels) (hb : b ∈ labels)
    (h : a ++ x = b ++ y) : a = b ∧ x = y := by
  have hlong : ∀ label ∈ labels, 4 ≤ label.toList.length := by decide
  have hapart : ∀ a ∈ labels, ∀ b ∈ labels, a.toList.take 4 = b.toList.take 4 → a = b := by decide
  obtain rfl := hapart a ha b hb (Text.take_eq_of_append_eq (hlong a ha) (hlong b hb) h)
  exact ⟨rfl, String.append_right_inj a |>.mp h⟩

theorem mem_reportLines_iff {c : Case} {label content : String} (hl : label ∈ labels) :
    label ++ content ∈ c.reportLines ↔ (label, content) ∈ c.parts := by
  rw [reportLines_eq, List.mem_map]
  constructor
  · rintro ⟨⟨label', content'⟩, hpart, heq⟩
    obtain ⟨rfl, rfl⟩ := eq_of_label_append (mem_labels_of_mem_parts hpart) hl heq
    exact hpart
  · exact fun h => ⟨_, h, rfl⟩

/-- The report has the line with this label and content. -/
def Shows (c : Case) (label content : String) : Prop := label ++ content ∈ c.reportLines

instance (c : Case) (label content : String) : Decidable (c.Shows label content) :=
  inferInstanceAs (Decidable (_ ∈ c.reportLines))

theorem shows_result_iff {c : Case} {content : String} :
    c.Shows "Result    : " content ↔ content = c.response.text := by
  have hrule : "Result    : " ≠ rule := by decide
  rw [Shows, mem_reportLines_iff (by decide)]
  simp [parts, hrule]

theorem shows_expected_iff {c : Case} {content : String} :
    c.Shows "Expected  : " content ↔ content = expected c.golden := by
  have hrule : "Expected  : " ≠ rule := by decide
  rw [Shows, mem_reportLines_iff (by decide)]
  simp [parts, hrule]

theorem shows_compared_iff {c : Case} {content : String} :
    c.Shows "Compare result: " content ↔ content = c.verdict.text := by
  have hrule : "Compare result: " ≠ rule := by decide
  rw [Shows, mem_reportLines_iff (by decide)]
  simp [parts, hrule]

/-! ### What a report tells -/

/-- The report shows the same outcome as result and as expectation: a fault twice, or a number. -/
def ShowsSameOutcome (c : Case) : Prop :=
  (c.Shows "Result    : " "fault" ∧ ∃ detail, c.Shows "Expected  : " ("fault" ++ detail)) ∨
    ∃ n : Int, c.Shows "Result    : " (Text.decimal n) ∧ c.Shows "Expected  : " (Text.decimal n)

/-- The report shows a failure. -/
def ShowsFail (c : Case) : Prop := c.Shows "Compare result: " Verdict.fail.text

theorem showsFail_iff {c : Case} : c.ShowsFail ↔ c.verdict = .fail := by
  rw [ShowsFail, shows_compared_iff]
  constructor
  · intro h
    cases hv : c.verdict with
    | pass =>
      rw [hv] at h
      exact absurd h (by decide)
    | invalid =>
      rw [hv] at h
      exact absurd h (by decide)
    | fail => rfl
  · intro h
    rw [h]

theorem eq_fault_append_expected_iff {golden : Except Fault Int64} :
    (∃ detail, "fault" ++ detail = expected golden) ↔ ∃ fault, golden = .error fault := by
  cases golden with
  | ok v =>
    refine iff_of_false ?_ nofun
    rintro ⟨detail, h⟩
    have hf : 'f' ∈ ("fault" ++ detail).toList := by simp
    exact Text.decimal_ne_of_f_mem hf h.symm
  | error fault =>
    have hword : "fault " = "fault" ++ " " := by decide
    refine iff_of_true ⟨" " ++ Text.painted "38;5;244" ("(" ++ fault.message ++ ")"), ?_⟩ ⟨fault, rfl⟩
    rw [expected, hword]
    exact String.append_assoc.symm

theorem decimal_eq_expected_iff {golden : Except Fault Int64} {n : Int} :
    Text.decimal n = expected golden ↔ ∃ v, golden = .ok v ∧ v.toInt = n := by
  cases golden with
  | ok v =>
    constructor
    · exact fun h => ⟨v, rfl, (Text.decimal_injective h).symm⟩
    · rintro ⟨v', hv, rfl⟩
      cases hv
      rfl
  | error fault =>
    have hf : 'f' ∈ (expected (.error fault)).toList := by simp [expected]
    exact iff_of_false (Text.decimal_ne_of_f_mem hf) nofun

end Case

theorem Response.text_eq_fault_iff {r : Response} : "fault" = r.text ↔ r.fault = true := by
  rw [text]
  split
  · next h => exact iff_of_true rfl h
  · next h => exact iff_of_false (Text.decimal_ne_of_f_mem (by decide)).symm h

theorem Response.decimal_eq_text_iff {r : Response} {n : Int} :
    Text.decimal n = r.text ↔ r.fault = false ∧ r.value.toInt = n := by
  rw [text]
  split
  · next h => exact iff_of_false (Text.decimal_ne_of_f_mem (by decide)) fun hr => by simp [h] at hr
  · next h =>
    rw [Bool.not_eq_true] at h
    exact ⟨fun hn => ⟨h, (Text.decimal_injective hn).symm⟩, fun ⟨_, hn⟩ => by rw [hn]⟩

theorem Response.text_eq_text_iff {r r' : Response} : r.text = r'.text ↔ r.shown = r'.shown := by
  have htext : ∀ r : Response, r.shown.text = r.text := by
    intro r
    unfold shown
    split
    · next h => exact text_eq_fault_iff.mpr h
    · rfl
  exact ⟨Trace.shown_eq_of_text_eq, fun h => by rw [← htext r, h, htext]⟩

/-- What is expected of a device is a fault, or the value cut down. -/
theorem Response.text_eq_golden_iff {r : Response} {result : Except Fault Int64} {w : Width} :
    r.text = (golden result w).text ↔
      (r.fault = true ∧ ∃ fault, result = .error fault) ∨
        r.fault = false ∧ ∃ v, result = .ok v ∧ r.value = w.truncate v := by
  rw [eq_comm]
  cases result with
  | ok v =>
    have hvalue : (golden (.ok v) w).text = Text.decimal (w.truncate v).toInt := rfl
    rw [hvalue, decimal_eq_text_iff, Int64.toInt_inj]
    simp
  | error fault =>
    have hword : (golden (.error fault) w).text = "fault" := rfl
    rw [hword, text_eq_fault_iff]
    simp

/-- A fault twice, or the value of the device is the golden one in full. -/
theorem Case.showsSameOutcome_iff {c : Case} :
    c.ShowsSameOutcome ↔
      (c.response.fault = true ∧ ∃ fault, c.golden = .error fault) ∨
        c.response.fault = false ∧ c.golden = .ok c.response.value := by
  simp only [ShowsSameOutcome, shows_result_iff, shows_expected_iff, eq_fault_append_expected_iff,
    decimal_eq_expected_iff, Response.text_eq_fault_iff, Response.decimal_eq_text_iff]
  refine or_congr Iff.rfl ⟨?_, ?_⟩
  · rintro ⟨n, ⟨hclear, rfl⟩, v, hv, heq⟩
    rw [Int64.toInt_inj.mp heq] at hv
    exact ⟨hclear, hv⟩
  · rintro ⟨hclear, hv⟩
    exact ⟨_, ⟨hclear, rfl⟩, _, hv, rfl⟩

/-- To give a value in full and to give it cut down are one for a device, unless the register cannot
hold the value and the device does either. -/
theorem Response.full_iff_truncated_iff {r : Response} {w : Width} {v : Int64} :
    (r.fault = false ∧ v = r.value ↔ r.fault = false ∧ r.value = w.truncate v) ↔
      ¬ (w.truncate v ≠ v ∧ r.fault = false ∧ (r.value = v ∨ r.value = w.truncate v)) := by
  by_cases hfits : w.truncate v = v
  · rw [hfits]
    exact iff_of_true (and_congr Iff.rfl eq_comm) fun ⟨hne, _⟩ => hne rfl
  · have hone : r.value = v → r.value ≠ w.truncate v :=
      fun hfull hcut => hfits (hcut.symm.trans hfull)
    constructor
    · rintro hagree ⟨-, hclear, hfull | hcut⟩
      · exact hone hfull (hagree.mp ⟨hclear, hfull.symm⟩).2
      · exact hone (hagree.mpr ⟨hclear, hcut⟩).2.symm hcut
    · intro hnone
      exact iff_of_false (fun ⟨hclear, hfull⟩ => hnone ⟨hfits, hclear, .inl hfull.symm⟩)
        fun ⟨hclear, hcut⟩ => hnone ⟨hfits, hclear, .inr hcut⟩

namespace Testbench

variable {ε σ : Type}

/-- **Reports.**  On any device, whatever is reported of a line: the verdict shown is a failure exactly if
the device does not show the golden response of the register's width.  The expectation shown is the value
of the line in full.  So the report shows one outcome twice if and only if it shows no failure, except
where the value does not fit the register and the device gives it in full, or cut down. -/
theorem runCase_shows (t : Testbench) (d : Device ε σ) (s : σ) (index : Nat) (line : String) (c : Case)
    (h : (t.runCase d s index line).outcome = .ok c) :
    (c.ShowsFail ↔ c.response.text ≠ (Response.golden (Expression.evaluate line) t.width).text) ∧
    (∀ n : Int, c.Shows "Expected  : " (Text.decimal n) ↔
      ∃ v, Expression.evaluate line = .ok v ∧ v.toInt = n) ∧
    ((c.ShowsSameOutcome ↔ ¬ c.ShowsFail) ↔
      ¬ ∃ v, Expression.evaluate line = .ok v ∧ t.width.truncate v ≠ v ∧ c.response.fault = false ∧
        (c.response.value = v ∨ c.response.value = t.width.truncate v)) := by
  have hcase : c = t.judge index line c.response := t.eq_judge_of_runCase_eq_ok h
  have hgolden : c.golden = Expression.evaluate line := congrArg Case.golden hcase
  have hverdict : c.verdict =
      .ofResponses c.response (.golden (Expression.evaluate line) t.width) :=
    congrArg Case.verdict hcase
  have hfail : c.ShowsFail ↔
      c.response.text ≠ (Response.golden (Expression.evaluate line) t.width).text := by
    rw [Case.showsFail_iff, hverdict, Verdict.ofResponses_eq_fail_iff, Ne, Ne,
      Response.text_eq_text_iff]
  refine ⟨hfail, fun n => ?_, ?_⟩
  · rw [Case.shows_expected_iff, Case.decimal_eq_expected_iff, hgolden]
  · rw [hfail, Case.showsSameOutcome_iff, hgolden, not_ne_iff, Response.text_eq_golden_iff]
    cases Expression.evaluate line with
    | error fault => simp
    | ok v =>
      -- the value is shown in full and compared cut down
      simp only [reduceCtorEq, exists_false, and_false, false_or, Except.ok.injEq, exists_eq_left']
      exact Response.full_iff_truncated_iff

/-- A correct device of 8 bits passes the sum 300 as 44, next to the expectation 300; a wrong one that
gives 300 fails next to the same expectation. -/
theorem runCase_shows_narrow_sum :
    (∃ c, (runCase ⟨⟨8, by decide, by decide⟩⟩ Model.device ⟨⟨8, by decide, by decide⟩, {}⟩ 1
        "200+100=").outcome = .ok c ∧
      c.Shows "Result    : " "44" ∧ c.Shows "Expected  : " "300" ∧ ¬ c.ShowsSameOutcome ∧
      ¬ c.ShowsFail) ∧
    ∃ c, (runCase ⟨⟨8, by decide, by decide⟩⟩ Replay.device ⟨[.ofValue 300], 0⟩ 1
        "200+100=").outcome = .ok c ∧
      c.Shows "Result    : " "300" ∧ c.Shows "Expected  : " "300" ∧ c.ShowsSameOutcome ∧
      c.ShowsFail := by
  have hsum : Expression.evaluate "200+100=" = .ok 300 := by decide
  constructor
  · refine ⟨judge ⟨⟨8, by decide, by decide⟩⟩ 1 "200+100=" (.ofValue 44), rfl, by decide, by decide, ?_⟩
    obtain ⟨hfail, -, hagree⟩ := runCase_shows ⟨⟨8, by decide, by decide⟩⟩ Model.device
      ⟨⟨8, by decide, by decide⟩, {}⟩ 1 "200+100=" _ rfl
    rw [hsum] at hfail
    have hpass := (not_congr hfail).mpr (by decide)
    exact ⟨fun hsame => hagree.mp (iff_of_true hsame hpass) ⟨300, hsum, by decide, rfl, .inr (by decide)⟩,
      hpass⟩
  · refine ⟨judge ⟨⟨8, by decide, by decide⟩⟩ 1 "200+100=" (.ofValue 300), rfl, by decide, by decide, ?_⟩
    obtain ⟨hfail, -, hagree⟩ := runCase_shows ⟨⟨8, by decide, by decide⟩⟩ Replay.device
      ⟨[.ofValue 300], 0⟩ 1 "200+100=" _ rfl
    rw [hsum] at hfail
    have hfailed := hfail.mpr (by decide)
    refine ⟨?_, hfailed⟩
    by_contra hsame
    exact hagree.mp (iff_of_false hsame (not_not_intro hfailed))
      ⟨300, hsum, by decide, rfl, .inl (by decide)⟩

end Testbench

end CalcBench
