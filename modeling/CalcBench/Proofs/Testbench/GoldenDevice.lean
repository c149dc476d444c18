import CalcBench.Proofs.Device.Model
import CalcBench.Proofs.Expression.Received
import CalcBench.Proofs.Testbench.Protocol
import CalcBench.Proofs.Verdict

/-!
# CalcBench.Proofs.Testbench.GoldenDevice — devices that answer what they are given

A testbench feeds the frame of a line and expects the golden response to the line.  A device that
answers frames correctly is judged by the difference of the two, and by the two widths.

* `run_golden_device`: **at its own width** such a device fails the lines of which the frame has
  another golden response, none of them with only skipped characters behind the frame.
* `run_model`: **at any two widths** the verdicts on the software model are those of the widths.
-/

namespace CalcBench

open Expression

/-- From each state in which it is `ready`, the device answers the frame of any line with the golden
response of width `w`, and is ready again. -/
def Device.AnswersGolden {ε σ : Type} (d : Device ε σ) (w : Width) (ready : σ → Prop) : Prop :=
  ∀ s line, ready s → ∃ s', ready s' ∧
    d.Performs s (Testbench.script line) [.golden (evaluate (frameText line)) w] s'

/-- The verdict of a testbench of width `bench` on the golden response of width `device` to the frame
of a line. -/
def Verdict.ofFrame (device bench : Width) (line : String) : Verdict :=
  ofResponses (.golden (evaluate (frameText line)) device) (.golden (evaluate line) bench)

namespace Verdict

theorem ofFrame_of_isGap {line : String} (h : IsGap (remainder line.toList))
    (device bench : Width) : ofFrame device bench line = ofWidths device bench (evaluate line) := by
  rw [ofFrame, evaluate_frameText h, ofResponses_golden]

theorem ofFrame_self_ne_fail {line : String} (h : IsGap (remainder line.toList)) (w : Width) :
    ofFrame w w line ≠ .fail := by
  rw [ofFrame_of_isGap h]
  exact ofWidths_self_ne_fail w _

end Verdict

/-! ### Runs of files -/

namespace Device.AnswersGolden

variable {ε σ : Type} {d : Device ε σ} {w : Width} {ready : σ → Prop}

theorem performs_scripts (h : d.AnswersGolden w ready) {s : σ} (hs : ready s)
    (lines : List String) :
    ∃ s', ready s' ∧ d.Performs s (lines.flatMap Testbench.script)
      (lines.map fun line => Response.golden (evaluate (frameText line)) w) s' := by
  induction lines generalizing s with
  | nil => exact ⟨s, hs, .nil s⟩
  | cons line lines ih =>
    obtain ⟨mid, hmid, hline⟩ := h s line hs
    obtain ⟨s', hs', hlines⟩ := ih hmid
    exact ⟨s', hs', performs_append_iff.mpr ⟨_, mid, _, rfl, hline, hlines⟩⟩

theorem ends_run (h : d.AnswersGolden w ready) {s : σ} (hs : ready s) (t : Testbench)
    (source : String) :
    ∃ summary s', ready s' ∧ (t.run d s source).Ends (.ok summary) s' ∧
      summary.Judges (Text.expressionLines source) (.ofFrame w t.width) := by
  obtain ⟨s', hs', hcalls⟩ := h.performs_scripts hs (Text.expressionLines source)
  obtain ⟨-, hrun⟩ := t.ends_run_of_performs hcalls
  refine ⟨_, s', hs', hrun, ?_⟩
  exact t.map_judged (g := fun line response =>
    (line, Verdict.ofResponses response (.golden (evaluate line) t.width))) (fun _ _ _ => rfl) _ 1 _

end Device.AnswersGolden

/-! ### The software model -/

/-- The model is a device that answers frames correctly at its own width. -/
theorem Model.answersGolden (w : Width) : Model.device.AnswersGolden w (· = ⟨w, {}⟩) := by
  rintro s line rfl
  have hputs : Model.device.Performs ⟨w, {}⟩ (puts (frameBytes line)) []
      (holding w (frameBytes line)) := performs_puts_holding [] (frameBytes line)
  have hlast : (frameBytes line).getLast? = some endMark := by
    obtain ⟨body, hbody, -, -⟩ := exists_frameBytes_eq line
    rw [hbody, List.getLast?_concat]
  obtain ⟨hout, hstate⟩ := get_holding_of_complete (w := w) hlast
  -- the model evaluates Latin-1, the testbench the text: the two agree on the golden response
  rw [frameBytes, golden_latin1_utf8] at hout
  have hget : Model.device.Performs (holding w (frameBytes line)) [.get]
      [.golden (evaluate (frameText line)) w] ⟨w, {}⟩ := by
    refine .get hout ?_
    rw [hstate]
    exact .nil _
  exact ⟨_, rfl, Device.performs_append_iff.mpr ⟨_, _, _, rfl, hputs, hget⟩⟩

namespace Testbench

/-! ### At one width -/

/-- **One width.**  Skipped characters behind the frame leave the golden response of a line as it is.
A device that answers frames correctly therefore fails no such line; of the others it fails those that
have another golden response than their frames.  The software model is such a device. -/
theorem run_golden_device (w : Width) :
    (∀ line : String, IsGap (remainder line.toList) →
      Response.golden (evaluate line) w = .golden (evaluate (frameText line)) w) ∧
    (∀ (ε σ : Type) (d : Device ε σ) (ready : σ → Prop) (s : σ) (source : String),
      d.AnswersGolden w ready → ready s →
        ∃ summary, (run ⟨w⟩ d s source).outcome = .ok summary ∧
          summary.cases.map (·.expression) = Text.expressionLines source ∧
          (∀ c ∈ summary.cases,
            (c.verdict = .fail ↔
              Response.golden (evaluate c.expression) w ≠
                .golden (evaluate (frameText c.expression)) w) ∧
            (IsGap (remainder c.expression.toList) → c.verdict ≠ .fail)) ∧
          ((∀ line ∈ Text.expressionLines source, IsGap (remainder line.toList)) →
            summary.failed = 0)) ∧
    Model.device.AnswersGolden w (· = ⟨w, {}⟩) := by
  refine ⟨fun line h => by rw [evaluate_frameText h], fun ε σ d ready s source h hs => ?_,
    Model.answersGolden w⟩
  obtain ⟨summary, s', -, hrun, hjudges⟩ := h.ends_run hs ⟨w⟩ source
  refine ⟨summary, hrun.1, hjudges.expressions, fun c hc => ?_, fun hall =>
    hjudges.failed_eq_zero fun line hline => Verdict.ofFrame_self_ne_fail (hall line hline) w⟩
  rw [(hjudges.verdict hc).2]
  exact ⟨Verdict.ofResponses_golden_eq_fail_iff, fun hgap => Verdict.ofFrame_self_ne_fail hgap w⟩

theorem run_golden_device_spaced_sum :
    Response.golden (evaluate "2+3= =") .standard = .golden (evaluate "2+3=") .standard ∧
    ∃ summary, (run ⟨.standard⟩ Model.device ⟨.standard, {}⟩ "2+3= =\n4/0\n").outcome = .ok summary ∧
      summary.failed = 0 := by
  obtain ⟨hgolden, hrun, hmodel⟩ := run_golden_device .standard
  have hgap : ∀ line ∈ Text.expressionLines "2+3= =\n4/0\n", IsGap (remainder line.toList) := by
    decide
  obtain ⟨summary, hok, -, -, hfailed⟩ :=
    hrun DeviceError Model Model.device _ ⟨.standard, {}⟩ "2+3= =\n4/0\n" hmodel rfl
  exact ⟨hgolden "2+3= =" (hgap _ (by decide)), summary, hok, hfailed hgap⟩

/-- What stands behind the frame counts for the golden response: the correct answer to `1=` is held
against the fault of `1=2`. -/
theorem run_model_number_behind_frame :
    Response.golden (evaluate "1=2") .standard ≠ .golden (evaluate (frameText "1=2")) .standard ∧
    ∃ summary, (run ⟨.standard⟩ Model.device ⟨.standard, {}⟩ "1=2").outcome = .ok summary ∧
      summary.failed = 1 :=
  ⟨by decide, _, rfl, by decide⟩

/-! ### At two widths -/

/-- **Two widths.**  A model of width `device`, put to a testbench of width `bench`, answers every line
of any file and is as it was.  A line with only skipped characters behind its frame is invalid if it
has no value; otherwise it passes if its value, cut down to the wider register, is in the range of the
narrower one. -/
theorem run_model (device bench : Width) (source : String) :
    ∃ summary, (run ⟨bench⟩ Model.device ⟨device, {}⟩ source).outcome = .ok summary ∧
      (run ⟨bench⟩ Model.device ⟨device, {}⟩ source).state = ⟨device, {}⟩ ∧
      summary.cases.map (·.expression) = Text.expressionLines source ∧
      (∀ c ∈ summary.cases, IsGap (remainder c.expression.toList) →
        (c.verdict = .invalid ↔ ∃ fault, evaluate c.expression = .error fault) ∧
        ∀ v, evaluate c.expression = .ok v →
          (c.verdict = .pass ↔
            -2 ^ (min device.bits bench.bits - 1) ≤ ((device.wider bench).truncate v).toInt ∧
              ((device.wider bench).truncate v).toInt < 2 ^ (min device.bits bench.bits - 1)) ∧
          (c.verdict = .fail ↔
            ¬ (-2 ^ (min device.bits bench.bits - 1) ≤ ((device.wider bench).truncate v).toInt ∧
              ((device.wider bench).truncate v).toInt < 2 ^ (min device.bits bench.bits - 1)))) ∧
      (device = bench →
        (∀ line ∈ Text.expressionLines source, IsGap (remainder line.toList)) →
          summary.failed = 0) := by
  obtain ⟨summary, s', rfl, hrun, hjudges⟩ :=
    (Model.answersGolden device).ends_run rfl ⟨bench⟩ source
  refine ⟨summary, hrun.1, hrun.2, hjudges.expressions, fun c hc hgap => ?_, ?_⟩
  · rw [(hjudges.verdict hc).2, Verdict.ofFrame_of_isGap hgap]
    refine ⟨Verdict.ofWidths_eq_invalid_iff, fun v hv => ?_⟩
    rw [hv, Verdict.ofWidths_ok_eq_fail_iff, Ne, Verdict.ofWidths_ok_eq_pass_iff]
    exact ⟨Iff.rfl, Iff.rfl⟩
  · rintro rfl hall
    exact hjudges.failed_eq_zero fun line hline =>
      Verdict.ofFrame_self_ne_fail (hall line hline) device

theorem run_model_narrow_product :
    ∃ summary, (run ⟨.standard⟩ Model.device ⟨⟨16, by decide, by decide⟩, {}⟩
        "100*1000=\n100*100= \n1+\u00e9\n").outcome = .ok summary ∧
      summary.cases.map (·.verdict) = [.fail, .pass, .invalid] := by
  obtain ⟨summary, hok, -, hlines, hverdicts, -⟩ := run_model ⟨16, by decide, by decide⟩ .standard
    "100*1000=\n100*100= \n1+\u00e9\n"
  have hthree : Text.expressionLines "100*1000=\n100*100= \n1+\u00e9\n" =
      ["100*1000=", "100*100= ", "1+\u00e9"] := by decide
  have hgap : ∀ line ∈ ["100*1000=", "100*100= ", "1+\u00e9"], IsGap (remainder line.toList) := by
    decide
  rw [hthree] at hlines
  obtain ⟨wide, rest, hcases, hwide, hrest⟩ := List.map_eq_cons_iff.mp hlines
  obtain ⟨narrow, rest', rfl, hnarrow, hrest'⟩ := List.map_eq_cons_iff.mp hrest
  obtain ⟨foreign, rest'', rfl, hforeign, hnil⟩ := List.map_eq_cons_iff.mp hrest'
  obtain rfl : rest'' = [] := List.map_eq_nil_iff.mp hnil
  rw [hcases] at hverdicts
  have hfail := hverdicts wide (by simp) (hgap _ (by simp [hwide]))
  have hpass := hverdicts narrow (by simp) (hgap _ (by simp [hnarrow]))
  have hinvalid := hverdicts foreign (by simp) (hgap _ (by simp [hforeign]))
  rw [hwide] at hfail
  rw [hnarrow] at hpass
  rw [hforeign] at hinvalid
  refine ⟨summary, hok, ?_⟩
  rw [hcases, List.map_cons, List.map_cons, List.map_cons, List.map_nil,
    (hfail.2 100000 (by decide)).2.mpr (by decide), (hpass.2 10000 (by decide)).1.mpr (by decide),
    hinvalid.1.mpr ⟨_, rfl⟩]

end Testbench

end CalcBench
