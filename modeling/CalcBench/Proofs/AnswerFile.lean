import CalcBench.Proofs.Device.Trace
import CalcBench.Proofs.Testbench.Replay
import CalcBench.Proofs.Text.Lines
import CalcBench.Proofs.Verdict
import CalcBench.Testbench

/-!
# CalcBench.Proofs.AnswerFile — an answer file is a trace of a correct device

The answers to an expression file, read as a trace and replayed against the same file, meet their
own lines: line splitting, blank lines and the written form of responses agree on both sides.

* `run_replay_answers`: **the round trip**: the run is complete, uses up the trace and judges each
  line by the two widths alone.
-/

namespace CalcBench

namespace AnswerFile

/-- The golden responses to the expression lines of a file, in order. -/
def responses (w : Width) (source : String) : List Response :=
  (Text.expressionLines source).map fun line => Response.golden (Expression.evaluate line) w

theorem toList_text (w : Width) (source : String) :
    (text w source).toList = ((responses w source).map (·.text.toList)).flatMap (· ++ ['\n']) := by
  have hanswer : ∀ line, (answer w line).toList =
      (Response.golden (Expression.evaluate line) w).text.toList ++ ['\n'] := fun line =>
    String.toList_append
  rw [text, String.toList_join, responses, List.map_map, List.flatMap_map, List.flatMap_map]
  simp only [hanswer, Function.comp_apply]

theorem newline_not_mem_text (r : Response) : '\n' ∉ r.text.toList ∧ '\r' ∉ r.text.toList :=
  ⟨fun h => absurd (Response.isWhiteSpace_eq_false_of_mem_text h) (by decide),
    fun h => absurd (Response.isWhiteSpace_eq_false_of_mem_text h) (by decide)⟩

/-- The answer file is a trace; it holds the golden response to each expression line. -/
theorem ofTrace_answers (w : Width) (source : String) :
    Replay.ofTrace (text w source) = .ok ⟨responses w source, 0⟩ := by
  have hlines : Text.lines (text w source).toList =
      (responses w source).map (·.text.toList) := by
    rw [toList_text]
    refine Text.lines_flatMap fun l hl => ?_
    obtain ⟨r, -, rfl⟩ := List.mem_map.mp hl
    exact newline_not_mem_text r
  have hshown : (responses w source).map Response.shown = responses w source := by
    rw [responses, List.map_map]
    exact List.map_congr_left fun line _ => Response.shown_golden _ w
  rw [Replay.ofTrace, Trace.parse, hlines, Trace.parseFrom_text, hshown]
  rfl

/-- What a testbench of width `b` records of a run against the answers of width `a`: for each line
the response is the recorded one, and the verdict is that of the two widths. -/
theorem map_judged_responses (a b : Width) (source : String) :
    ((Testbench.judged ⟨b⟩ 1 (Text.expressionLines source) (responses a source)).map
        fun c => (c.expression, c.response, c.verdict)) =
      (Text.expressionLines source).map fun line =>
        (line, Response.golden (Expression.evaluate line) a,
          Verdict.ofWidths a b (Expression.evaluate line)) := by
  rw [responses, Testbench.map_judged ⟨b⟩ (g := fun line response => (line, response,
    Verdict.ofResponses response (Response.golden (Expression.evaluate line) b)))
    fun _ _ _ => rfl]
  simp only [Verdict.ofResponses_golden]

theorem failed_judged_responses (w : Width) (source : String) :
    Summary.failed ⟨Testbench.judged ⟨w⟩ 1 (Text.expressionLines source) (responses w source)⟩ =
      0 := by
  have hverdicts := congrArg (List.map fun x => x.2.2) (map_judged_responses w w source)
  rw [List.map_map, List.map_map] at hverdicts
  rw [Summary.failed, Summary.count_eq]
  refine (congrArg (List.count Verdict.fail) hverdicts).trans (List.count_eq_zero.mpr ?_)
  intro hmem
  obtain ⟨line, -, hline⟩ := List.mem_map.mp hmem
  exact Verdict.ofWidths_self_ne_fail w _ hline

/-- **Round trip.** The answers of width `a` to a file are a trace with the golden response to each
line that is not blank, in order.  A run of the file against that trace at width `b` is complete,
leaves no response over and judges each line by the two widths alone; where they are the same no
case fails. -/
theorem run_replay_answers (a b : Width) (source : String) :
    ∃ replay summary,
      Replay.ofTrace (text a source) = .ok replay ∧
      replay.responses = (Text.expressionLines source).map
        (fun line => Response.golden (Expression.evaluate line) a) ∧
      (Testbench.run ⟨b⟩ Replay.device replay source).outcome = .ok summary ∧
      (Testbench.run ⟨b⟩ Replay.device replay source).state.remaining = 0 ∧
      (summary.cases.map fun c => (c.expression, c.response, c.verdict)) =
        (Text.expressionLines source).map (fun line =>
          (line, Response.golden (Expression.evaluate line) a,
            Verdict.ofWidths a b (Expression.evaluate line))) ∧
      (a = b → summary.failed = 0 ∧ summary.isSuccess = true) := by
  have hlen : (responses a source).length = (Text.expressionLines source).length :=
    List.length_map _
  have hrun := Testbench.runLines_replay ⟨b⟩ _ hlen [] 0 1
  rw [List.append_nil] at hrun
  refine ⟨⟨responses a source, 0⟩, ⟨_⟩, ofTrace_answers a source, rfl, ?_, ?_,
    map_judged_responses a b source, ?_⟩
  · rw [Testbench.run, hrun]
    rfl
  · rw [Testbench.run, hrun]
    rfl
  · rintro rfl
    have hfailed := failed_judged_responses a source
    exact ⟨hfailed, by rw [Summary.isSuccess, hfailed]; rfl⟩

end AnswerFile

end CalcBench
