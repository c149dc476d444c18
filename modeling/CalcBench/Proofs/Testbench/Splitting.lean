import CalcBench.Device.Model
import CalcBench.Device.Replay
import CalcBench.Proofs.Testbench.Protocol
import CalcBench.Testbench

/-!
# CalcBench.Proofs.Testbench.Splitting — files in two parts

A file may be split where a line ends.  Its parts, run one after the other on one device, make the calls
that the whole makes, so that they come to the same end; only the numbers of the cases start anew with
the second part.

* `run_splits_at_line_end`: **the parts and the whole**, on any device, from any state.
-/

namespace CalcBench

/-! ### Summaries of two runs -/

namespace Summary

/-- The cases of a run and those of the next one, numbered on from the first. -/
def followedBy (a b : Summary) : Summary :=
  ⟨a.cases ++ b.cases.map (Case.renumbered a.cases.length)⟩

theorem count_followedBy (a b : Summary) (v : Verdict) :
    (a.followedBy b).count v = a.count v + b.count v := by
  have hverdicts : (a.followedBy b).cases.map (·.verdict) =
      a.cases.map (·.verdict) ++ b.cases.map (·.verdict) := by
    rw [followedBy, List.map_append, List.map_map]
    rfl
  rw [count_eq, count_eq, count_eq, hverdicts, List.count_append]

end Summary

namespace Testbench

variable {ε σ : Type} {d : Device ε σ} {s s' mid : σ} (t : Testbench)

/-! ### Two parts of a file -/

theorem flatMap_script_append {front : String} (h : front = "" ∨ ∃ body, front = body ++ "\n")
    (back : String) :
    (Text.expressionLines (front ++ back)).flatMap script =
      (Text.expressionLines front).flatMap script ++ (Text.expressionLines back).flatMap script := by
  rw [Text.expressionLines_append h, List.flatMap_append]

/-- Parts whose calls all succeed are judged one behind the other. -/
theorem ends_run_append_of_performs {front back : String}
    (h : front = "" ∨ ∃ body, front = body ++ "\n") {given given' : List Response}
    (hfront : d.Performs s ((Text.expressionLines front).flatMap script) given mid)
    (hback : d.Performs mid ((Text.expressionLines back).flatMap script) given' s') :
    (t.run d s (front ++ back)).Ends
      (.ok (.followedBy ⟨t.judged 1 (Text.expressionLines front) given⟩
        ⟨t.judged 1 (Text.expressionLines back) given'⟩)) s' := by
  have hcalls : d.Performs s ((Text.expressionLines (front ++ back)).flatMap script)
      (given ++ given') s' := by
    rw [flatMap_script_append h]
    exact Device.performs_append_iff.mpr ⟨given, mid, given', rfl, hfront, hback⟩
  have hlen : given.length = (Text.expressionLines front).length := (t.ends_run_of_performs hfront).1
  have hcases : (t.judged 1 (Text.expressionLines front) given).length =
      (Text.expressionLines front).length := by
    rw [← List.length_map (·.expression), (t.parts_judged 1 hlen).2.1]
  obtain ⟨-, hrun⟩ := t.ends_run_of_performs hcalls
  rw [Text.expressionLines_append h, t.judged_append hlen] at hrun
  rw [Summary.followedBy, hcases]
  exact hrun

/-- **The three ways.**  The first part fails, or else the second does on the device as the first left
it, or else there are cases to both. -/
theorem run_append_cases (d : Device ε σ) (s : σ) {front : String}
    (h : front = "" ∨ ∃ body, front = body ++ "\n") (back : String) :
    let first := t.run d s front
    let second := t.run d first.state back
    (∃ e, first.outcome = .error e ∧ (t.run d s (front ++ back)).Ends (.error e) first.state) ∨
    (∃ a e, first.outcome = .ok a ∧ second.outcome = .error e ∧
      (t.run d s (front ++ back)).Ends (.error e) second.state) ∨
    ∃ a b, first.outcome = .ok a ∧ second.outcome = .ok b ∧
      (t.run d s (front ++ back)).Ends (.ok (a.followedBy b)) second.state := by
  intro first second
  rcases Device.performs_or_fails d s ((Text.expressionLines front).flatMap script) with
    ⟨given, mid, hfront⟩ | ⟨made, e, mid, hfront⟩
  · obtain ⟨-, hfirst, hmid⟩ := t.ends_run_of_performs hfront
    have hsecond : second = t.run d mid back := congrArg (t.run d · back) hmid
    rcases Device.performs_or_fails d mid ((Text.expressionLines back).flatMap script) with
      ⟨given', s', hback⟩ | ⟨made, e, s', hback⟩
    · obtain ⟨-, hout, hstate⟩ := t.ends_run_of_performs hback
      rw [hsecond, hstate]
      exact .inr (.inr ⟨_, _, hfirst, hout, t.ends_run_append_of_performs h hfront hback⟩)
    · obtain ⟨hout, hstate⟩ := t.ends_run_of_fails hback
      have hcalls : d.Fails s ((Text.expressionLines (front ++ back)).flatMap script)
          ((Text.expressionLines front).flatMap script ++ made) e s' := by
        rw [flatMap_script_append h]
        exact Device.fails_append_iff.mpr (.inr ⟨given, mid, made, rfl, hfront, hback⟩)
      rw [hsecond, hstate]
      exact .inr (.inl ⟨_, e, hfirst, hout, t.ends_run_of_fails hcalls⟩)
  · obtain ⟨hfirst, hmid⟩ := t.ends_run_of_fails hfront
    have hcalls : d.Fails s ((Text.expressionLines (front ++ back)).flatMap script) made e mid := by
      rw [flatMap_script_append h]
      exact Device.fails_append_iff.mpr (.inl hfront)
    rw [show first.state = mid from hmid]
    exact .inl ⟨e, hfirst, t.ends_run_of_fails hcalls⟩

/-- **Splitting a file.**  Let the first part of a file be empty or end with a line feed.  The whole fails
exactly if the first part does, or the second does on the device as the first left it; the error and the
state of the device are those of the part that fails.  Otherwise the cases are those of the first part and
then those of the second, numbered on; they are counted in either part, and the device is as the second
left it.  The answers to the whole are the answers to the parts. -/
theorem run_splits_at_line_end (t : Testbench) (d : Device ε σ) (s : σ) {front : String}
    (h : front = "" ∨ ∃ body, front = body ++ "\n") (back : String) :
    let first := t.run d s front
    let second := t.run d first.state back
    let whole := t.run d s (front ++ back)
    ((∃ e, whole.outcome = .error e) ↔
      (∃ e, first.outcome = .error e) ∨ ∃ e, second.outcome = .error e) ∧
    (∀ e, first.outcome = .error e → whole.outcome = .error e ∧ whole.state = first.state) ∧
    (∀ a e, first.outcome = .ok a → second.outcome = .error e →
      whole.outcome = .error e ∧ whole.state = second.state) ∧
    (∀ a b, first.outcome = .ok a → second.outcome = .ok b →
      ∃ summary, whole.outcome = .ok summary ∧ whole.state = second.state ∧
        summary.cases = a.cases ++
          b.cases.map (fun c => { c with index := c.index + a.cases.length }) ∧
        summary.passed = a.passed + b.passed ∧ summary.invalid = a.invalid + b.invalid ∧
        summary.failed = a.failed + b.failed) ∧
    ∀ w, AnswerFile.text w (front ++ back) = AnswerFile.text w front ++ AnswerFile.text w back := by
  intro first second whole
  have hanswers : ∀ w, AnswerFile.text w (front ++ back) =
      AnswerFile.text w front ++ AnswerFile.text w back := by
    intro w
    rw [AnswerFile.text, Text.expressionLines_append h, List.map_append, String.join_append]
    rfl
  -- in each of the three ways the outcomes of the parts rule out what the other clauses ask for
  rcases t.run_append_cases d s h back with
    ⟨e, hfirst, hwhole⟩ | ⟨a, e, hfirst, hsecond, hwhole⟩ | ⟨a, b, hfirst, hsecond, hwhole⟩
  · refine ⟨iff_of_true ⟨e, hwhole.1⟩ (.inl ⟨e, hfirst⟩), fun e' he' => ?_, fun a e' ha => ?_,
      fun a b ha => ?_, hanswers⟩
    · cases hfirst.symm.trans he'
      exact hwhole
    · cases hfirst.symm.trans ha
    · cases hfirst.symm.trans ha
  · refine ⟨iff_of_true ⟨e, hwhole.1⟩ (.inr ⟨e, hsecond⟩), fun e' he' => ?_, fun a' e' _ he' => ?_,
      fun a' b _ hb => ?_, hanswers⟩
    · cases hfirst.symm.trans he'
    · cases hsecond.symm.trans he'
      exact hwhole
    · cases hsecond.symm.trans hb
  · refine ⟨iff_of_false ?_ ?_, fun e he => ?_, fun a' e _ he => ?_, fun a' b' ha hb => ?_, hanswers⟩
    · rintro ⟨e, he⟩
      cases hwhole.1.symm.trans he
    · rintro (⟨e, he⟩ | ⟨e, he⟩)
      · cases hfirst.symm.trans he
      · cases hsecond.symm.trans he
    · cases hfirst.symm.trans he
    · cases hsecond.symm.trans he
    · cases hfirst.symm.trans ha
      cases hsecond.symm.trans hb
      exact ⟨_, hwhole.1, hwhole.2, rfl, a.count_followedBy b .pass, a.count_followedBy b .invalid,
        a.count_followedBy b .fail⟩

theorem run_splits_behind_blank_line :
    (∃ summary, (run ⟨.standard⟩ Model.device ⟨.standard, {}⟩ ("2*3\r\n\n" ++ "1/0\n4")).outcome =
        .ok summary ∧
      summary.cases.map (fun c => (c.index, c.expression)) = [(1, "2*3"), (2, "1/0"), (3, "4")] ∧
      summary.passed = 2 ∧ summary.invalid = 1) ∧
    (run ⟨.standard⟩ Replay.device ⟨[.ofValue 6, .faulted], 0⟩ ("2*3\r\n\n" ++ "1/0\n4")).outcome =
      .error (.exhausted 2) ∧
    AnswerFile.text .standard ("2*3\r\n\n" ++ "1/0\n4") = "6\n" ++ "fault\n4\n" := by
  have hends : "2*3\r\n\n" = "" ∨ ∃ body, "2*3\r\n\n" = body ++ "\n" := .inr ⟨"2*3\r\n", by decide⟩
  obtain ⟨-, -, -, hcases, hanswers⟩ :=
    run_splits_at_line_end ⟨.standard⟩ Model.device ⟨.standard, {}⟩ hends "1/0\n4"
  obtain ⟨-, -, hfails, -⟩ := run_splits_at_line_end ⟨.standard⟩ Replay.device
    ⟨[.ofValue 6, .faulted], 0⟩ hends "1/0\n4"
  obtain ⟨summary, hout, -, hsummary, hpassed, hinvalid, -⟩ := hcases _ _ rfl rfl
  refine ⟨⟨summary, hout, ?_, hpassed, hinvalid⟩, (hfails _ _ rfl rfl).1, (hanswers .standard).trans ?_⟩
  · rw [hsummary]
    rfl
  · decide

end Testbench

end CalcBench
