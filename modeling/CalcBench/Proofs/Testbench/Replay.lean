import CalcBench.Proofs.Device.Replay
import CalcBench.Proofs.Testbench.Cases

/-!
# CalcBench.Proofs.Testbench.Replay — runs against recorded responses

A replay looks at no byte and gives its responses in order, one for each case.

* `run_replay_after_calls`: **runs of files** against a replay of which some responses are gone.
-/

namespace CalcBench

namespace Testbench

variable (t : Testbench)

theorem feed_replay (r : Replay) (bytes : List UInt8) :
    feed Replay.device r bytes = .done () r := by
  induction bytes with
  | nil => rfl
  | cons byte rest ih => exact ih

theorem runCase_replay (response : Response) (rest : List Response) (consumed index : Nat)
    (line : String) :
    t.runCase Replay.device ⟨response :: rest, consumed⟩ index line =
      ⟨.ok (t.judge index line response), ⟨rest, consumed + 1⟩,
        caseEvents (t.judge index line response)⟩ := by
  rw [runCase, feed_replay, Exchange.done_andThen]
  rfl

/-- With a response for each line a run gives them out in order and leaves the others. -/
theorem runLines_replay (lines : List String) {given : List Response}
    (h : given.length = lines.length) (rest : List Response) (consumed index : Nat) :
    t.runLines Replay.device ⟨given ++ rest, consumed⟩ index lines =
      ⟨.ok (t.judged index lines given), ⟨rest, consumed + lines.length⟩,
        (t.judged index lines given).flatMap caseEvents⟩ := by
  induction lines generalizing given consumed index with
  | nil =>
    obtain rfl : given = [] := List.eq_nil_of_length_eq_zero h
    rfl
  | cons line lines ih =>
    obtain ⟨response, given, rfl⟩ := List.exists_cons_of_length_eq_add_one h
    have hlen : given.length = lines.length := Nat.succ.inj h
    rw [runLines, List.cons_append, runCase_replay, Exchange.ok_andThen, ih hlen,
      List.length_cons, Nat.add_assoc, Nat.add_comm 1]
    rfl

/-- With fewer responses than lines a run gives all of them out and then fails; the error counts them
with those that were gone before. -/
theorem ends_runLines_exhausted {lines : List String} {given : List Response}
    (h : given.length < lines.length) (consumed index : Nat) :
    (t.runLines Replay.device ⟨given, consumed⟩ index lines).Ends
      (.error (.exhausted (consumed + given.length))) ⟨[], consumed + given.length⟩ := by
  induction given generalizing lines consumed index with
  | nil =>
    obtain ⟨line, rest, rfl⟩ := List.exists_cons_of_length_pos h
    have hcase : (t.runCase Replay.device ⟨[], consumed⟩ index line).Ends
        (.error (.exhausted consumed)) ⟨[], consumed⟩ := by
      rw [runCase, feed_replay, Exchange.done_andThen]
      exact ⟨rfl, rfl⟩
    exact hcase.andThen_error
  | cons response given ih =>
    obtain ⟨line, rest, rfl⟩ := List.exists_cons_of_length_pos (Nat.zero_lt_of_lt h)
    have hcase : (t.runCase Replay.device ⟨response :: given, consumed⟩ index line).Ends
        (.ok (t.judge index line response)) ⟨given, consumed + 1⟩ := by
      rw [runCase_replay]
      exact ⟨rfl, rfl⟩
    have hrest := ih (Nat.lt_of_succ_lt_succ h) (consumed + 1) (index + 1)
    rw [List.length_cons, Nat.add_comm given.length, ← Nat.add_assoc]
    exact hcase.andThen (hrest.map _)

/-! ### Files -/

/-- A run of a file with a response for each line, in full. -/
theorem run_replay_eq (source : String) {given : List Response}
    (h : given.length = (Text.expressionLines source).length) (rest : List Response)
    (consumed : Nat) :
    t.run Replay.device ⟨given ++ rest, consumed⟩ source =
      ⟨.ok ⟨t.judged 1 (Text.expressionLines source) given⟩,
        ⟨rest, consumed + (Text.expressionLines source).length⟩,
        (t.judged 1 (Text.expressionLines source) given).flatMap caseEvents
          ++ [.runDone ⟨t.judged 1 (Text.expressionLines source) given⟩]⟩ := by
  rw [run, t.runLines_replay _ h]
  rfl

/-- A file with no more lines than there are responses takes the first of these, one for each line. -/
theorem ends_run_of_le {r : Replay} {source : String}
    (h : (Text.expressionLines source).length ≤ r.remaining) :
    (t.run Replay.device r source).Ends
      (.ok ⟨t.judged 1 (Text.expressionLines source)
        (r.responses.take (Text.expressionLines source).length)⟩)
      ⟨r.responses.drop (Text.expressionLines source).length,
        r.consumed + (Text.expressionLines source).length⟩ := by
  have hrun := t.run_replay_eq source (List.length_take_of_le h)
    (r.responses.drop (Text.expressionLines source).length) r.consumed
  rw [List.take_append_drop] at hrun
  exact ⟨congrArg Exchange.outcome hrun, congrArg Exchange.state hrun⟩

/-- Responses behind those that a file takes change nothing of its run but what is left. -/
theorem run_replay_surplus {r r' : Replay} {surplus : List Response}
    (hr : r'.responses = r.responses ++ surplus) {source : String}
    (h : (Text.expressionLines source).length ≤ r.remaining) :
    (t.run Replay.device r' source).outcome = (t.run Replay.device r source).outcome ∧
      (t.run Replay.device r' source).events = (t.run Replay.device r source).events := by
  obtain ⟨responses, consumed⟩ := r
  obtain ⟨_, consumed'⟩ := r'
  obtain rfl := hr
  have hlen := List.length_take_of_le h
  have hsplit : responses ++ surplus = responses.take (Text.expressionLines source).length ++
      (responses.drop (Text.expressionLines source).length ++ surplus) := by
    rw [← List.append_assoc, List.take_append_drop]
  have hrun := t.run_replay_eq source hlen
    (responses.drop (Text.expressionLines source).length) consumed
  rw [List.take_append_drop] at hrun
  rw [hsplit, t.run_replay_eq source hlen, hrun]
  exact ⟨rfl, rfl⟩

/-- A file with more lines uses all responses up and fails. -/
theorem ends_run_of_lt {r : Replay} {source : String}
    (h : r.remaining < (Text.expressionLines source).length) :
    (t.run Replay.device r source).Ends (.error (.exhausted (r.consumed + r.remaining)))
      ⟨[], r.consumed + r.remaining⟩ :=
  ((t.ends_runLines_exhausted h r.consumed 1).map Summary.mk).noting _

/-- **Runs of files.**  Let a replay of a trace have given some responses and have others left.  A file is
run to its end exactly if no more lines than responses are left.  Each line then takes the next response,
whatever it says, and is judged by it, and the responses behind these are left.  Otherwise the run fails
when all responses of the trace are gone, and so does every later request, with the same count. -/
theorem run_replay_after_calls (t : Testbench) {trace : String} {start : Replay}
    (h : Replay.ofTrace trace = .ok start) (calls : List Call) (source : String) :
    let given := Replay.device.given start calls
    let left := Replay.device.after start calls
    let lines := Text.expressionLines source
    let run := t.run Replay.device left source
    start.responses = given ++ left.responses ∧
    ((∃ summary, run.outcome = .ok summary) ↔ lines.length ≤ left.remaining) ∧
    (∀ summary, run.outcome = .ok summary →
      summary.cases.map (·.index) = List.range' 1 lines.length ∧
      summary.cases.map (·.expression) = lines ∧
      summary.cases.map (·.response) = left.responses.take lines.length ∧
      (∀ c ∈ summary.cases, c.verdict =
        .ofResponses c.response (.golden (Expression.evaluate c.expression) t.width)) ∧
      run.state.responses = left.responses.drop lines.length ∧
      run.state.remaining = left.remaining - lines.length) ∧
    (left.remaining < lines.length →
      ∃ e, run.outcome = .error e ∧
        e.message = "trace exhausted after " ++ Nat.repr (given.length + left.remaining)
          ++ " responses" ∧
        run.state.remaining = 0 ∧
        ∀ later, (Replay.device.get (Replay.device.after run.state later)).outcome = .error e) := by
  intro given left lines run
  obtain ⟨hresponses, hcount⟩ := Replay.after_calls start calls
  -- a replay starts at zero, so it has counted what the calls were given
  have hconsumed : left.consumed = given.length := by
    rw [hcount, (Replay.ofTrace_eq_ok h).2, Nat.zero_add]
  refine ⟨hresponses, ?_, fun summary hok => ?_, fun hlt => ?_⟩
  · constructor
    · rintro ⟨summary, hok⟩
      by_contra hlt
      cases (t.ends_run_of_lt (Nat.lt_of_not_le hlt)).1.symm.trans hok
    · exact fun hle => ⟨_, (t.ends_run_of_le hle).1⟩
  · have hle : lines.length ≤ left.remaining := by
      by_contra hlt
      cases (t.ends_run_of_lt (Nat.lt_of_not_le hlt)).1.symm.trans hok
    obtain ⟨hout, hstate⟩ := t.ends_run_of_le hle
    obtain rfl := Except.ok.inj (hout.symm.trans hok)
    obtain ⟨hindex, hline, hresponse⟩ := t.parts_judged 1 (List.length_take_of_le hle)
    refine ⟨hindex, hline, hresponse, fun c hc => ?_, congrArg Replay.responses hstate, ?_⟩
    · exact congrArg Case.verdict (t.judge_of_mem_judged hc)
    · exact (congrArg Replay.remaining hstate).trans List.length_drop
  · obtain ⟨hout, hstate⟩ := t.ends_run_of_lt hlt
    refine ⟨_, hout, by rw [hconsumed]; rfl, congrArg Replay.remaining hstate, fun later => ?_⟩
    rw [show run.state = _ from hstate, Replay.after_exhausted]
    rfl

theorem run_replay_after_first_response :
    (∃ summary, (run ⟨.standard⟩ Replay.device
        (Replay.device.after ⟨[⟨false, 1⟩, ⟨true, 0⟩, ⟨false, -3⟩], 0⟩ [.put 0x3D, .get])
        "1/0\n\n2-5 =\n").outcome = .ok summary ∧
      summary.cases.map (·.response) = [⟨true, 0⟩, ⟨false, -3⟩]) ∧
    ∃ e, (run ⟨.standard⟩ Replay.device
        (Replay.device.after ⟨[⟨false, 1⟩, ⟨true, 0⟩, ⟨false, -3⟩], 0⟩ [.get])
        "1\n2\n3\n").outcome = .error e ∧ e.message = "trace exhausted after 3 responses" := by
  have htrace : Replay.ofTrace "1\nfault\n-3" =
      .ok ⟨[⟨false, 1⟩, ⟨true, 0⟩, ⟨false, -3⟩], 0⟩ := by decide
  constructor
  · obtain ⟨-, hiff, hok, -⟩ :=
      run_replay_after_calls ⟨.standard⟩ htrace [.put 0x3D, .get] "1/0\n\n2-5 =\n"
    obtain ⟨summary, hout⟩ := hiff.mpr (by decide)
    obtain ⟨-, -, hresponses, -⟩ := hok summary hout
    exact ⟨summary, hout, hresponses⟩
  · obtain ⟨-, -, -, herror⟩ := run_replay_after_calls ⟨.standard⟩ htrace [.get] "1\n2\n3\n"
    obtain ⟨e, hout, hmessage, -⟩ := herror (by decide)
    exact ⟨e, hout, hmessage⟩

end Testbench

end CalcBench
