import CalcBench.CommandLine.Outcome
import CalcBench.Proofs.Device.TraceForm
import CalcBench.Proofs.Report
import CalcBench.Proofs.Testbench.GoldenDevice
import CalcBench.Proofs.Testbench.Replay

/-!
# CalcBench.Proofs.CommandLine.Check — the checker prints all or nothing

The checker has two ways to end.  If it cannot run all cases, because a file is not to be read or the
trace does not serve, it fails and prints nothing.  Otherwise it prints the reports on all cases and
the summary, and the verdicts decide how it ends.

* `Check.onDisk_cases`: **the two ways to end**.
* `Tool.check_prints_all_or_nothing`: **what is printed, and the exit status**.
-/

namespace CalcBench.CommandLine

open Text

/-! ### Files that are no text -/

theorem exists_decode_eq_error_iff {bytes : ByteArray} :
    (∃ e, FileError.decode bytes = .error e) ↔ String.fromUTF8? bytes = none := by
  rw [FileError.decode]
  cases String.fromUTF8? bytes with
  | none => exact iff_of_true ⟨_, rfl⟩ rfl
  | some text => exact iff_of_false nofun nofun

/-- The file at a path cannot be read, or its bytes are no UTF-8. -/
def Disk.HasNoText (d : Disk) (path : String) : Prop :=
  (∃ e, d.read path = .error e) ∨ ∃ bytes, d.read path = .ok bytes ∧ String.fromUTF8? bytes = none

theorem Disk.hasNoText_iff {d : Disk} {path : String} :
    d.HasNoText path ↔ ∃ e, d.readText path = .error e := by
  unfold HasNoText readText
  cases d.read path with
  | error e => exact iff_of_true (.inl ⟨e, rfl⟩) ⟨e, rfl⟩
  | ok bytes =>
    rw [Expression.ok_bind, exists_decode_eq_error_iff]
    constructor
    · rintro (⟨e, h⟩ | ⟨_, h, hnone⟩)
      · cases h
      · cases h
        exact hnone
    · exact fun hnone => .inr ⟨bytes, rfl, hnone⟩

theorem Disk.not_hasNoText_of_readText {d : Disk} {path text : String}
    (h : d.readText path = .ok text) : ¬d.HasNoText path := by
  rw [hasNoText_iff, h]
  exact nofun

namespace Check

/-! ### What comes of the files -/

/-- The cases cannot all be run: the input is no text, or a trace is given that is no text, has an
offending line or has fewer responses than the input has expressions. -/
def CannotRun (s : Settings) (d : Disk) : Prop :=
  d.HasNoText s.input ∨
    ∃ path, s.file = some path ∧
      (d.HasNoText path ∨
        ∃ trace, d.readText path = .ok trace ∧
          ((∃ line ∈ lines trace.toList, ¬Trace.IsTraceLine line) ∨
            ∃ replay source, Replay.ofTrace trace = .ok replay ∧ d.readText s.input = .ok source ∧
              replay.remaining < (expressionLines source).length))

/-- The cases of `source` run to the end with this summary, on the trace that is given or else on the
model. -/
def Completes (s : Settings) (d : Disk) (source : String) (summary : Summary) : Prop :=
  match s.file with
  | none => (Testbench.run ⟨s.width⟩ Model.device ⟨s.width, {}⟩ source).outcome = .ok summary
  | some path =>
    ∃ trace replay, d.readText path = .ok trace ∧ Replay.ofTrace trace = .ok replay ∧
      (Testbench.run ⟨s.width⟩ Replay.device replay source).outcome = .ok summary

/-- A text of which a line offends is no trace. -/
theorem exists_not_isTraceLine_iff {trace : String} :
    (∃ line ∈ lines trace.toList, ¬Trace.IsTraceLine line) ↔
      ∃ e, Replay.ofTrace trace = .error e := by
  cases htrace : Replay.ofTrace trace with
  | error e =>
    refine iff_of_true ?_ ⟨e, rfl⟩
    by_contra hnone
    have hall : ∀ line ∈ lines trace.toList, Trace.IsTraceLine line := fun line hline =>
      by_contra fun hoffends => hnone ⟨line, hline, hoffends⟩
    obtain ⟨replay, h⟩ := Replay.exists_ofTrace_eq_ok_iff.mpr hall
    cases htrace.symm.trans h
  | ok replay =>
    refine iff_of_false ?_ nofun
    rintro ⟨line, hline, hoffends⟩
    exact hoffends (Replay.exists_ofTrace_eq_ok_iff.mp ⟨replay, htrace⟩ line hline)

/-! ### The two ways to end -/

/-- The end of the checker on a complete run. -/
def complete (summary : Summary) (log : String) : Outcome :=
  if summary.isSuccess then ⟨0, stdout summary, log⟩
  else .ofFailure (stdout summary) log (casesFailed summary)

/-- The checker on a disk comes to a complete run of its input. -/
def RunsThrough (s : Settings) (d : Disk) : Prop :=
  ∃ source summary log, d.readText s.input = .ok source ∧ Completes s d source summary ∧
    onDisk s d = complete summary log

/-- The checker on a disk fails without output. -/
def FailsSilently (s : Settings) (d : Disk) : Prop := ∃ log f, onDisk s d = .ofFailure "" log f

section Outcomes

variable {s : Settings} {trace : Except FileError String} {source : String} {device : Option Replay}

theorem outcome_of_run_eq_ok (hdevice : replay s trace = .ok device) {summary : Summary}
    (hrun : (run s.width device source).1 = .ok summary) :
    ∃ log, outcome s (.ok source) trace = complete summary log := by
  refine ⟨s.log (.checking s.input s.width :: (run s.width device source).2), ?_⟩
  simp only [outcome, hdevice, hrun]
  rfl

theorem outcome_of_run_eq_error (hdevice : replay s trace = .ok device) {e : DeviceError}
    (hrun : (run s.width device source).1 = .error e) :
    ∃ log, outcome s (.ok source) trace = .ofFailure "" log ⟨e.message, []⟩ := by
  refine ⟨s.log (.checking s.input s.width :: (run s.width device source).2), ?_⟩
  simp only [outcome, hdevice, hrun]

theorem outcome_of_replay_eq_error {f : Failure} (hdevice : replay s trace = .error f) :
    outcome s (.ok source) trace = .ofFailure "" "" f := by
  simp only [outcome, hdevice]

theorem outcome_congr {trace' : Except FileError String} {device' : Option Replay}
    (hdevice : replay s trace = .ok device) (hdevice' : replay s trace' = .ok device')
    (hrun : run s.width device' source = run s.width device source) :
    outcome s (.ok source) trace' = outcome s (.ok source) trace := by
  simp only [outcome, hdevice, hdevice', hrun]

end Outcomes

/-- Without a trace the cases run to the end on the model. -/
theorem runsThrough_of_model {s : Settings} {d : Disk} {source : String} (hfile : s.file = none)
    (hinput : d.readText s.input = .ok source) : ¬CannotRun s d ∧ RunsThrough s d := by
  obtain ⟨summary, _, _, hrun, _⟩ := (Model.answersGolden s.width).ends_run rfl ⟨s.width⟩ source
  have hdevice : replay s (.error .notFound) = .ok none := by rw [replay, hfile]
  obtain ⟨log, hout⟩ := outcome_of_run_eq_ok hdevice hrun.1
  refine ⟨?_, source, summary, log, hinput, by rw [Completes, hfile]; exact hrun.1, ?_⟩
  · rintro (hno | ⟨path, hpath, -⟩)
    · exact Disk.not_hasNoText_of_readText hinput hno
    · cases hfile.symm.trans hpath
  · rw [onDisk, hinput, hfile]
    exact hout

section Traces

variable {s : Settings} {d : Disk} {source path : String}

theorem onDisk_of_file (hfile : s.file = some path) (hinput : d.readText s.input = .ok source) :
    onDisk s d = outcome s (.ok source) (d.readText path) := by
  rw [onDisk, hinput, hfile]

theorem replay_eq_ok {trace : String} {r : Replay} (hfile : s.file = some path)
    (hr : Replay.ofTrace trace = .ok r) : replay s (.ok trace) = .ok (some r) := by
  rw [replay, hfile]
  simp only [Replay.ofFile, hr]
  rfl

theorem exists_replay_eq_error {trace : Except FileError String} (hfile : s.file = some path)
    (h : ∀ text, trace = .ok text → ∃ e, Replay.ofTrace text = .error e) :
    ∃ f, replay s trace = .error f := by
  rw [replay, hfile]
  cases trace with
  | error e => exact ⟨_, rfl⟩
  | ok text =>
    obtain ⟨e, he⟩ := h text rfl
    simp only [Replay.ofFile, he]
    exact ⟨_, rfl⟩

/-- On a trace with enough responses the cases run to the end. -/
theorem runsThrough_of_trace {trace : String} {r : Replay} (hfile : s.file = some path)
    (hinput : d.readText s.input = .ok source) (htrace : d.readText path = .ok trace)
    (hr : Replay.ofTrace trace = .ok r) (hle : (expressionLines source).length ≤ r.remaining) :
    ¬CannotRun s d ∧ RunsThrough s d := by
  obtain ⟨summary, hrun⟩ :
      ∃ summary, (Testbench.run ⟨s.width⟩ Replay.device r source).outcome = .ok summary :=
    ⟨_, (Testbench.ends_run_of_le ⟨s.width⟩ hle).1⟩
  obtain ⟨log, hout⟩ := outcome_of_run_eq_ok (replay_eq_ok hfile hr) hrun
  refine ⟨?_, source, summary, log, hinput, ?_, ?_⟩
  · rintro (hno | ⟨path', hpath, hno | ⟨trace', htrace', hoffends | ⟨r', source', hr', hinput', hlt⟩⟩⟩)
    · exact Disk.not_hasNoText_of_readText hinput hno
    · cases hfile.symm.trans hpath
      exact Disk.not_hasNoText_of_readText htrace hno
    · cases hfile.symm.trans hpath
      cases htrace.symm.trans htrace'
      obtain ⟨e, he⟩ := exists_not_isTraceLine_iff.mp hoffends
      cases hr.symm.trans he
    · cases hfile.symm.trans hpath
      cases htrace.symm.trans htrace'
      cases hr.symm.trans hr'
      cases hinput.symm.trans hinput'
      exact Nat.not_le_of_lt hlt hle
  · rw [Completes, hfile]
    exact ⟨trace, r, htrace, hr, hrun⟩
  · rw [onDisk_of_file hfile hinput, htrace]
    exact hout

/-- On a trace with too few responses the run fails when they are used up. -/
theorem failsSilently_of_trace {trace : String} {r : Replay} (hfile : s.file = some path)
    (hinput : d.readText s.input = .ok source) (htrace : d.readText path = .ok trace)
    (hr : Replay.ofTrace trace = .ok r) (hlt : r.remaining < (expressionLines source).length) :
    FailsSilently s d := by
  have hrun := Testbench.ends_run_of_lt ⟨s.width⟩ hlt
  obtain ⟨log, hout⟩ := outcome_of_run_eq_error (replay_eq_ok hfile hr) hrun.1
  rw [FailsSilently, onDisk_of_file hfile hinput, htrace]
  exact ⟨log, _, hout⟩

theorem failsSilently_of_no_trace (hfile : s.file = some path)
    (hinput : d.readText s.input = .ok source)
    (h : ∀ text, d.readText path = .ok text → ∃ e, Replay.ofTrace text = .error e) :
    FailsSilently s d := by
  obtain ⟨f, hdevice⟩ := exists_replay_eq_error hfile h
  exact ⟨"", f, (onDisk_of_file hfile hinput).trans (outcome_of_replay_eq_error hdevice)⟩

end Traces

/-- **The two ways to end.**  The checker fails without output if the cases cannot all be run, and else
it comes to a complete run. -/
theorem onDisk_cases (s : Settings) (d : Disk) :
    CannotRun s d ∧ FailsSilently s d ∨ ¬CannotRun s d ∧ RunsThrough s d := by
  -- the cases are those of the checker, in the order in which it looks at its files
  cases hinput : d.readText s.input with
  | error e =>
    refine .inl ⟨.inl (Disk.hasNoText_iff.mpr ⟨e, hinput⟩), "", e.failure "read file" s.input, ?_⟩
    rw [onDisk, hinput]
    rfl
  | ok source =>
    cases hfile : s.file with
    | none => exact .inr (runsThrough_of_model hfile hinput)
    | some path =>
      cases htrace : d.readText path with
      | error e =>
        have hnone : ∀ text, d.readText path = .ok text → ∃ e, Replay.ofTrace text = .error e :=
          fun text h => nomatch htrace.symm.trans h
        exact .inl ⟨.inr ⟨path, hfile, .inl (Disk.hasNoText_iff.mpr ⟨e, htrace⟩)⟩,
          failsSilently_of_no_trace hfile hinput hnone⟩
      | ok trace =>
        cases hr : Replay.ofTrace trace with
        | error e =>
          have hnone : ∀ text, d.readText path = .ok text → ∃ e, Replay.ofTrace text = .error e :=
            fun text h => ⟨e, Except.ok.inj (htrace.symm.trans h) ▸ hr⟩
          exact .inl ⟨.inr ⟨path, hfile, .inr ⟨trace, htrace,
            .inl (exists_not_isTraceLine_iff.mpr ⟨e, hr⟩)⟩⟩,
            failsSilently_of_no_trace hfile hinput hnone⟩
        | ok r =>
          rcases Nat.lt_or_ge r.remaining (expressionLines source).length with hlt | hle
          · exact .inl ⟨.inr ⟨path, hfile, .inr ⟨trace, htrace, .inr ⟨r, source, hr, hinput, hlt⟩⟩⟩,
              failsSilently_of_trace hfile hinput htrace hr hlt⟩
          · exact .inr (runsThrough_of_trace hfile hinput htrace hr hle)

/-! ### Responses that are over -/

/-- The second disk has the same input, and a trace with further responses behind those on the first. -/
def ExtendsTrace (s : Settings) (d d' : Disk) : Prop :=
  d'.readText s.input = d.readText s.input ∧
    ∃ path trace trace' r r' surplus, s.file = some path ∧
      d.readText path = .ok trace ∧ Replay.ofTrace trace = .ok r ∧
      d'.readText path = .ok trace' ∧ Replay.ofTrace trace' = .ok r' ∧
      r'.responses = r.responses ++ surplus

/-- Responses behind those that are used change nothing. -/
theorem onDisk_of_extendsTrace {s : Settings} {d d' : Disk} (h : ExtendsTrace s d d')
    (hcan : ¬CannotRun s d) : onDisk s d' = onDisk s d := by
  obtain ⟨hinput', path, trace, trace', r, r', surplus, hfile, htrace, hr, htrace', hr', hsurplus⟩ := h
  cases hinput : d.readText s.input with
  | error e => exact absurd (.inl (Disk.hasNoText_iff.mpr ⟨e, hinput⟩)) hcan
  | ok source =>
    have hle : (expressionLines source).length ≤ r.remaining := by
      by_contra hlt
      exact hcan (.inr ⟨path, hfile, .inr ⟨trace, htrace, .inr
        ⟨r, source, hr, hinput, Nat.lt_of_not_le hlt⟩⟩⟩)
    obtain ⟨hout, hevents⟩ := Testbench.run_replay_surplus ⟨s.width⟩ hsurplus hle
    rw [onDisk_of_file hfile hinput, onDisk_of_file hfile (hinput'.trans hinput), htrace, htrace']
    exact outcome_congr (replay_eq_ok hfile hr) (replay_eq_ok hfile hr') (Prod.ext hout hevents)

/-! ### What is printed -/

def printed (summary : Summary) : List String :=
  summary.cases.flatMap Case.reportLines ++ [summary.text]

theorem stdout_eq (summary : Summary) :
    stdout summary = String.join ((printed summary).map (· ++ "\n")) := by
  have hreports : String.join (summary.cases.map (·.text ++ "\n")) =
      String.join ((summary.cases.flatMap Case.reportLines).map (· ++ "\n")) := by
    simp only [Case.text_append_newline]
    rw [← String.toList_inj]
    simp only [String.toList_join, List.flatMap_map, List.flatMap_assoc]
  rw [stdout, hreports, printed, List.map_append, String.join_append, String.append_assoc,
    List.map_singleton, String.join_cons, String.join_nil, String.append_empty]

theorem length_printed (summary : Summary) :
    (printed summary).length = 7 * summary.cases.length + 1 := by
  have hreport : ∀ c : Case, c.reportLines.length = 7 := fun _ => rfl
  rw [printed, List.length_append, List.length_flatMap]
  simp [hreport, Nat.mul_comm]

theorem stdout_ne_empty (summary : Summary) : stdout summary ≠ "" := by
  intro h
  have hlen := congrArg String.length h
  rw [stdout, String.length_append] at hlen
  exact Nat.succ_ne_zero _ hlen

/-- A complete run has one case for each line of the input, in order. -/
theorem Completes.cases {s : Settings} {d : Disk} {source : String} {summary : Summary}
    (h : Completes s d source summary) :
    summary.cases.map (·.index) = List.range' 1 (expressionLines source).length ∧
      summary.cases.map (·.expression) = expressionLines source := by
  obtain ⟨given, hlen, rfl⟩ : ∃ given : List Response,
      given.length = (expressionLines source).length ∧
        summary = ⟨(⟨s.width⟩ : Testbench).judged 1 (expressionLines source) given⟩ := by
    unfold Completes at h
    split at h
    · exact Testbench.exists_judged_of_run_eq_ok _ h
    · obtain ⟨_, _, -, -, hrun⟩ := h
      exact Testbench.exists_judged_of_run_eq_ok _ hrun
  obtain ⟨hindex, hline, -⟩ := (⟨s.width⟩ : Testbench).parts_judged 1 hlen
  exact ⟨hindex, hline⟩

theorem Completes.length_cases {s : Settings} {d : Disk} {source : String} {summary : Summary}
    (h : Completes s d source summary) : summary.cases.length = (expressionLines source).length := by
  rw [← h.cases.2, List.length_map]

theorem Completes.unbroken_of_mem_printed {s : Settings} {d : Disk} {source : String}
    {summary : Summary} (h : Completes s d source summary) :
    ∀ line ∈ printed summary, Unbroken line := by
  intro line hline
  rcases List.mem_append.mp hline with hline | hline
  · obtain ⟨c, hc, hline⟩ := List.mem_flatMap.mp hline
    have hexpression : c.expression ∈ expressionLines source :=
      h.cases.2 ▸ List.mem_map_of_mem hc
    exact Case.unbroken_of_mem_reportLines (unbroken_of_mem_expressionLines hexpression) line hline
  · rw [List.mem_singleton.mp hline]
    exact summary.unbroken_text

/-- A complete run succeeds exactly if no case fails, and otherwise the last words count the cases that
fail. -/
theorem exit_complete (summary : Summary) (log : String) :
    ((complete summary log).exit = 0 ↔ ∀ c ∈ summary.cases, c.verdict ≠ .fail) ∧
      ((complete summary log).exit ≠ 0 →
        (complete summary log).exit = 1 ∧ (complete summary log).stderr =
          log ++ ("Error: " ++ (Nat.repr summary.failed ++ " of "
            ++ Nat.repr summary.cases.length ++ " cases failed") ++ "\n")) := by
  rw [← Summary.isSuccess_iff, complete]
  split
  · next hsuccess => exact ⟨iff_of_true rfl hsuccess, fun h => absurd rfl h⟩
  · next hfails =>
    refine ⟨iff_of_false Nat.one_ne_zero hfails, fun _ => ⟨rfl, ?_⟩⟩
    rw [Outcome.ofFailure, casesFailed, Failure.report_of_no_cause]

theorem stdout_complete (summary : Summary) (log : String) :
    (complete summary log).stdout = stdout summary := by
  rw [complete]
  split <;> rfl

end Check

namespace Tool

/-! ### The checker as a whole -/

theorem onDisk_check {arguments : List String} {s : Settings}
    (hs : Tool.check.settings arguments = .ok s) (d : Disk) :
    (Tool.check.onDisk arguments d).1 = Check.onDisk s d := by
  rw [onDisk, hs]

/-- **What is printed, and the exit status.**  The checker with valid arguments prints nothing and fails
exactly if the cases cannot all be run.  Otherwise it prints seven lines on each case, in the order of the
lines of its input, and one of summary; it succeeds exactly if no case fails, and a failure counts the
cases that do.  Responses behind those that are used change nothing of this. -/
theorem check_prints_all_or_nothing {arguments : List String} {s : Settings}
    (hs : Tool.check.settings arguments = .ok s) (d : Disk) :
    let o := (Tool.check.onDisk arguments d).1
    (o.exit = 1 ∧ o.stdout = "" ↔ Check.CannotRun s d) ∧
    (¬Check.CannotRun s d →
      (∃ source summary, d.readText s.input = .ok source ∧ Check.Completes s d source summary ∧
        summary.cases.map (·.index) = List.range' 1 (expressionLines source).length ∧
        summary.cases.map (·.expression) = expressionLines source ∧
        o.stdout = String.join ((Check.printed summary).map (· ++ "\n")) ∧
        (Check.printed summary).length = 7 * (expressionLines source).length + 1 ∧
        (∀ line ∈ Check.printed summary, Unbroken line) ∧
        (o.exit = 0 ↔ ∀ c ∈ summary.cases, c.verdict ≠ .fail) ∧
        (o.exit ≠ 0 → o.exit = 1 ∧ ∃ log, o.stderr =
          log ++ ("Error: " ++ (Nat.repr ((summary.cases.map (·.verdict)).count .fail) ++ " of "
            ++ Nat.repr (expressionLines source).length ++ " cases failed") ++ "\n"))) ∧
      ∀ d', Check.ExtendsTrace s d d' → (Tool.check.onDisk arguments d').1 = o) := by
  intro o
  have ho : o = Check.onDisk s d := onDisk_check hs d
  rcases Check.onDisk_cases s d with ⟨hcannot, log, f, hend⟩ | ⟨hcan, source, summary, log, hrest⟩
  · rw [ho, hend]
    exact ⟨iff_of_true ⟨rfl, rfl⟩ hcannot, fun hcan => absurd hcannot hcan⟩
  · obtain ⟨hinput, hcompletes, hend⟩ := hrest
    have hstdout : o.stdout = Check.stdout summary := by
      rw [ho, hend, Check.stdout_complete]
    refine ⟨iff_of_false ?_ hcan, fun _ => ⟨⟨source, summary, hinput, hcompletes,
      hcompletes.cases.1, hcompletes.cases.2, hstdout.trans (Check.stdout_eq summary), ?_,
      hcompletes.unbroken_of_mem_printed, ?_⟩, fun d' hextends => ?_⟩⟩
    · rintro ⟨-, hnothing⟩
      exact Check.stdout_ne_empty summary (hstdout.symm.trans hnothing)
    · rw [Check.length_printed, hcompletes.length_cases]
    · obtain ⟨hzero, hone⟩ := Check.exit_complete summary log
      rw [Summary.failed, Summary.count_eq, hcompletes.length_cases] at hone
      rw [ho, hend]
      exact ⟨hzero, fun hexit => ⟨(hone hexit).1, log, (hone hexit).2⟩⟩
    · rw [ho, onDisk_check hs d', Check.onDisk_of_extendsTrace hextends hcan]

theorem check_prints_failed_product :
    let withTrace (trace : String) : Disk :=
      ⟨[(["in.txt"], "7-2\n\n4*50\n".toUTF8), (["tr.txt"], trace.toUTF8)], []⟩
    let check (trace : String) : Outcome :=
      (Tool.check.onDisk ["in.txt", "-t", "tr.txt", "-w8"] (withTrace trace)).1
    ((check "5\n").exit = 1 ∧ (check "5\n").stdout = "") ∧
    ((check "5\n0\n").exit = 1 ∧
      (∃ printed : List String, printed.length = 15 ∧
        (check "5\n0\n").stdout = String.join (printed.map (· ++ "\n"))) ∧
      ∃ log, (check "5\n0\n").stderr = log ++ "Error: 1 of 2 cases failed\n") ∧
    check "5\n0\nfault\n" = check "5\n0\n" := by
  intro withTrace check
  have hs : Tool.check.settings ["in.txt", "-t", "tr.txt", "-w8"] =
      .ok ⟨"in.txt", some "tr.txt", ⟨8, by decide, by decide⟩, .warn⟩ := rfl
  have hinput : ∀ trace, (withTrace trace).readText "in.txt" = .ok "7-2\n\n4*50\n" := fun _ => rfl
  have hshort : (withTrace "5\n").readText "tr.txt" = .ok "5\n" := rfl
  have htrace : (withTrace "5\n0\n").readText "tr.txt" = .ok "5\n0\n" := rfl
  have hlong : (withTrace "5\n0\nfault\n").readText "tr.txt" = .ok "5\n0\nfault\n" := rfl
  obtain ⟨hcan, -⟩ := Check.runsThrough_of_trace (r := ⟨[⟨false, 5⟩, ⟨false, 0⟩], 0⟩)
    (s := ⟨"in.txt", some "tr.txt", ⟨8, by decide, by decide⟩, .warn⟩) rfl
    (hinput "5\n0\n") htrace (by decide) (by decide)
  obtain ⟨-, hends⟩ := check_prints_all_or_nothing hs (withTrace "5\n0\n")
  obtain ⟨⟨source, summary, hsource, hcompletes, -, -, hstdout, hlength, -, hzero, hone⟩, hextends⟩ :=
    hends hcan
  obtain rfl : "7-2\n\n4*50\n" = source := Except.ok.inj ((hinput _).symm.trans hsource)
  obtain ⟨trace, replay, htrace', hreplay, hrun⟩ := hcompletes
  obtain rfl : "5\n0\n" = trace := Except.ok.inj (htrace.symm.trans htrace')
  obtain rfl : ⟨[⟨false, 5⟩, ⟨false, 0⟩], 0⟩ = replay := by
    have h : Replay.ofTrace "5\n0\n" = .ok ⟨[⟨false, 5⟩, ⟨false, 0⟩], 0⟩ := by decide
    exact Except.ok.inj (h.symm.trans hreplay)
  have hverdicts : summary.cases.map (·.verdict) = [.pass, .fail] := by
    cases hrun
    rfl
  have hfails : (check "5\n0\n").exit ≠ 0 := by
    intro hexit
    have hfail : Verdict.fail ∈ summary.cases.map (·.verdict) := by
      rw [hverdicts]
      decide
    obtain ⟨c, hc, hverdict⟩ := List.mem_map.mp hfail
    exact hzero.mp hexit c hc hverdict
  obtain ⟨hexit, log, hstderr⟩ := hone hfails
  refine ⟨?_, ⟨hexit, ⟨_, hlength, hstdout⟩, log, ?_⟩, ?_⟩
  · exact (check_prints_all_or_nothing hs (withTrace "5\n")).1.mpr (.inr ⟨_, rfl, .inr
      ⟨_, hshort, .inr ⟨⟨[⟨false, 5⟩], 0⟩, _, by decide, hinput _, by decide⟩⟩⟩)
  · rw [hverdicts] at hstderr
    exact hstderr
  · exact hextends _ ⟨rfl, _, _, _, ⟨[⟨false, 5⟩, ⟨false, 0⟩], 0⟩,
      ⟨[⟨false, 5⟩, ⟨false, 0⟩, ⟨true, 0⟩], 0⟩, [⟨true, 0⟩], rfl, htrace, by decide, hlong,
      by decide, rfl⟩

end Tool

end CalcBench.CommandLine
