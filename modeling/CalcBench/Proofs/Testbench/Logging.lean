import CalcBench.Device
import CalcBench.Device.Model
import CalcBench.Device.Replay
import CalcBench.Proofs.Expression.BytePort
import CalcBench.Proofs.Testbench.Cases

/-!
# CalcBench.Proofs.Testbench.Logging — the log of a run against its summary

A run leaves two records.  The log is written while it goes on, by the evaluator, by the device and for
each case; the summary is there at the end, and only of a run that comes to its end.

* `Testbench.Tells.log_runLines`: **the lines in order**: completed cases, and the one that was not.
* `Testbench.run_log_accounts`: **the log and the summary**, for the software model, a replay and a probe.
-/

namespace CalcBench

open Log

/-! ### Entries -/

namespace Log

/-- What a log has of an event. -/
structure Entry where
  level : Level
  message : String
  fields : List (String × FieldValue)

def Event.entry (e : Event) : Entry := ⟨e.level, e.message, e.fields⟩

/-- The entries of the operators that the evaluation of a text applies. -/
def foldEntries (text : String) : List Entry :=
  (Expression.evaluation text.toList).folds.map fun f =>
    ⟨.trace, "fold", [("op", .shown f.op.text), ("lhs", .number f.lhs.toInt),
      ("rhs", .number f.rhs.toInt), ("result", .number f.result.toInt)]⟩

end Log

/-- What a log has of a dealing. -/
def Exchange.log {ε σ α : Type} (x : Exchange ε σ α) : List Entry := x.events.map Event.entry

namespace Case

/-- The warning that a case failed. -/
def warning (c : Case) : Entry :=
  ⟨.warn, "case " ++ Nat.repr c.index ++ " failed: \"" ++ c.expression ++ "\"", []⟩

/-- What is logged of a completed case: the operators of its line, all that its report holds, and
right behind that a warning if it failed. -/
def entries (c : Case) : List Entry :=
  foldEntries c.expression ++
    ⟨.debug, "case done", [("index", .number c.index), ("line", .plain c.expression),
      ("response", .shown c.response.text), ("golden", .shown (detailedResult c.golden)),
      ("verdict", .shown c.verdict.name)]⟩ ::
    if c.verdict = .fail then [c.warning] else []

end Case

/-- What a model that held the text `held` before the first case has in its buffer when it answers a
case: the frame of the line, behind what was there. -/
def Model.answered (held : String) (c : Case) : String :=
  (if c.index = 1 then held else "") ++ String.ofList (latin1 (frameBytes c.expression))

/-- What the model logs of a case: the operators of the text in its buffer, and the response to it. -/
def Model.entries (held : String) (c : Case) : List Entry :=
  foldEntries (answered held c) ++
    [⟨.trace, "model response", [("expr", .shown (answered held c)), ("r", .shown c.response.text)]⟩]

/-- The last entry of a run, which only a complete run has. -/
def conclusion {ε : Type} : Except ε Summary → List Entry
  | .ok summary => [⟨.info, summary.text, []⟩]
  | .error _ => []

/-! ### Devices that log little -/

namespace Device

variable {ε σ : Type}

/-- The device logs nothing but with a response that it gives. -/
structure LogsOnlyResponses (d : Device ε σ) : Prop where
  put : ∀ s byte, (d.put s byte).events = []
  refused : ∀ {s e}, (d.get s).outcome = .error e → (d.get s).events = []

/-- The device logs nothing at all. -/
structure IsSilent (d : Device ε σ) : Prop where
  put : ∀ s byte, (d.put s byte).events = []
  get : ∀ s, (d.get s).events = []

theorem IsSilent.logsOnlyResponses {d : Device ε σ} (h : d.IsSilent) : d.LogsOnlyResponses :=
  ⟨h.put, fun _ => h.get _⟩

end Device

theorem Replay.isSilent : Replay.device.IsSilent where
  put _ _ := rfl
  get r := by
    show (Replay.get r).events = []
    unfold Replay.get
    split <;> rfl

theorem Probe.isSilent : Probe.device.IsSilent where
  put p byte := by
    show (Probe.put p byte).events = []
    unfold Probe.put
    split <;> rfl
  get p := by
    show (Probe.get p).events = []
    unfold Probe.get
    split <;> rfl

theorem Model.logsOnlyResponses : Model.device.LogsOnlyResponses where
  put _ _ := rfl
  refused {m e} h := by
    show (Model.get m).events = []
    have hget : (Model.get m).outcome = .error e := h
    unfold Model.get at hget ⊢
    split at hget
    · cases hget
    · next hc => rw [if_neg hc]

namespace Testbench

variable {ε σ : Type} {d : Device ε σ} (t : Testbench)

/-! ### One case -/

/-- Bytes are fed without a word, whether or not all are taken. -/
theorem feed_eq_done_or_error (h : d.LogsOnlyResponses) (s : σ) (bytes : List UInt8) :
    (∃ fed, feed d s bytes = .done () fed) ∨ ∃ e s', feed d s bytes = ⟨.error e, s', []⟩ := by
  induction bytes generalizing s with
  | nil => exact .inl ⟨s, rfl⟩
  | cons byte rest ih =>
    have hput := h.put s byte
    rw [feed]
    rcases hx : d.put s byte with ⟨outcome, s', events⟩
    rw [hx] at hput
    obtain rfl : events = [] := hput
    cases outcome with
    | error e => exact .inr ⟨e, s', rfl⟩
    | ok u => exact ih s'

/-- A case is completed with a response, on which the device has its say before the case is logged.  Of a
case that is not completed nothing is logged. -/
theorem runCase_ok_or_error (h : d.LogsOnlyResponses) (s : σ) (index : Nat) (line : String) :
    (∃ fed response, feed d s (frameBytes line) = .done () fed ∧
      (d.get fed).outcome = .ok response ∧
      t.runCase d s index line = ⟨.ok (t.judge index line response), (d.get fed).state,
        (d.get fed).events ++ caseEvents (t.judge index line response)⟩) ∨
    ∃ e, (t.runCase d s index line).outcome = .error e ∧ (t.runCase d s index line).events = [] := by
  have hcase : t.runCase d s index line =
      (((feed d s (frameBytes line)).andThen fun _ fed => d.get fed).map
        (t.judge index line)).noting caseEvents := rfl
  rw [hcase]
  rcases feed_eq_done_or_error h s (frameBytes line) with ⟨fed, hfeed⟩ | ⟨e, s', hfeed⟩
  · rw [hfeed, Exchange.done_andThen]
    have hrefused := @h.refused fed
    rcases hget : d.get fed with ⟨outcome, s', events⟩
    rw [hget] at hrefused
    cases outcome with
    | ok response => exact .inl ⟨fed, response, rfl, by rw [hget], by rw [hget]; rfl⟩
    | error e => exact .inr ⟨e, rfl, hrefused rfl⟩
  · rw [hfeed]
    exact .inr ⟨e, rfl, rfl⟩

/-! ### Lines in order -/

/-- What a device logs of a case is known: `own` says it of the cases that are completed, if the device
is `ready` for the number of the case, and then it is ready for the next; of others it logs nothing. -/
structure Tells (t : Testbench) (d : Device ε σ) (ready : σ → Nat → Prop)
    (own : Case → List Event) : Prop where
  completed : ∀ {s index line c}, ready s index → (t.runCase d s index line).outcome = .ok c →
    (t.runCase d s index line).events = own c ++ caseEvents c ∧
      ready (t.runCase d s index line).state (index + 1)
  refused : ∀ {s index line e}, ready s index → (t.runCase d s index line).outcome = .error e →
    (t.runCase d s index line).events = []

variable {t} {ready : σ → Nat → Prop} {own : Case → List Event}

/-- **Lines in order.**  Of lines put to the device there are first those with completed cases, of which
all is logged in turn.  These are all lines, or the next one fails, and nothing is logged of it. -/
theorem Tells.log_runLines (h : t.Tells d ready own) {s : σ} {index : Nat} (hs : ready s index)
    (lines : List String) :
    ∃ front back cases, lines = front ++ back ∧
      (t.runLines d s index front).outcome = .ok cases ∧
      (t.runLines d s index lines).events = cases.flatMap (fun c => own c ++ caseEvents c) ∧
      (back = [] ∧ (t.runLines d s index lines).outcome = .ok cases ∨
        ∃ line rest e, back = line :: rest ∧
          (t.runCase d (t.runLines d s index front).state (index + front.length) line).outcome =
            .error e ∧
          (t.runLines d s index lines).outcome = .error e) := by
  induction lines generalizing s index with
  | nil => exact ⟨[], [], [], rfl, rfl, rfl, .inl ⟨rfl, rfl⟩⟩
  | cons line lines ih =>
    have hcompleted := @h.completed s index line
    have hrefused := @h.refused s index line
    rcases hx : t.runCase d s index line with ⟨outcome, s', events⟩
    rw [hx] at hcompleted hrefused
    cases outcome with
    | error e =>
      obtain rfl : events = [] := hrefused hs rfl
      have hrun : t.runLines d s index (line :: lines) = ⟨.error e, s', []⟩ := by
        rw [runLines, hx]
        rfl
      rw [hrun]
      exact ⟨[], line :: lines, [], rfl, rfl, rfl,
        .inr ⟨line, lines, e, rfl, congrArg Exchange.outcome hx, rfl⟩⟩
    | ok c =>
      obtain ⟨rfl, hs'⟩ : events = own c ++ caseEvents c ∧ ready s' (index + 1) := hcompleted hs rfl
      obtain ⟨front, back, cases, rfl, hfront, hevents, hend⟩ := ih hs'
      -- behind the case that is done the run is one of the other lines, however many these are
      have hcons : ∀ ls, t.runLines d s index (line :: ls) =
          ⟨(t.runLines d s' (index + 1) ls).outcome.map (c :: ·), (t.runLines d s' (index + 1) ls).state,
            own c ++ caseEvents c ++ (t.runLines d s' (index + 1) ls).events⟩ := by
        intro ls
        rw [runLines, hx]
        rfl
      refine ⟨line :: front, back, c :: cases, rfl, ?_, ?_, ?_⟩
      · rw [hcons, hfront]
        rfl
      · rw [hcons, hevents, List.flatMap_cons]
      · rw [hcons, hcons, List.length_cons, Nat.add_comm front.length, ← Nat.add_assoc]
        rcases hend with ⟨rfl, hout⟩ | ⟨line', rest, e, rfl, hline', hout⟩
        · exact .inl ⟨rfl, by rw [hout]; rfl⟩
        · exact .inr ⟨line', rest, e, rfl, hline', by rw [hout]; rfl⟩

/-- It is enough to know what the device logs with a response. -/
theorem tells_of_get (h : d.LogsOnlyResponses)
    (hget : ∀ {s fed : σ} {index : Nat} {line : String} {response : Response}, ready s index →
      feed d s (frameBytes line) = .done () fed → (d.get fed).outcome = .ok response →
      (d.get fed).events = own (t.judge index line response) ∧
        ready (d.get fed).state (index + 1)) : t.Tells d ready own where
  completed {s index line c} hs hok := by
    rcases t.runCase_ok_or_error h s index line with
      ⟨fed, response, hfeed, hresponse, hcase⟩ | ⟨e, herror, -⟩
    · obtain ⟨hevents, hready⟩ := hget hs hfeed hresponse
      rw [hcase] at hok ⊢
      cases hok
      exact ⟨congrArg (· ++ _) hevents, hready⟩
    · cases hok.symm.trans herror
  refused {s index line e} _ he := by
    rcases t.runCase_ok_or_error h s index line with ⟨_, _, -, -, hcase⟩ | ⟨e, -, hnothing⟩
    · rw [hcase] at he
      cases he
    · exact hnothing

theorem tells_of_isSilent (t : Testbench) (h : d.IsSilent) :
    t.Tells d (fun _ _ => True) fun _ => [] :=
  tells_of_get h.logsOnlyResponses fun _ _ _ => ⟨h.get _, trivial⟩

theorem feed_model (m : Model) (bytes : List UInt8) :
    feed Model.device m bytes = .done () { m with buffer := m.buffer.extend bytes } := by
  induction bytes generalizing m with
  | nil => rfl
  | cons byte rest ih => exact ih { m with buffer := m.buffer.push byte }

/-- What the model logs of a case, as events. -/
def modelEvents (held : String) (c : Case) : List Event :=
  (Expression.appliedFolds (Model.answered held c)).map .fold ++
    [.modelResponse (Model.answered held c) c.response]

/-- The model is ready for the first case with the text it held, and for those after it with an empty
buffer. -/
theorem tells_model (t : Testbench) (held : String) :
    t.Tells Model.device
      (fun m index => 1 ≤ index ∧ m.buffer.text = if index = 1 then held else "")
      (modelEvents held) := by
  refine tells_of_get Model.logsOnlyResponses ?_
  rintro m fed index line response ⟨hindex, hbuffer⟩ hfeed hresponse
  have hfed : fed = { m with buffer := m.buffer.extend (frameBytes line) } := by
    rw [feed_model] at hfeed
    exact (congrArg Exchange.state hfeed).symm
  have htext : fed.buffer.text = Model.answered held (t.judge index line response) := by
    rw [hfed, Expression.Buffer.extend_eq]
    show m.buffer.text ++ _ = _
    rw [hbuffer]
    rfl
  have hget : (Model.get fed).outcome = .ok response := hresponse
  have hnext : index + 1 ≠ 1 := Nat.succ_ne_succ_iff.mpr (Nat.pos_iff_ne_zero.mp hindex)
  show (Model.get fed).events = _ ∧ 1 ≤ index + 1 ∧ (Model.get fed).state.buffer.text = _
  -- The buffer is emptied with the response, so a text can be held only before the first case.
  rw [if_neg hnext]
  unfold Model.get at hget ⊢
  split at hget
  · next hc =>
    rw [if_pos hc]
    cases hget
    refine ⟨?_, Nat.succ_pos index, rfl⟩
    rw [modelEvents, ← htext]
    rfl
  · cases hget

/-! ### Events as entries -/

theorem map_entry_fold (text : String) :
    ((Expression.appliedFolds text).map Event.fold).map Event.entry = foldEntries text := by
  rw [Expression.appliedFolds, List.map_map]
  rfl

theorem map_entry_caseEvents (c : Case) : (caseEvents c).map Event.entry = c.entries := by
  have hwarning : (if c.verdict.isFail then [Event.caseFailed c.index c.expression] else []).map
      Event.entry = if c.verdict = .fail then [c.warning] else [] := by
    cases c.verdict <;> rfl
  rw [caseEvents, List.map_append, List.map_append, map_entry_fold, List.append_assoc, hwarning]
  rfl

theorem map_entry_modelEvents (held : String) (c : Case) :
    (modelEvents held c).map Event.entry = Model.entries held c := by
  rw [modelEvents, List.map_append, map_entry_fold]
  rfl

theorem level_of_mem_foldEntries {text : String} {e : Entry} (h : e ∈ foldEntries text) :
    e.level = .trace := by
  obtain ⟨f, -, rfl⟩ := List.mem_map.mp h
  rfl

theorem level_of_mem_modelEntries {held : String} {c : Case} {e : Entry}
    (h : e ∈ Model.entries held c) : e.level = .trace := by
  rcases List.mem_append.mp h with h | h
  · exact level_of_mem_foldEntries h
  · rw [List.mem_singleton.mp h]

/-- Without the traces, what is logged of a case is that it is done and, if it failed, the warning. -/
theorem filter_entries {extra : List Entry} (h : ∀ e ∈ extra, e.level = .trace) (c : Case) {l : Level}
    (htrace : l ≠ .trace) (hdebug : l ≠ .debug) :
    (extra ++ c.entries).filter (·.level = l) =
      if c.verdict = .fail ∧ l = .warn then [c.warning] else [] := by
  have hnone : ∀ es : List Entry, (∀ e ∈ es, e.level = .trace) → es.filter (·.level = l) = [] := by
    intro es hes
    rw [List.filter_eq_nil_iff]
    intro e he
    rw [hes e he, decide_eq_true_eq]
    exact htrace.symm
  rw [List.filter_append, hnone _ h, Case.entries, List.filter_append,
    hnone _ fun _ => level_of_mem_foldEntries, List.filter_cons_of_neg (by simpa using hdebug.symm)]
  by_cases hfail : c.verdict = .fail
  · simp [hfail, Case.warning, eq_comm, List.filter_cons]
  · simp [hfail]

/-! ### The log of a run -/

/-- These are the cases that a run completes: those of all lines of the file, or of the lines in front of
the one that fails, with whose error the run ends. -/
def Completes (t : Testbench) (d : Device ε σ) (s : σ) (source : String) (cases : List Case) : Prop :=
  ∃ front back, Text.expressionLines source = front ++ back ∧
    (t.runLines d s 1 front).outcome = .ok cases ∧
    (back = [] ∧ (t.run d s source).outcome = .ok ⟨cases⟩ ∨
      ∃ line rest e, back = line :: rest ∧
        (t.runCase d (t.runLines d s 1 front).state (1 + front.length) line).outcome = .error e ∧
        (t.run d s source).outcome = .error e)

/-- The log of a dealing that makes a summary agrees with the cases that were completed, for each of
which the device itself logs `extra`. -/
structure Accounts (x : Exchange ε σ Summary) (extra : Case → List Entry) (cases : List Case) :
    Prop where
  /-- The cases in order, and then what a complete run has to say. -/
  entries : x.log = cases.flatMap (fun c => extra c ++ c.entries) ++ conclusion x.outcome
  /-- The warnings are those of the failed cases, in order. -/
  warnings : x.log.filter (·.level = .warn) = (cases.filter (·.verdict = .fail)).map Case.warning
  infos : x.log.filter (·.level = .info) = conclusion x.outcome
  summary : ∀ summary, x.outcome = .ok summary →
    summary.cases = cases ∧ (x.log.filter (·.level = .warn)).length = summary.failed

theorem filter_flatMap_entries {extra : Case → List Entry}
    (h : ∀ c, ∀ e ∈ extra c, e.level = .trace) (cases : List Case) (l : Level)
    (htrace : l ≠ .trace) (hdebug : l ≠ .debug) :
    (cases.flatMap fun c => extra c ++ c.entries).filter (·.level = l) =
      (cases.filter (fun c => c.verdict = .fail ∧ l = .warn)).map Case.warning := by
  induction cases with
  | nil => rfl
  | cons c cases ih =>
    rw [List.flatMap_cons, List.filter_append, ih, filter_entries (h c) c htrace hdebug,
      List.filter_cons]
    by_cases hc : c.verdict = .fail ∧ l = .warn
    · rw [if_pos hc, if_pos (decide_eq_true hc)]
      rfl
    · rw [if_neg hc, if_neg (by simpa using hc)]
      rfl

theorem accounts_of_entries {x : Exchange ε σ Summary} {extra : Case → List Entry} {cases : List Case}
    (hextra : ∀ c, ∀ e ∈ extra c, e.level = .trace)
    (hlog : x.log = cases.flatMap (fun c => extra c ++ c.entries) ++ conclusion x.outcome)
    (hcases : ∀ summary, x.outcome = .ok summary → summary.cases = cases) : Accounts x extra cases := by
  have hwarnings : x.log.filter (·.level = .warn) =
      (cases.filter (·.verdict = .fail)).map Case.warning := by
    rw [hlog, List.filter_append, filter_flatMap_entries hextra cases .warn nofun nofun]
    cases x.outcome <;> simp [conclusion]
  refine ⟨hlog, hwarnings, ?_, fun summary h => ⟨hcases summary h, ?_⟩⟩
  · rw [hlog, List.filter_append, filter_flatMap_entries hextra cases .info nofun nofun]
    cases x.outcome <;> simp [conclusion]
  · rw [hwarnings, List.length_map, Summary.failed, Summary.count, hcases summary h]
    rfl

theorem Tells.exists_accounts (h : t.Tells d ready own) {s : σ} (hs : ready s 1)
    {extra : Case → List Entry} (hown : ∀ c, (own c).map Event.entry = extra c)
    (hextra : ∀ c, ∀ e ∈ extra c, e.level = .trace) (source : String) :
    ∃ cases, t.Completes d s source cases ∧ Accounts (t.run d s source) extra cases := by
  obtain ⟨front, back, cases, hlines, hfront, hevents, hend⟩ :=
    h.log_runLines hs (Text.expressionLines source)
  have hentries : (t.runLines d s 1 (Text.expressionLines source)).events.map Event.entry =
      cases.flatMap fun c => extra c ++ c.entries := by
    rw [hevents, List.map_flatMap]
    simp only [List.map_append, hown, map_entry_caseEvents]
  have hrun : t.run d s source =
      ((t.runLines d s 1 (Text.expressionLines source)).map Summary.mk).noting
        fun summary => [.runDone summary] := rfl
  rcases hx : t.runLines d s 1 (Text.expressionLines source) with ⟨outcome, s', events⟩
  rw [hx] at hentries hend hrun
  rcases hend with ⟨rfl, rfl : outcome = _⟩ | ⟨line, rest, e, rfl, hline, rfl : outcome = _⟩
  · have hrun' : t.run d s source = ⟨.ok ⟨cases⟩, s', events ++ [.runDone ⟨cases⟩]⟩ := hrun
    refine ⟨cases, ⟨front, [], hlines, hfront, .inl ⟨rfl, by rw [hrun']⟩⟩, ?_⟩
    rw [hrun']
    refine accounts_of_entries hextra ?_ fun summary h => ?_
    · rw [Exchange.log, List.map_append, hentries]
      rfl
    · cases h
      rfl
  · have hrun' : t.run d s source = ⟨.error e, s', events⟩ := hrun
    refine ⟨cases, ⟨front, _, hlines, hfront, .inr ⟨line, rest, e, rfl, hline, by rw [hrun']⟩⟩, ?_⟩
    rw [hrun']
    refine accounts_of_entries hextra ?_ nofun
    rw [Exchange.log, hentries]
    exact (List.append_nil _).symm

/-- **The log and the summary.**  On the software model, whatever is in its buffer at the start, on a
replay and on a probe, the log of a run is that of the completed cases in order, each done and, right
behind that, warned of if it failed.  The run concludes with its summary if it comes to its end, and
with nothing if the device fails.  The warnings are those of the failed cases of the summary. -/
theorem run_log_accounts (t : Testbench) (source : String) :
    (∀ m : Model, ∃ cases, t.Completes Model.device m source cases ∧
      Accounts (t.run Model.device m source) (Model.entries m.buffer.text) cases) ∧
    (∀ r : Replay, ∃ cases, t.Completes Replay.device r source cases ∧
      Accounts (t.run Replay.device r source) (fun _ => []) cases) ∧
    ∀ p : Probe, ∃ cases, t.Completes Probe.device p source cases ∧
      Accounts (t.run Probe.device p source) (fun _ => []) cases := by
  refine ⟨fun m => ?_, fun r => ?_, fun p => ?_⟩
  · exact (t.tells_model m.buffer.text).exists_accounts ⟨Nat.le_refl 1, rfl⟩
      (map_entry_modelEvents _) (fun _ _ => level_of_mem_modelEntries) source
  · exact (t.tells_of_isSilent Replay.isSilent).exists_accounts trivial (fun _ => rfl) nofun source
  · exact (t.tells_of_isSilent Probe.isSilent).exists_accounts trivial (fun _ => rfl) nofun source

end Testbench

end CalcBench
