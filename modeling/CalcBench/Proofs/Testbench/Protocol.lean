import CalcBench.Proofs.Device.Calls
import CalcBench.Proofs.Testbench.Cases
import CalcBench.Proofs.Testbench.Frame
import CalcBench.Proofs.Text.Lines

/-!
# CalcBench.Proofs.Testbench.Protocol — what a testbench asks of a device

A testbench deals with a device by its two operations alone.  For one line it puts the bytes of the
frame and then asks for the response; for a file it does so line by line.  The calls stop with the
first that fails, and the device stays as that call left it.

* `run_calls`: **the protocol**, over any device, from any state: which calls are made for a line and for
  a file, and what comes of them.
-/

namespace CalcBench.Testbench

variable {ε σ : Type} {d : Device ε σ} {s s' : σ} (t : Testbench)

/-- The calls for a line: its frame byte by byte, and then the response. -/
def script (line : String) : List Call := puts (frameBytes line) ++ [.get]

/-! ### One line -/

theorem ends_feed_of_performs {bytes : List UInt8} {given : List Response}
    (h : d.Performs s (puts bytes) given s') : (feed d s bytes).Ends (.ok ()) s' := by
  induction bytes generalizing s with
  | nil =>
    cases h
    exact ⟨rfl, rfl⟩
  | cons byte rest ih =>
    cases h with
    | put hput h => exact Exchange.Ends.andThen ⟨hput, rfl⟩ (ih h)

theorem ends_feed_of_fails {bytes : List UInt8} {made : List Call} {e : ε}
    (h : d.Fails s (puts bytes) made e s') : (feed d s bytes).Ends (.error e) s' := by
  induction bytes generalizing s made with
  | nil => cases h
  | cons byte rest ih =>
    cases h with
    | here hput =>
      exact Exchange.Ends.andThen_error ⟨Device.perform_put_eq_error_iff.mp hput, rfl⟩
    | put hput h => exact Exchange.Ends.andThen ⟨hput, rfl⟩ (ih h)

/-- A line whose calls all succeed is a case with the one response that they give. -/
theorem ends_runCase_of_performs {line : String} {given : List Response}
    (h : d.Performs s (script line) given s') (index : Nat) :
    ∃ response, given = [response] ∧
      (t.runCase d s index line).Ends (.ok (t.judge index line response)) s' := by
  obtain ⟨given₁, fed, given₂, rfl, hfed, hget⟩ := Device.performs_append_iff.mp h
  obtain rfl : given₁ = [] := hfed.given_puts
  cases hget with
  | @get _ _ response _ _ hget hnil =>
    cases hnil
    have hcase : ((feed d s (frameBytes line)).andThen fun _ fed => d.get fed).Ends
        (.ok response) (d.get fed).state := (ends_feed_of_performs hfed).andThen ⟨hget, rfl⟩
    exact ⟨response, rfl, (hcase.map (t.judge index line)).noting caseEvents⟩

/-- A line of whose calls one fails ends with the error of that call. -/
theorem ends_runCase_of_fails {line : String} {made : List Call} {e : ε}
    (h : d.Fails s (script line) made e s') (index : Nat) :
    (t.runCase d s index line).Ends (.error e) s' := by
  have hcase : ((feed d s (frameBytes line)).andThen fun _ fed => d.get fed).Ends
      (.error e) s' := by
    rcases Device.fails_append_iff.mp h with hput | ⟨given, fed, made', rfl, hfed, hget⟩
    · exact (ends_feed_of_fails hput).andThen_error
    · cases hget with
      | here hget =>
        exact (ends_feed_of_performs hfed).andThen ⟨Device.perform_get_eq_error_iff.mp hget, rfl⟩
      | get _ h => cases h
  exact (hcase.map (t.judge index line)).noting caseEvents

theorem eq_judge_of_runCase_eq_ok {index : Nat} {line : String} {c : Case}
    (h : (t.runCase d s index line).outcome = .ok c) : c = t.judge index line c.response := by
  rcases Device.performs_or_fails d s (script line) with ⟨given, s', hperforms⟩ | ⟨made, e, s', hfails⟩
  · obtain ⟨response, -, hcase⟩ := t.ends_runCase_of_performs hperforms index
    obtain rfl := Except.ok.inj (h.symm.trans hcase.1)
    rfl
  · cases h.symm.trans (t.ends_runCase_of_fails hfails index).1

/-! ### Lines in order -/

/-- Lines whose calls all succeed are judged by the responses that these give, one for each line. -/
theorem ends_runLines_of_performs {lines : List String} {given : List Response}
    (h : d.Performs s (lines.flatMap script) given s') (index : Nat) :
    given.length = lines.length ∧
      (t.runLines d s index lines).Ends (.ok (t.judged index lines given)) s' := by
  induction lines generalizing s given index with
  | nil =>
    cases h
    exact ⟨rfl, rfl, rfl⟩
  | cons line lines ih =>
    rw [List.flatMap_cons] at h
    obtain ⟨given₁, mid, given₂, rfl, hline, hlines⟩ := Device.performs_append_iff.mp h
    obtain ⟨response, rfl, hcase⟩ := t.ends_runCase_of_performs hline index
    obtain ⟨hlen, hrest⟩ := ih hlines (index + 1)
    exact ⟨congrArg (· + 1) hlen, hcase.andThen (hrest.map _)⟩

/-- Lines of whose calls one fails end with the error of that call. -/
theorem ends_runLines_of_fails {lines : List String} {made : List Call} {e : ε}
    (h : d.Fails s (lines.flatMap script) made e s') (index : Nat) :
    (t.runLines d s index lines).Ends (.error e) s' := by
  induction lines generalizing s made index with
  | nil => cases h
  | cons line lines ih =>
    rw [List.flatMap_cons] at h
    rcases Device.fails_append_iff.mp h with hline | ⟨given, mid, made', rfl, hline, hlines⟩
    · exact (t.ends_runCase_of_fails hline index).andThen_error
    · obtain ⟨response, rfl, hcase⟩ := t.ends_runCase_of_performs hline index
      exact hcase.andThen ((ih hlines (index + 1)).map _)

/-! ### Whole files -/

theorem ends_run_of_performs {source : String} {given : List Response}
    (h : d.Performs s ((Text.expressionLines source).flatMap script) given s') :
    given.length = (Text.expressionLines source).length ∧
      (t.run d s source).Ends (.ok ⟨t.judged 1 (Text.expressionLines source) given⟩) s' := by
  obtain ⟨hlen, hlines⟩ := t.ends_runLines_of_performs h 1
  exact ⟨hlen, (hlines.map Summary.mk).noting _⟩

theorem ends_run_of_fails {source : String} {made : List Call} {e : ε}
    (h : d.Fails s ((Text.expressionLines source).flatMap script) made e s') :
    (t.run d s source).Ends (.error e) s' :=
  ((t.ends_runLines_of_fails h 1).map Summary.mk).noting _

/-- A run to the end judges each line by one response. -/
theorem exists_judged_of_run_eq_ok {source : String} {summary : Summary}
    (h : (t.run d s source).outcome = .ok summary) :
    ∃ given, given.length = (Text.expressionLines source).length ∧
      summary = ⟨t.judged 1 (Text.expressionLines source) given⟩ := by
  rcases Device.performs_or_fails d s ((Text.expressionLines source).flatMap script) with
    ⟨given, s', hperforms⟩ | ⟨made, e, s', hfails⟩
  · obtain ⟨hlen, hrun⟩ := t.ends_run_of_performs hperforms
    exact ⟨given, hlen, Except.ok.inj (h.symm.trans hrun.1)⟩
  · cases h.symm.trans (t.ends_run_of_fails hfails).1

/-! ### The protocol -/

/-- Putting a line to `d` in the state `s` has this outcome, leaves `s'` and makes just these calls. -/
def CaseEnds (d : Device ε σ) (s : σ) (index : Nat) (line : String) (outcome : Except ε Case) (s' : σ)
    (calls : List Call) : Prop :=
  (t.runCase d s index line).Ends outcome s' ∧
    (t.runCase d.recorded (s, []) index line).Ends outcome (s', calls)

/-- Putting a file to `d` in the state `s` has this outcome, leaves `s'` and makes just these calls. -/
def RunEnds (d : Device ε σ) (s : σ) (source : String) (outcome : Except ε Summary) (s' : σ)
    (calls : List Call) : Prop :=
  (t.run d s source).Ends outcome s' ∧ (t.run d.recorded (s, []) source).Ends outcome (s', calls)

variable {t}

theorem CaseEnds.of_fails {line : String} {made : List Call} {e : ε}
    (h : d.Fails s (script line) made e s') (index : Nat) :
    t.CaseEnds d s index line (.error e) s' made :=
  ⟨t.ends_runCase_of_fails h index, t.ends_runCase_of_fails (h.recorded []) index⟩

/-- A refused byte is the last that is put; no response is asked for. -/
theorem CaseEnds.of_refused {line : String} {made : List Call} {e : ε}
    (h : d.Fails s (puts (frameBytes line)) made e s') (index : Nat) :
    t.CaseEnds d s index line (.error e) s' made :=
  .of_fails (Device.fails_append_iff.mpr (.inl h)) index

theorem CaseEnds.of_silent {line : String} {fed : σ} {e : ε}
    (h : d.Performs s (puts (frameBytes line)) [] fed) (hget : (d.get fed).outcome = .error e)
    (index : Nat) : t.CaseEnds d s index line (.error e) (d.get fed).state (script line) :=
  .of_fails (Device.fails_append_iff.mpr (.inr ⟨[], fed, [.get], rfl, h,
    .here (Device.perform_get_eq_error_iff.mpr hget)⟩)) index

/-- A response that is given behind the whole frame is judged. -/
theorem CaseEnds.of_answered {line : String} {fed : σ} {response : Response}
    (h : d.Performs s (puts (frameBytes line)) [] fed) (hget : (d.get fed).outcome = .ok response)
    (index : Nat) :
    t.CaseEnds d s index line (.ok (t.judge index line response)) (d.get fed).state
      (script line) := by
  have hperforms : d.Performs s (script line) [response] (d.get fed).state :=
    Device.performs_append_iff.mpr ⟨[], fed, [response], rfl, h, .get hget (.nil _)⟩
  obtain ⟨_, heq, hcase⟩ := t.ends_runCase_of_performs hperforms index
  cases heq
  obtain ⟨_, heq, hrecorded⟩ := t.ends_runCase_of_performs (hperforms.recorded []) index
  cases heq
  exact ⟨hcase, hrecorded⟩

/-- **The protocol.**  Over every device, from every state:

* The frame of a line is the bytes up to its first end mark, or all of them and an end mark; it has one
  end mark, the last byte.
* For a line the bytes of the frame are put in order.  The first that is refused ends the case with
  that error, and no response is asked for; else one response is asked for, whose failure ends the
  case with that error, and which else is judged.
* For a file the same is done for the lines that are not blank when trimmed, in order.  The first call
  that fails is the last that is made, its error is the outcome and the device stays as it left it.
  Without one there is a case for each line, numbered from 1, with that line and the response to it;
  each is counted under one verdict, and the run is a success if none has failed. -/
theorem run_calls (t : Testbench) (d : Device ε σ) (s : σ) :
    (∀ (index : Nat) (line : String),
      (∃ body, frameBytes line = body ++ [endMark] ∧ endMark ∉ body ∧
        (body ++ [endMark] <+: utf8 line.toList ∨
          endMark ∉ utf8 line.toList ∧ body = utf8 line.toList)) ∧
      ((∃ front byte back mid e, frameBytes line = front ++ byte :: back ∧
          d.Performs s (puts front) [] mid ∧ (d.put mid byte).outcome = .error e ∧
          t.CaseEnds d s index line (.error e) (d.put mid byte).state (puts (front ++ [byte]))) ∨
        ∃ fed, d.Performs s (puts (frameBytes line)) [] fed ∧
          ((∃ e, (d.get fed).outcome = .error e ∧
              t.CaseEnds d s index line (.error e) (d.get fed).state
                (puts (frameBytes line) ++ [.get])) ∨
            ∃ response, (d.get fed).outcome = .ok response ∧
              t.CaseEnds d s index line (.ok (t.judge index line response)) (d.get fed).state
                (puts (frameBytes line) ++ [.get])))) ∧
    ∀ source : String,
      Text.expressionLines source =
        ((Text.lines source.toList).filter (Text.trimmed · ≠ [])).map String.ofList ∧
      ((∃ front call back given mid e,
          (Text.expressionLines source).flatMap script = front ++ call :: back ∧
          d.Performs s front given mid ∧ (d.perform mid call).outcome = .error e ∧
          t.RunEnds d s source (.error e) (d.perform mid call).state (front ++ [call])) ∨
        ∃ given s' summary,
          d.Performs s ((Text.expressionLines source).flatMap script) given s' ∧
          t.RunEnds d s source (.ok summary) s' ((Text.expressionLines source).flatMap script) ∧
          summary.cases.map (·.index) = List.range' 1 (Text.expressionLines source).length ∧
          summary.cases.map (·.expression) = Text.expressionLines source ∧
          summary.cases.map (·.response) = given ∧
          summary.passed + summary.invalid + summary.failed = (Text.expressionLines source).length ∧
          (summary.isSuccess = true ↔ ∀ c ∈ summary.cases, c.verdict ≠ .fail)) := by
  refine ⟨fun index line => ⟨exists_frameBytes_eq line, ?_⟩,
    fun source => ⟨Text.expressionLines_eq source, ?_⟩⟩
  · rcases Device.performs_or_fails d s (puts (frameBytes line)) with
      ⟨given, fed, hfed⟩ | ⟨made, e, s', h⟩
    · obtain rfl : given = [] := hfed.given_puts
      refine .inr ⟨fed, hfed, ?_⟩
      cases hget : (d.get fed).outcome with
      | error e => exact .inl ⟨e, rfl, .of_silent hfed hget index⟩
      | ok response => exact .inr ⟨response, rfl, .of_answered hfed hget index⟩
    · obtain ⟨front, byte, back, mid, hbytes, rfl, hfront, hput, rfl⟩ := h.exists_split_puts
      exact .inl ⟨front, byte, back, mid, e, hbytes, hfront, hput, .of_refused h index⟩
  · rcases Device.performs_or_fails d s ((Text.expressionLines source).flatMap script) with
      ⟨given, s', h⟩ | ⟨made, e, s', h⟩
    · obtain ⟨hlen, hrun⟩ := t.ends_run_of_performs h
      -- the same run on the recording device tells which calls were made
      obtain ⟨-, hrecorded⟩ := t.ends_run_of_performs (h.recorded [])
      obtain ⟨hindex, hline, hresponse⟩ := t.parts_judged 1 hlen
      have hcases := congrArg List.length hline
      rw [List.length_map] at hcases
      refine .inr ⟨given, s', _, h, ⟨hrun, hrecorded⟩, hindex, hline, hresponse, ?_,
        Summary.isSuccess_iff _⟩
      rw [Summary.count_total, hcases]
    · obtain ⟨front, call, back, given, mid, hcalls, rfl, hfront, hcall, rfl⟩ := h.exists_split
      exact .inl ⟨front, call, back, given, mid, e, hcalls, hfront, hcall, t.ends_run_of_fails h,
        t.ends_run_of_fails (h.recorded [])⟩

end CalcBench.Testbench
