import CalcBench.Testbench
import Mathlib.Tactic.Common

/-!
# CalcBench.Proofs.Testbench.Cases — dealings, cases and what a summary counts

The outcome of a dealing and the state it leaves, whatever its events; the cases of lines that were
answered by given responses; and what a summary counts of them.
-/

namespace CalcBench

/-! ### Dealings -/

namespace Exchange

variable {ε σ α β : Type}

theorem done_andThen (a : α) (state : σ) (next : α → σ → Exchange ε σ β) :
    (Exchange.done a state).andThen next = next a state := rfl

theorem ok_andThen (a : α) (state : σ) (events : List Log.Event)
    (next : α → σ → Exchange ε σ β) :
    (⟨.ok a, state, events⟩ : Exchange ε σ α).andThen next =
      ⟨(next a state).outcome, (next a state).state, events ++ (next a state).events⟩ := rfl

/-- The dealing has this outcome and leaves this state. -/
def Ends (x : Exchange ε σ α) (outcome : Except ε α) (state : σ) : Prop :=
  x.outcome = outcome ∧ x.state = state

namespace Ends

variable {x : Exchange ε σ α} {state : σ}

theorem andThen {a : α} {next : α → σ → Exchange ε σ β} {outcome : Except ε β} {state' : σ}
    (h : x.Ends (.ok a) state) (hnext : (next a state).Ends outcome state') :
    (x.andThen next).Ends outcome state' := by
  obtain ⟨_, _, events⟩ := x
  obtain ⟨rfl, rfl⟩ := h
  exact hnext

theorem andThen_error {e : ε} {next : α → σ → Exchange ε σ β} (h : x.Ends (.error e) state) :
    (x.andThen next).Ends (.error e) state := by
  obtain ⟨_, _, events⟩ := x
  obtain ⟨rfl, rfl⟩ := h
  exact ⟨rfl, rfl⟩

theorem map {outcome : Except ε α} (h : x.Ends outcome state) (f : α → β) :
    (x.map f).Ends (outcome.map f) state := ⟨congrArg (Except.map f) h.1, h.2⟩

theorem noting {outcome : Except ε α} (h : x.Ends outcome state) (events : α → List Log.Event) :
    (x.noting events).Ends outcome state := by
  unfold Exchange.noting
  split
  · exact h
  · exact h

end Ends

end Exchange

/-! ### Counts -/

namespace Summary

variable (s : Summary)

theorem count_eq (v : Verdict) : s.count v = (s.cases.map (·.verdict)).count v := by
  rw [count, List.count, List.countP_map, List.countP_eq_length_filter]
  rfl

/-- Every case is counted once. -/
theorem count_total : s.passed + s.invalid + s.failed = s.cases.length := by
  have hall : ∀ vs : List Verdict,
      vs.count .pass + vs.count .invalid + vs.count .fail = vs.length := by
    intro vs
    induction vs with
    | nil => rfl
    | cons v vs ih =>
      rw [List.length_cons, ← ih]
      cases v <;> simp only [List.count_cons, beq_iff_eq, reduceCtorEq, if_true, if_false] <;> omega
  rw [passed, invalid, failed, count_eq, count_eq, count_eq, hall, List.length_map]

theorem failed_eq_zero_iff : s.failed = 0 ↔ ∀ c ∈ s.cases, c.verdict ≠ .fail := by
  rw [failed, count_eq, List.count_eq_zero, List.mem_map]
  exact ⟨fun h c hc hfail => h ⟨c, hc, hfail⟩, fun h ⟨c, hc, hfail⟩ => h c hc hfail⟩

theorem isSuccess_iff : s.isSuccess = true ↔ ∀ c ∈ s.cases, c.verdict ≠ .fail := by
  rw [isSuccess, beq_iff_eq, failed_eq_zero_iff]

/-- The cases are those of the lines in order, each with the verdict that `f` gives to its line. -/
def Judges (lines : List String) (f : String → Verdict) : Prop :=
  (s.cases.map fun c => (c.expression, c.verdict)) = lines.map fun line => (line, f line)

namespace Judges

variable {s} {lines : List String} {f : String → Verdict}

theorem expressions (h : s.Judges lines f) : s.cases.map (·.expression) = lines := by
  have hfst := congrArg (List.map Prod.fst) h
  rw [List.map_map, List.map_map] at hfst
  exact hfst.trans (List.map_id' lines)

theorem verdict (h : s.Judges lines f) {c : Case} (hc : c ∈ s.cases) :
    c.expression ∈ lines ∧ c.verdict = f c.expression := by
  have hmem := List.mem_map_of_mem (f := fun c : Case => (c.expression, c.verdict)) hc
  rw [h, List.mem_map] at hmem
  obtain ⟨line, hline, heq⟩ := hmem
  obtain ⟨rfl, hverdict⟩ := Prod.mk.inj heq
  exact ⟨hline, hverdict.symm⟩

theorem failed_eq_zero (h : s.Judges lines f) (hf : ∀ line ∈ lines, f line ≠ .fail) :
    s.failed = 0 := by
  rw [failed_eq_zero_iff]
  intro c hc
  obtain ⟨hline, hverdict⟩ := h.verdict hc
  rw [hverdict]
  exact hf _ hline

end Judges

end Summary

/-! ### Cases of lines that were answered -/

/-- The case with a number that is higher by `k`. -/
def Case.renumbered (k : Nat) (c : Case) : Case := { c with index := c.index + k }

namespace Testbench

variable (t : Testbench)

/-- The cases of lines in order, the first as case `index`, each with its response. -/
def judged (index : Nat) : List String → List Response → List Case
  | line :: lines, response :: responses =>
    t.judge index line response :: judged (index + 1) lines responses
  | _, _ => []

theorem map_judged {β : Type} {k : Case → β} {g : String → Response → β}
    (hk : ∀ index line response, k (t.judge index line response) = g line response)
    (answer : String → Response) (index : Nat) (lines : List String) :
    (t.judged index lines (lines.map answer)).map k = lines.map fun line => g line (answer line) := by
  induction lines generalizing index with
  | nil => rfl
  | cons line lines ih => rw [List.map_cons, judged, List.map_cons, hk, ih, List.map_cons]

/-- With a response for each line the cases are numbered without gaps, and each has its own line and
the response to it. -/
theorem parts_judged (index : Nat) {lines : List String} {given : List Response}
    (h : given.length = lines.length) :
    (t.judged index lines given).map (·.index) = List.range' index lines.length ∧
      (t.judged index lines given).map (·.expression) = lines ∧
      (t.judged index lines given).map (·.response) = given := by
  induction lines generalizing index given with
  | nil =>
    obtain rfl : given = [] := List.eq_nil_of_length_eq_zero h
    exact ⟨rfl, rfl, rfl⟩
  | cons line lines ih =>
    obtain ⟨response, given, rfl⟩ := List.exists_cons_of_length_eq_add_one h
    obtain ⟨hindex, hline, hresponse⟩ := ih (index + 1) (Nat.succ.inj h)
    rw [judged, List.map_cons, List.map_cons, List.map_cons, hindex, hline, hresponse]
    exact ⟨rfl, rfl, rfl⟩

/-- Numbered from elsewhere, the cases are the same but for their numbers. -/
theorem judged_add (index k : Nat) (lines : List String) (given : List Response) :
    t.judged (index + k) lines given = (t.judged index lines given).map (Case.renumbered k) := by
  induction lines generalizing index given with
  | nil => rfl
  | cons line lines ih =>
    cases given with
    | nil => rfl
    | cons response given =>
      rw [judged, judged, List.map_cons, ← ih, Nat.add_right_comm]
      rfl

/-- Lines in two parts, each with a response for each line, are judged part by part. -/
theorem judged_append {front back : List String} {given given' : List Response}
    (h : given.length = front.length) (index : Nat) :
    t.judged index (front ++ back) (given ++ given') =
      t.judged index front given ++ (t.judged index back given').map (Case.renumbered front.length) := by
  induction front generalizing index given with
  | nil =>
    obtain rfl : given = [] := List.eq_nil_of_length_eq_zero h
    rw [List.length_nil, ← judged_add]
    rfl
  | cons line front ih =>
    obtain ⟨response, given, rfl⟩ := List.exists_cons_of_length_eq_add_one h
    have hrest := ih (Nat.succ.inj h) (index + 1)
    rw [← judged_add] at hrest ⊢
    rw [List.cons_append, List.cons_append, judged, judged, hrest, List.length_cons,
      Nat.add_right_comm, Nat.add_assoc]
    rfl

theorem judge_of_mem_judged {index : Nat} {lines : List String} {given : List Response} {c : Case}
    (h : c ∈ t.judged index lines given) : c = t.judge c.index c.expression c.response := by
  induction lines generalizing index given with
  | nil => cases h
  | cons line lines ih =>
    cases given with
    | nil => cases h
    | cons response given =>
      rcases List.mem_cons.mp h with rfl | h
      · rfl
      · exact ih h

end Testbench

end CalcBench
