import CalcBench.Expression.Symbol
import Mathlib.Tactic.Common
import Mathlib.Data.List.Induction

/-!
# CalcBench.Proofs.Expression.Literals — the literals of texts put together

Put together, two texts have the literals of the one and then those of the other, unless a digit at the
end of the first meets one at the start of the second: then two runs of digits become one.

* `literals_append`: **literals of texts put together**, where they do not.
-/

namespace CalcBench.Expression

def endsInDigit (text : List Char) : Bool := text.getLast?.any Char.isDigit

def beginsWithDigit (text : List Char) : Bool := text.head?.any Char.isDigit

/-- A digit at the end of the first text meets a digit at the start of the second. -/
def DigitsMeet (front back : List Char) : Prop := endsInDigit front ∧ beginsWithDigit back

instance (front back : List Char) : Decidable (DigitsMeet front back) :=
  inferInstanceAs (Decidable (_ ∧ _))

@[simp] theorem endsInDigit_concat (text : List Char) (c : Char) :
    endsInDigit (text ++ [c]) = c.isDigit := by
  rw [endsInDigit, List.getLast?_concat, Option.any_some]

theorem endsInDigit_cons_cons (c d : Char) (text : List Char) :
    endsInDigit (c :: d :: text) = endsInDigit (d :: text) := by
  rw [endsInDigit, List.getLast?_cons_cons, endsInDigit]

theorem operators_append (front back : List Char) :
    operators (front ++ back) = operators front ++ operators back := List.filterMap_append

/-! ### Runs of digits -/

section Cons

variable {c d : Char} {rest : List Char}

theorem digitRuns_cons_of_not_isDigit (h : c.isDigit = false) (rest : List Char) :
    digitRuns (c :: rest) = digitRuns rest := by
  rw [digitRuns.eq_def]
  dsimp only
  rw [h, if_neg Bool.false_ne_true]

theorem digitRuns_cons_of_not_beginsWithDigit (hc : c.isDigit) (h : beginsWithDigit rest = false) :
    digitRuns (c :: rest) = [c] :: digitRuns rest := by
  rw [digitRuns.eq_def]
  dsimp only
  rw [if_pos hc]
  split
  · next d _ run runs hruns =>
    have hd : d.isDigit = false := h
    rw [hd, if_neg Bool.false_ne_true, hruns]
  · rfl

/-- A digit before another one belongs to its run. -/
theorem digitRuns_cons_cons (hc : c.isDigit) (hd : d.isDigit) (rest : List Char) :
    ∃ run runs, digitRuns (d :: rest) = run :: runs ∧
      digitRuns (c :: d :: rest) = (c :: run) :: runs := by
  have hruns : ∃ run runs, digitRuns (d :: rest) = run :: runs := by
    rw [digitRuns.eq_def]
    dsimp only
    rw [if_pos hd]
    split
    · split_ifs <;> exact ⟨_, _, rfl⟩
    · exact ⟨_, _, rfl⟩
  obtain ⟨run, runs, hrest⟩ := hruns
  refine ⟨run, runs, hrest, ?_⟩
  rw [digitRuns.eq_def]
  dsimp only
  rw [if_pos hc, hrest]
  exact if_pos hd

end Cons

theorem digitRuns_of_digits {digits : List Char} (hne : digits ≠ []) (hd : ∀ c ∈ digits, c.isDigit) :
    digitRuns digits = [digits] := by
  induction digits with
  | nil => exact absurd rfl hne
  | cons c rest ih =>
    have hc : c.isDigit := hd c List.mem_cons_self
    cases rest with
    | nil => exact digitRuns_cons_of_not_beginsWithDigit hc rfl
    | cons d rest =>
      have hrest : ∀ e ∈ d :: rest, e.isDigit := fun e he => hd e (List.mem_cons_of_mem c he)
      obtain ⟨run, runs, hruns, hcons⟩ :=
        digitRuns_cons_cons hc (hrest d List.mem_cons_self) rest
      rw [ih (List.cons_ne_nil d rest) hrest] at hruns
      cases hruns
      exact hcons

/-- Texts of which no digits meet keep their runs. -/
theorem digitRuns_append {front back : List Char} (h : ¬ DigitsMeet front back) :
    digitRuns (front ++ back) = digitRuns front ++ digitRuns back := by
  induction front with
  | nil => rfl
  | cons c rest ih =>
    cases hc : c.isDigit with
    | false =>
      have hrest : ¬ DigitsMeet rest back := by
        cases rest with
        | nil => exact fun hmeet => nomatch hmeet.1
        | cons d rest =>
          rw [DigitsMeet, ← endsInDigit_cons_cons c]
          exact h
      rw [List.cons_append, digitRuns_cons_of_not_isDigit hc, digitRuns_cons_of_not_isDigit hc,
        ih hrest]
    | true =>
      cases rest with
      | nil =>
        have hback : beginsWithDigit back = false :=
          Bool.eq_false_iff.mpr fun hback => h ⟨hc, hback⟩
        rw [List.singleton_append, digitRuns_cons_of_not_beginsWithDigit hc hback,
          digitRuns_cons_of_not_beginsWithDigit hc rfl]
        rfl
      | cons d rest =>
        have hrest : ¬ DigitsMeet (d :: rest) back := by
          rw [DigitsMeet, ← endsInDigit_cons_cons c]
          exact h
        have hih := ih hrest
        -- `c` joins the run of `d` or is one by itself, whatever stands behind `d`
        cases hd : d.isDigit with
        | false =>
          have hfront : beginsWithDigit (d :: rest) = false := hd
          have hwhole : beginsWithDigit (d :: rest ++ back) = false := hd
          rw [List.cons_append, digitRuns_cons_of_not_beginsWithDigit hc hwhole,
            digitRuns_cons_of_not_beginsWithDigit hc hfront, hih]
          rfl
        | true =>
          obtain ⟨run, runs, hruns, hcons⟩ := digitRuns_cons_cons hc hd rest
          obtain ⟨run', runs', hruns', hcons'⟩ := digitRuns_cons_cons hc hd (rest ++ back)
          rw [List.cons_append, hruns', hruns] at hih
          obtain ⟨rfl, rfl⟩ := List.cons.inj hih
          rw [List.cons_append, List.cons_append, hcons', hcons]
          rfl

/-- The digits at the end of a text, and what stands before them. -/
theorem exists_digits_at_end {text : List Char} (h : endsInDigit text) :
    ∃ front digits, text = front ++ digits ∧ digits ≠ [] ∧ (∀ c ∈ digits, c.isDigit) ∧
      endsInDigit front = false := by
  induction text using List.reverseRecOn with
  | nil => cases h
  | append_singleton q c ih =>
    have hc : c.isDigit := by rwa [endsInDigit_concat] at h
    cases hq : endsInDigit q with
    | false =>
      refine ⟨q, [c], rfl, List.cons_ne_nil c [], fun d hd => ?_, hq⟩
      rwa [List.mem_singleton.mp hd]
    | true =>
      obtain ⟨front, digits, rfl, -, hdigits, hfront⟩ := ih hq
      refine ⟨front, digits ++ [c], List.append_assoc front digits [c], by simp, fun d hd => ?_, hfront⟩
      rcases List.mem_append.mp hd with hd | hd
      · exact hdigits d hd
      · rwa [List.mem_singleton.mp hd]

/-! ### Literals -/

/-- **Literals of texts put together.** -/
theorem literals_append {front back : List Char} (h : ¬ DigitsMeet front back) :
    literals (front ++ back) = literals front ++ literals back := by
  rw [literals, digitRuns_append h, List.map_append]
  rfl

theorem literals_of_digits {digits : List Char} (hne : digits ≠ []) (hd : ∀ c ∈ digits, c.isDigit) :
    literals digits = [Int64.ofNat (Nat.ofDigitChars 10 digits 0)] := by
  rw [literals, digitRuns_of_digits hne hd, List.map_singleton]

section Concat

variable {q : List Char} {c : Char}

theorem literals_concat_of_not_isDigit (h : c.isDigit = false) :
    literals (q ++ [c]) = literals q := by
  have hmeet : ¬ DigitsMeet q [c] := by
    rintro ⟨-, hc⟩
    exact absurd (h.symm.trans hc) Bool.false_ne_true
  have hnone : literals [c] = [] := by rw [literals, digitRuns_cons_of_not_isDigit h []]; rfl
  rw [literals_append hmeet, hnone, List.append_nil]

theorem literals_concat_first (hq : endsInDigit q = false) (hc : c.isDigit) :
    literals (q ++ [c]) = literals q ++ [Int64.ofNat (Text.digitValue c)] := by
  have hmeet : ¬ DigitsMeet q [c] := fun hmeet => absurd (hq.symm.trans hmeet.1) Bool.false_ne_true
  have hdigits : ∀ d ∈ [c], d.isDigit := fun d hd => by rwa [List.mem_singleton.mp hd]
  rw [literals_append hmeet, literals_of_digits (List.cons_ne_nil c []) hdigits]
  simp [Nat.ofDigitChars_cons, Text.digitValue]

/-- A digit behind another one extends the last literal. -/
theorem literals_concat_next {front : List Int64} {v : Int64} (hq : endsInDigit q) (hc : c.isDigit)
    (hlast : literals q = front ++ [v]) :
    literals (q ++ [c]) = front ++ [v * 10 + Int64.ofNat (Text.digitValue c)] := by
  obtain ⟨before, digits, rfl, hne, hdigits, hbefore⟩ := exists_digits_at_end hq
  have hmeet : ∀ back, ¬ DigitsMeet before back :=
    fun _ hmeet => absurd (hbefore.symm.trans hmeet.1) Bool.false_ne_true
  rw [literals_append (hmeet _), literals_of_digits hne hdigits] at hlast
  obtain ⟨rfl, hv⟩ := List.append_inj' hlast rfl
  have hmore : ∀ d ∈ digits ++ [c], d.isDigit := by
    intro d hd
    rcases List.mem_append.mp hd with hd | hd
    · exact hdigits d hd
    · rwa [List.mem_singleton.mp hd]
  have hvalue : Int64.ofNat (Nat.ofDigitChars 10 (digits ++ [c]) 0) =
      v * 10 + Int64.ofNat (Text.digitValue c) := by
    rw [Nat.ofDigitChars_append, Nat.ofDigitChars_cons, Nat.ofDigitChars_nil, Int64.ofNat_add,
      Int64.ofNat_mul, Int64.mul_comm, List.singleton_inj.mp hv]
    rfl
  rw [List.append_assoc, literals_append (hmeet _), literals_of_digits (by simp) hmore, hvalue]

end Concat

end CalcBench.Expression
