import CalcBench.Proofs.Expression.InfixValue
import CalcBench.Proofs.Expression.PostfixForm

/-!
# CalcBench.Proofs.Expression.TokenOrder — which texts the evaluator accepts

The evaluator never looks at which token follows which.  A text has a value as soon as its
operators, applied where rank and parentheses release them, find two operands each and one value is
left; so `1 2+` has the value 3.  What it accepts beyond the infix expressions differs from them in
the order of the tokens and in nothing else.

* `evaluate_eq_ok_iff`: **accepted is what has the postfix form of a tree; infix is what is
  accepted and in order**.
-/

namespace CalcBench.Expression

open Postfix

/-! ### The order of tokens -/

/-- What an infix expression lets come next. -/
inductive Due where
  /-- An operand or an opening parenthesis. -/
  | operand
  /-- An operator, a closing parenthesis or the end. -/
  | operator
  /-- The same, or another digit of the literal just read. -/
  | digit
  deriving DecidableEq

/-- What is due after one more character, if it may stand here. -/
def Due.next : Due → Symbol → Option Due
  | .operand, .skipped => some .operand
  | .operand, .digit _ => some .digit
  | .operand, .opening => some .operand
  | .digit, .digit _ => some .digit
  | .operator, .skipped | .digit, .skipped => some .operator
  | .operator, .closing | .digit, .closing => some .operator
  | .operator, .operator _ | .digit, .operator _ => some .operand
  | _, _ => none

/-- What is due after a text, if all its tokens may stand where they are. -/
def Due.after (due : Due) : List Char → Option Due
  | [] => some due
  | c :: rest => (due.next (Symbol.ofChar c)).bind (·.after rest)

/-- Every token stands where an infix expression can have one: operands and opening parentheses at
the start, after an operator or after an opening parenthesis, all else after an operand. -/
def inOrder (text : List Char) : Bool :=
  match Due.operand.after text with
  | some .operator | some .digit => true
  | _ => false

theorem Due.after_append (due : Due) (front back : List Char) :
    due.after (front ++ back) = (due.after front).bind (·.after back) := by
  induction front generalizing due with
  | nil => rfl
  | cons c rest ih =>
    simp only [List.cons_append, after]
    cases due.next (Symbol.ofChar c) with
    | none => rfl
    | some due' => exact ih due'

theorem inOrder_iff {text : List Char} :
    inOrder text ↔ ∃ due, Due.operand.after text = some due ∧ due ≠ .operand := by
  unfold inOrder
  cases Due.operand.after text with
  | none => simp
  | some due => cases due <;> simp

theorem Due.next_skipped {due : Due} (h : due ≠ .operand) : due.next .skipped = some .operator := by
  cases due <;> first | rfl | exact absurd rfl h

theorem Due.next_closing {due : Due} (h : due ≠ .operand) : due.next .closing = some .operator := by
  cases due <;> first | rfl | exact absurd rfl h

theorem Due.next_operator {due : Due} (h : due ≠ .operand) (op : Operator) :
    due.next (.operator op) = some .operand := by
  cases due <;> first | rfl | exact absurd rfl h

theorem Due.after_digits {digits : List Char} (hd : ∀ c ∈ digits, c.isDigit) :
    Due.digit.after digits = some .digit := by
  induction digits with
  | nil => rfl
  | cons c rest ih =>
    rw [after, Symbol.ofChar_eq_digit_iff.mpr ⟨hd c List.mem_cons_self, rfl⟩]
    exact ih fun d hd' => hd d (List.mem_cons_of_mem c hd')

/-- The tokens of an infix expression are in order. -/
theorem Writes.inOrder {rank : Nat} {t : Tree} {text : List Char} (h : Writes rank t text) :
    inOrder text := by
  rw [inOrder_iff]
  induction h using Writes.induct with
  | @literal digits hne hd =>
    obtain ⟨c, rest, rfl⟩ := List.exists_cons_of_ne_nil hne
    refine ⟨.digit, ?_, nofun⟩
    rw [Due.after, Symbol.ofChar_eq_digit_iff.mpr ⟨hd c List.mem_cons_self, rfl⟩]
    exact Due.after_digits fun d hd' => hd d (List.mem_cons_of_mem c hd')
  | @group t text _ ih =>
    obtain ⟨due, hdue, hne⟩ := ih
    refine ⟨.operator, ?_, nofun⟩
    have hopen : Due.operand.after ('(' :: (text ++ [')'])) = Due.operand.after (text ++ [')']) := rfl
    rw [hopen, Due.after_append, hdue]
    show (due.next .closing).bind (·.after []) = _
    rw [Due.next_closing hne]
    rfl
  | @node op lhs rhs front back _ _ ihl ihr =>
    obtain ⟨due, hdue, hne⟩ := ihl
    obtain ⟨due', hdue', hne'⟩ := ihr
    -- behind the left operand an operator may follow, and behind that an operand is due, as at the start
    refine ⟨due', ?_, hne'⟩
    rw [Due.after_append, hdue, Option.bind_some, Due.after,
      Symbol.ofChar_eq_operator_iff.mpr rfl, Due.next_operator hne]
    exact hdue'
  | tighter _ ih => exact ih
  | @skipBefore rank t text c hc _ ih =>
    obtain ⟨due, hdue, hne⟩ := ih
    refine ⟨due, ?_, hne⟩
    rw [Due.after, Symbol.ofChar_eq_skipped_iff.mpr hc]
    exact hdue
  | @skipAfter rank t text c hc _ ih =>
    obtain ⟨due, hdue, hne⟩ := ih
    refine ⟨.operator, ?_, nofun⟩
    rw [Due.after_append, hdue, Option.bind_some, Due.after,
      Symbol.ofChar_eq_skipped_iff.mpr hc, Due.next_skipped hne]
    rfl

/-! ### Expressions that have begun -/

/-- Nothing but skipped characters. -/
def IsGap (gap : List Char) : Prop := ∀ c ∈ gap, isSkipped c

instance (gap : List Char) : Decidable (IsGap gap) :=
  decidable_of_iff (gap.all isSkipped = true) List.all_eq_true

theorem isGap_nil : IsGap [] := List.forall_mem_nil _

theorem Writes.gap_append {rank : Nat} {t : Tree} {text gap : List Char} (hg : IsGap gap)
    (h : Writes rank t text) : Writes rank t (gap ++ text) := by
  induction gap with
  | nil => exact h
  | cons c rest ih =>
    exact .skipBefore (hg c List.mem_cons_self)
      (ih fun d hd => hg d (List.mem_cons_of_mem c hd))

theorem Writes.of_le {rank rank' : Nat} {t : Tree} {text : List Char} (h : Writes rank' t text)
    (hle : rank ≤ rank') : Writes rank t text := by
  induction hle with
  | refl => exact h
  | step _ ih => exact ih (.tighter h)

theorem IsGap.append_singleton {gap : List Char} {c : Char} (hg : IsGap gap) (hc : isSkipped c) :
    IsGap (gap ++ [c]) := by
  intro d hd
  rcases List.mem_append.mp hd with hd | hd
  · exact hg d hd
  · rw [List.mem_singleton.mp hd]
    exact hc

/-- `AwaitsOperand pending text`: the text is the start of an expression up to where an operand is
due, and `pending` are the parentheses that are open and the operators that wait for that operand,
the innermost first.  Each operator has its left operand before it. -/
inductive AwaitsOperand : List Pending → List Char → Prop where
  | start {gap : List Char} : IsGap gap → AwaitsOperand [] gap
  | opened {pending : List Pending} {text gap : List Char} : AwaitsOperand pending text →
      IsGap gap → AwaitsOperand (.opened :: pending) (text ++ '(' :: gap)
  | apply {pending : List Pending} {op : Operator} {lhs : Tree} {text front gap : List Char} :
      AwaitsOperand pending text → Stops op.precedence pending → Writes op.precedence lhs front →
      IsGap gap → AwaitsOperand (.apply op :: pending) (text ++ (front ++ op.symbol :: gap))

/-- `HasOperand rank pending text`: the text is such a start with an operand behind it, which has the
rank `rank` and binds more tightly than the operator that waits for it. -/
def HasOperand (rank : Nat) (pending : List Pending) (text : List Char) : Prop :=
  ∃ before operand t, AwaitsOperand pending before ∧ Stops rank pending ∧ Writes rank t operand ∧
    text = before ++ operand

theorem AwaitsOperand.append_skipped {pending : List Pending} {text : List Char} {c : Char}
    (h : AwaitsOperand pending text) (hc : isSkipped c) : AwaitsOperand pending (text ++ [c]) := by
  cases h with
  | start hg => exact .start (hg.append_singleton hc)
  | opened h hg =>
    rw [List.append_assoc, List.cons_append]
    exact .opened h (hg.append_singleton hc)
  | apply h hs hw hg =>
    simp only [List.append_assoc, List.cons_append]
    exact .apply h hs hw (hg.append_singleton hc)

/-- Unwinding makes one operand of the last operand and those of the operators it applies. -/
theorem HasOperand.of_unwindFrom {rank rank' : Nat} {pending : List Pending} {text : List Char}
    (h : HasOperand rank' pending text) (hle : rank ≤ rank') {values : List Int64}
    {folds : List Fold} {s : Stacks}
    (hu : Stacks.unwindFrom rank values folds pending = .ok s) : HasOperand rank s.pending text := by
  induction pending generalizing rank' values folds with
  | nil =>
    obtain ⟨before, operand, t, hb, -, hw, rfl⟩ := h
    cases hu
    exact ⟨before, operand, t, hb, stops_nil rank, hw.of_le hle, rfl⟩
  | cons entry below ih =>
    obtain ⟨before, operand, t, hb, hstop, hw, rfl⟩ := h
    cases entry with
    | opened =>
      cases hu
      exact ⟨before, operand, t, hb, stops_opened rank below, hw.of_le hle, rfl⟩
    | apply op =>
      by_cases hr : rank ≤ op.precedence
      · rw [Stacks.unwindFrom, if_pos hr] at hu
        split at hu
        · -- the operand becomes the right one of `op`, whose left one stands before it
          cases hb with
          | @apply _ _ lhs start front gap hb' hstop' hl hg =>
            have hrhs : Writes (op.precedence + 1) t (gap ++ operand) :=
              (hw.of_le hstop).gap_append hg
            refine ih ⟨start, front ++ op.symbol :: (gap ++ operand), .node op lhs t, hb', hstop',
              .node hl hrhs, ?_⟩ hr hu
            simp only [List.append_assoc, List.cons_append]
        · cases hu
      · have hs : Stops rank (.apply op :: below) := Nat.not_le.mp hr
        rw [Stacks.unwindFrom_of_stops hs] at hu
        cases hu
        exact ⟨before, operand, t, hb, hs, hw.of_le hle, rfl⟩

/-! ### Scanning tokens in order -/

/-- What the text read so far is a part of, by what is due next. -/
def Begun (due : Due) (pending : List Pending) (text : List Char) : Prop :=
  match due with
  | .operand => AwaitsOperand pending text
  | .operator => HasOperand 3 pending text
  | .digit => ∃ before digits, AwaitsOperand pending before ∧ digits ≠ [] ∧
      (∀ c ∈ digits, c.isDigit) ∧ text = before ++ digits

theorem Begun.hasOperand {due : Due} {pending : List Pending} {text : List Char}
    (h : Begun due pending text) (hne : due ≠ .operand) : HasOperand 3 pending text := by
  cases due with
  | operand => exact absurd rfl hne
  | operator => exact h
  | digit =>
    obtain ⟨before, digits, hb, hd, hall, rfl⟩ := h
    exact ⟨before, digits, _, hb, stops_three pending, .literal hd hall, rfl⟩

theorem HasOperand.append_skipped {rank : Nat} {pending : List Pending} {text : List Char} {c : Char}
    (h : HasOperand rank pending text) (hc : isSkipped c) :
    HasOperand rank pending (text ++ [c]) := by
  obtain ⟨before, operand, t, hb, hstop, hw, rfl⟩ := h
  exact ⟨before, operand ++ [c], t, hb, hstop, .skipAfter hc hw, List.append_assoc _ _ _⟩

/-- An expression between parentheses is an operand. -/
theorem HasOperand.close {below : List Pending} {text : List Char}
    (h : HasOperand 1 (.opened :: below) text) : HasOperand 3 below (text ++ [')']) := by
  obtain ⟨before, operand, t, hb, -, hw, rfl⟩ := h
  cases hb with
  | @opened _ start gap hb' hg =>
    refine ⟨start, '(' :: ((gap ++ operand) ++ [')']), t, hb', stops_three below,
      .group (hw.gap_append hg), ?_⟩
    simp only [List.append_assoc, List.cons_append]

/-- Behind an operand an operator may follow that binds at most as tightly. -/
theorem HasOperand.await {op : Operator} {pending : List Pending} {text : List Char}
    (h : HasOperand op.precedence pending text) :
    AwaitsOperand (.apply op :: pending) (text ++ [op.symbol]) := by
  obtain ⟨before, operand, t, hb, hstop, hw, rfl⟩ := h
  rw [List.append_assoc]
  exact .apply hb hstop hw isGap_nil

/-! ### One character further -/

namespace Begun

variable {due due' : Due} {text : List Char}

theorem append_skipped {pending : List Pending} {c : Char} (h : Begun due pending text)
    (hc : isSkipped c) (hd : due.next .skipped = some due') :
    Begun due' pending (text ++ [c]) := by
  by_cases hne : due = .operand
  · subst hne
    cases hd
    exact AwaitsOperand.append_skipped h hc
  · rw [Due.next_skipped hne] at hd
    cases hd
    exact (h.hasOperand hne).append_skipped hc

theorem append_digit {pending : List Pending} {c : Char} {d : Nat} (h : Begun due pending text)
    (hc : c.isDigit) (hd : due.next (.digit d) = some due') :
    Begun due' pending (text ++ [c]) := by
  cases due with
  | operand =>
    cases hd
    exact ⟨text, [c], h, nofun, fun d hd' => List.mem_singleton.mp hd' ▸ hc, rfl⟩
  | operator => cases hd
  | digit =>
    cases hd
    obtain ⟨before, digits, hb, -, hall, rfl⟩ := h
    have hne : digits ++ [c] ≠ [] := List.append_ne_nil_of_right_ne_nil digits nofun
    refine ⟨before, digits ++ [c], hb, hne, fun d hd' => ?_, List.append_assoc _ _ _⟩
    rcases List.mem_append.mp hd' with hd' | hd'
    · exact hall d hd'
    · exact List.mem_singleton.mp hd' ▸ hc

theorem append_opening {pending : List Pending} (h : Begun due pending text)
    (hd : due.next .opening = some due') : Begun due' (.opened :: pending) (text ++ ['(']) := by
  cases due with
  | operand =>
    cases hd
    exact .opened h isGap_nil
  | operator => cases hd
  | digit => cases hd

theorem append_closing {s s' : Stacks} (h : Begun due s.pending text)
    (hs : s.closing = .ok s') (hd : due.next .closing = some due') :
    Begun due' s'.pending (text ++ [')']) := by
  have hne : due ≠ .operand := by
    rintro rfl
    cases hd
  rw [Due.next_closing hne] at hd
  cases hd
  rw [Stacks.closing_eq_bind] at hs
  obtain ⟨w, hu, hdrop⟩ := bind_eq_ok hs
  rw [Stacks.unwind, Stacks.unwindFrom_zero] at hu
  have hoperand := (h.hasOperand hne).of_unwindFrom (by decide) hu
  rw [Stacks.pending_of_dropBarrier hdrop] at hoperand
  exact hoperand.close

theorem append_operator {op : Operator} {s s' : Stacks} (h : Begun due s.pending text)
    (hs : s.operator op = .ok s') (hd : due.next (.operator op) = some due') :
    Begun due' s'.pending (text ++ [op.symbol]) := by
  have hne : due ≠ .operand := by
    rintro rfl
    cases hd
  rw [Due.next_operator hne] at hd
  cases hd
  rw [Stacks.operator_eq_bind] at hs
  obtain ⟨w, hu, hw⟩ := bind_eq_ok hs
  cases hw
  have hle : op.precedence ≤ 3 := Nat.le_succ_of_le op.precedence_le_two
  exact ((h.hasOperand hne).of_unwindFrom hle hu).await

/-- A token in order that the evaluator takes continues the expression. -/
theorem step {s s' : Scan} {c : Char} (h : Begun due s.work.pending text)
    (hs : s.step c = .ok s') (hd : due.next (Symbol.ofChar c) = some due') :
    Begun due' s'.work.pending (text ++ [c]) := by
  cases hc : Symbol.ofChar c with
  | skipped =>
    have hskip : isSkipped c := Symbol.ofChar_eq_skipped_iff.mp hc
    rw [Scan.step_skipped hskip] at hs
    cases hs
    exact h.append_skipped hskip (hc ▸ hd)
  | digit d =>
    have hdigit : c.isDigit := (Symbol.ofChar_eq_digit_iff.mp hc).1
    rw [Scan.step_digit hdigit] at hs
    cases hs
    rw [Stacks.digit_pending]
    exact h.append_digit hdigit (hc ▸ hd)
  | opening =>
    obtain rfl : c = '(' := Symbol.ofChar_eq_opening_iff.mp hc
    cases hs
    exact h.append_opening hd
  | closing =>
    obtain rfl : c = ')' := Symbol.ofChar_eq_closing_iff.mp hc
    rw [Scan.step_closing] at hs
    obtain ⟨work, hclose, rfl⟩ := map_eq_ok hs
    exact h.append_closing hclose hd
  | operator op =>
    obtain rfl : c = op.symbol := Symbol.ofChar_eq_operator_iff.mp hc
    rw [Scan.step_symbol] at hs
    obtain ⟨work, hop, rfl⟩ := map_eq_ok hs
    exact h.append_operator hop (hc ▸ hd)
  | foreign =>
    rw [Scan.step, hc] at hs
    cases hs

theorem run {s s' : Scan} {rest : List Char}
    (h : Begun due s.work.pending text) (hs : s.run rest = .ok s')
    (hd : due.after rest = some due') : Begun due' s'.work.pending (text ++ rest) := by
  induction rest generalizing due s text with
  | nil =>
    cases hs
    cases hd
    rw [List.append_nil]
    exact h
  | cons c rest ih =>
    rw [Scan.run_cons] at hs
    obtain ⟨s₁, hstep, hrun⟩ := bind_eq_ok hs
    obtain ⟨due₁, hnext, hafter⟩ := Option.bind_eq_some_iff.mp hd
    have := ih (h.step hstep hnext) hrun hafter
    rwa [List.append_assoc] at this

end Begun

/-- Tokens in order that the evaluator reads to their end, parentheses included, are an infix
expression. -/
theorem isInfix_of_inOrder {text : List Char} (ho : inOrder text) {v : Int64} {folds : List Fold}
    (h : ((Scan.run {} text).bind fun s => s.work.finish) = .ok (v, folds)) : IsInfix text := by
  obtain ⟨due, hdue, hne⟩ := inOrder_iff.mp ho
  obtain ⟨s, hrun, hfinish⟩ := bind_eq_ok h
  rw [Stacks.finish_eq_bind] at hfinish
  obtain ⟨w, hu, honly⟩ := bind_eq_ok hfinish
  rw [Stacks.unwind, Stacks.unwindFrom_zero] at hu
  have hstart : Begun .operand ({} : Scan).work.pending [] := .start isGap_nil
  have hbegun : Begun due s.work.pending text := hstart.run hrun hdue
  have hoperand : HasOperand 1 w.pending text :=
    (hbegun.hasOperand hne).of_unwindFrom (by decide) hu
  rw [Stacks.pending_of_onlyValue honly] at hoperand
  obtain ⟨gap, operand, t, hb, -, hw, rfl⟩ := hoperand
  cases hb with
  | start hg => exact ⟨t, hw.gap_append hg⟩

/-! ### What is accepted -/

/-- **Acceptance.**  A text has the value `v` exactly if its literals and its operators, each where
rank and parentheses release it, are the postfix form of a syntax tree with the value `v`; and it
has a value with all tokens in order exactly if it is an infix expression with that value. -/
theorem evaluate_eq_ok_iff (text : String) (v : Int64) :
    (evaluate text = .ok v ↔
      ∃ t : Tree, ofText text.toList = ⟨t.code, none⟩ ∧ t.value = .ok v) ∧
    (evaluate text = .ok v ∧ inOrder text.toList ↔
      ∃ t : Tree, Writes 1 t text.toList ∧ t.value = .ok v) := by
  refine ⟨?_, ?_, ?_⟩
  · rw [evaluate_eq_result]
    exact Program.result_eq_ok_iff
  · rintro ⟨hv, ho⟩
    obtain ⟨folds, hrun⟩ := run_finish_of_evaluate hv
    obtain ⟨t, ht⟩ := isInfix_of_inOrder ho hrun
    refine ⟨t, ht, ?_⟩
    rw [← hv, evaluate, evaluation_of_writes ht]
  · rintro ⟨t, ht, hv⟩
    refine ⟨?_, ht.inOrder⟩
    rw [evaluate, evaluation_of_writes ht]
    exact hv

/-- Postfix order is accepted where operands and operators balance: `1 2+` has the value 3. -/
theorem exists_ok_not_isInfix :
    ¬ ∀ (text : String) (v : Int64), evaluate text = .ok v → IsInfix text.toList := by
  intro h
  obtain ⟨t, ht⟩ := h "1 2+" 3 rfl
  exact absurd ht.inOrder (by decide)

end CalcBench.Expression
