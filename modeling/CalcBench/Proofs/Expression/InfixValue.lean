import CalcBench.Expression.Infix
import CalcBench.Proofs.Expression.Scanning

/-!
# CalcBench.Proofs.Expression.InfixValue — the evaluator computes the value of the syntax tree

The evaluator builds no tree.  What it has done after an operand shows only once the operators that
the operand still waits for are applied, so the statement about a part of an expression is one
about reading it *and then unwinding*: on top of any stacks whose pending operators bind less
tightly, it puts the value of the tree on top, or stops with the fault of the tree, and it logs
the postorder of the tree.

* `evaluate_eq_value`: **the value of a well-formed expression is that of its tree**; a zero
  divisor is the only fault.
-/

namespace CalcBench.Expression

/-! ### Trees on top of stacks -/

/-- The stacks with the value of a tree on top and its operators logged, or the fault of the tree. -/
def Stacks.operand (t : Tree) (s : Stacks) : Except Halt Stacks :=
  match t.value with
  | .ok v => .ok { s with values := v :: s.values, folds := t.folds.reverse ++ s.folds }
  | .error fault => .error ⟨fault, t.folds.reverse ++ s.folds⟩

namespace Tree

/-- Nothing but a zero divisor keeps a tree from having a value. -/
theorem fault_eq_divisionByZero {t : Tree} {fault : Fault} (h : t.value = .error fault) :
    fault = .divisionByZero := by
  induction t with
  | literal n => cases h
  | node op lhs rhs ihl ihr =>
    rw [value] at h
    split at h
    · next e hl =>
      cases h
      exact ihl hl
    · split at h
      · next e hr =>
        cases h
        exact ihr hr
      · exact (Operator.apply_eq_error_iff.mp h).2.2

end Tree

namespace Stacks

/-- An operand leaves the pending operators alone, so what stopped before it stops after it. -/
theorem operand_bind_unwind {t : Tree} {s : Stacks} {rank : Nat} (h : Stops rank s.pending) :
    (s.operand t).bind (·.unwind rank) = s.operand t := by
  unfold operand
  split
  · exact unwind_of_stops h
  · rfl

/-- Unwinding far enough, an operator that waits between its two operands makes one operand of
them. -/
theorem operand_node_bind_unwind {op : Operator} {lhs rhs : Tree} {s : Stacks} {rank : Nat}
    (h : rank ≤ op.precedence) :
    (s.operand (.node op lhs rhs)).bind (·.unwind rank) =
      (s.operand lhs).bind fun s' => ((s'.await op).operand rhs).bind (·.unwind rank) := by
  unfold operand
  simp only [Tree.value, Tree.folds]
  cases lhs.value with
  | error fault => simp [Except.bind]
  | ok a =>
    cases rhs.value with
    | error fault => simp [await, Except.bind]
    | ok b =>
      simp only [ok_bind, await, unwind]
      rw [unwindFrom_apply h]
      cases op.apply a b with
      | error fault => simp [Except.bind]
      | ok result => simp

/-- An operand above a barrier is all that is above it. -/
theorem operand_opening_bind_dropBarrier (t : Tree) (s : Stacks) :
    ((s.opening.operand t).bind (·.unwind 0)).bind dropBarrier = s.operand t := by
  rw [operand_bind_unwind (stops_opened 0 s.pending)]
  unfold operand
  cases t.value with
  | error fault => rfl
  | ok v => rfl

end Stacks

/-! ### Reading an expression on top of stacks -/

theorem Writes.digits {digits : List Char} {n : Nat} (hne : digits ≠ [])
    (hd : digits.all Char.isDigit) (hn : Nat.ofDigitChars 10 digits 0 = n) :
    Writes 3 (.literal n) digits :=
  hn ▸ .literal hne (List.all_eq_true.mp hd)

/-- Reading an operand and an operator leaves, up to the place in the text, the operand with the
operator waiting. -/
theorem run_append_symbol_bind {β : Type} {s : Scan} {front back : List Char} {op : Operator}
    (k : Scan → Except Halt β) :
    ((s.run (front ++ op.symbol :: back)).bind k) =
      (s.run front).bind fun s₁ => (s₁.work.unwind op.precedence).bind fun w =>
        ((Scan.run ⟨w.await op, s₁.offset + op.symbol.utf8Size, false⟩ back).bind k) := by
  rw [Scan.run_append]
  cases s.run front with
  | error halt => rfl
  | ok s₁ =>
    simp only [ok_bind]
    rw [Scan.run_cons, Scan.step_symbol, Stacks.operator_eq_bind]
    cases s₁.work.unwind op.precedence with
    | error halt => rfl
    | ok w => rfl

/-- Reading a text in parentheses is reading the text above a barrier, unwinding down to the barrier
and dropping it. -/
theorem run_group_bind {β : Type} {s : Scan} {text : List Char} (k : Stacks → Except Halt β) :
    ((s.run ('(' :: (text ++ [')']))).bind fun s' => k s'.work) =
      ((Scan.run ⟨s.work.opening, s.offset + '('.utf8Size, false⟩ text).bind fun s₁ =>
        s₁.work.unwind 0).bind fun w => w.dropBarrier.bind k := by
  rw [Scan.run_cons, Scan.step_opening]
  simp only [ok_bind]
  rw [Scan.run_append]
  cases Scan.run ⟨s.work.opening, s.offset + '('.utf8Size, false⟩ text with
  | error halt => rfl
  | ok s₁ =>
    simp only [ok_bind]
    rw [Scan.run_cons, Scan.step_closing, Stacks.closing_eq_bind]
    cases s₁.work.unwind 0 with
    | error halt => rfl
    | ok w =>
      simp only [ok_bind]
      cases w.dropBarrier with
      | error halt => rfl
      | ok w' => rfl

/-- Reading an expression and then unwinding at most to its rank is putting its tree on top and
then unwinding: no operator of the surroundings is applied before. -/
theorem Writes.run_unwind {rank : Nat} {t : Tree} {text : List Char} (h : Writes rank t text) :
    ∀ {s : Scan}, s.inLiteral = false → Stops rank s.work.pending → ∀ {r : Nat}, r ≤ rank →
      ((s.run text).bind fun s' => s'.work.unwind r) = (s.work.operand t).bind (·.unwind r) := by
  induction h using Writes.induct with
  | @literal digits hne hd =>
    intro s hs _ r _
    obtain ⟨offset, hrun⟩ := Scan.run_literal hne hd hs
    rw [hrun]
    rfl
  | @group t text _ ih =>
    intro s _ _ r _
    rw [run_group_bind (·.unwind r), ih rfl (stops_opened 1 _) (Nat.zero_le 1), ← bind_bind,
      Stacks.operand_opening_bind_dropBarrier]
  | @node op lhs rhs front back _ _ ihl ihr =>
    intro s hs hstop r hr
    calc ((s.run (front ++ op.symbol :: back)).bind fun s' => s'.work.unwind r)
      _ = (s.run front).bind fun s₁ => (s₁.work.unwind op.precedence).bind fun w =>
            ((w.await op).operand rhs).bind (·.unwind r) := by
          rw [run_append_symbol_bind]
          -- the operator that waits binds less tightly than the right operand, whatever is below
          congr 1; funext s₁; congr 1; funext w
          exact ihr rfl (Nat.lt_succ_self _) (Nat.le_succ_of_le hr)
      _ = ((s.run front).bind fun s₁ => s₁.work.unwind op.precedence).bind fun w =>
            ((w.await op).operand rhs).bind (·.unwind r) := (bind_bind (s.run front) _ _).symm
      _ = (s.work.operand lhs).bind fun w => ((w.await op).operand rhs).bind (·.unwind r) := by
          rw [ihl hs hstop (Nat.le_refl _), Stacks.operand_bind_unwind hstop]
      _ = (s.work.operand (.node op lhs rhs)).bind (·.unwind r) :=
          (Stacks.operand_node_bind_unwind hr).symm
  | tighter _ ih =>
    intro s hs hstop r hr
    exact ih hs (hstop.mono (Nat.le_succ _)) (Nat.le_succ_of_le hr)
  | @skipBefore rank t text c hc _ ih =>
    intro s _ hstop r hr
    rw [Scan.run_cons, Scan.step_skipped hc]
    exact ih (s := ⟨s.work, s.offset + c.utf8Size, false⟩) rfl hstop hr
  | @skipAfter rank t text c hc _ ih =>
    intro s hs hstop r hr
    rw [← ih hs hstop hr, Scan.run_append]
    cases s.run text with
    | error halt => rfl
    | ok s₁ =>
      simp only [ok_bind]
      rw [Scan.run_cons, Scan.step_skipped hc]
      rfl

/-! ### Whole expressions -/

/-- What an evaluation of a well-formed expression gives is read off its tree. -/
theorem evaluation_of_writes {t : Tree} {text : List Char} (h : Writes 1 t text) :
    evaluation text = ⟨t.value, t.folds⟩ := by
  have hrun : ((Scan.run {} text).bind fun s => s.work.finish) =
      (Stacks.operand t {}).bind Stacks.onlyValue := by
    calc ((Scan.run {} text).bind fun s => s.work.finish)
      _ = ((Scan.run {} text).bind fun s => s.work.unwind 0).bind Stacks.onlyValue := by
          simp only [Stacks.finish_eq_bind]
          exact (bind_bind (Scan.run {} text) _ _).symm
      _ = (Stacks.operand t {}).bind Stacks.onlyValue := by
          rw [h.run_unwind rfl (stops_nil 1) (Nat.zero_le 1),
            Stacks.operand_bind_unwind (stops_nil 0)]
  unfold evaluation
  rw [hrun, Stacks.operand]
  cases t.value with
  | error fault => simp [Except.bind]
  | ok v => simp [Except.bind, Stacks.onlyValue]

/-- **Infix correctness**: a well-formed expression, however spaced, has the value of its syntax
tree, and a zero divisor is the only fault that it can have. -/
theorem evaluate_eq_value {text : String} {t : Tree} (h : Writes 1 t text.toList) :
    evaluate text = t.value ∧ ∀ fault, evaluate text = .error fault → fault = .divisionByZero := by
  have hv : evaluate text = t.value := by rw [evaluate, evaluation_of_writes h]
  refine ⟨hv, fun fault hf => ?_⟩
  rw [hv] at hf
  exact Tree.fault_eq_divisionByZero hf

/-- Rank, grouping and spacing at once: 8 less the product of 2 + 3 and 4. -/
theorem evaluate_difference_of_product :
    ∃ t : Tree, Writes 1 t " 8-(2+\t03)*4=".toList ∧ evaluate " 8-(2+\t03)*4=" = t.value ∧
      t.value = .ok (-12) := by
  have h2 : Writes 3 (.literal 2) ['2'] := .digits (by decide) rfl rfl
  have h3 : Writes 3 (.literal 3) ['0', '3'] := .digits (by decide) rfl rfl
  have h4 : Writes 3 (.literal 4) ['4'] := .digits (by decide) rfl rfl
  have h8 : Writes 3 (.literal 8) ['8'] := .digits (by decide) rfl rfl
  have hsum : Writes 3 (.node .add (.literal 2) (.literal 3)) "(2+\t03)".toList :=
    .group (.add (.tighter (.tighter h2)) (.tighter (.skipBefore (c := '\t') rfl h3)))
  have hproduct : Writes 2 (.node .mul (.node .add (.literal 2) (.literal 3)) (.literal 4))
      "(2+\t03)*4".toList :=
    .mul (.tighter hsum) h4
  have ht : Writes 1 _ " 8-(2+\t03)*4=".toList :=
    .skipAfter (c := '=') rfl
      (.sub (.skipBefore (c := ' ') rfl (.tighter (.tighter h8))) hproduct)
  exact ⟨_, ht, (evaluate_eq_value ht).1, rfl⟩

end CalcBench.Expression
