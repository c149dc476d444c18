import CalcBench.Proofs.Expression.Transitions

/-!
# CalcBench.Proofs.Expression.Barrier — what stands below a barrier is never touched

A text that can be read on empty stacks takes operands and operators from its own values and its own
pending operators only.  On top of other stacks, with a barrier or nothing to meet first, it does the
same and leaves what is below as it was.

* `Scan.run_above`: **and so does a text**.
-/

namespace CalcBench.Expression

namespace Stacks

variable {w w' low : Stacks}

/-- The stacks `w` on top of the stacks `low`. -/
def above (low w : Stacks) : Stacks :=
  ⟨w.values ++ low.values, w.pending ++ low.pending, w.folds ++ low.folds⟩

/-- Unwinding goes no further than on its own: it stops at the latest where `low` begins. -/
theorem unwind_above {rank : Nat} (hlow : Stops rank low.pending) (h : w.unwind rank = .ok w') :
    (low.above w).unwind rank = .ok (low.above w') := by
  obtain ⟨values, pending, folds⟩ := w
  induction pending generalizing values folds with
  | nil =>
    cases h
    exact unwind_of_stops hlow
  | cons entry below ih =>
    by_cases hstop : Stops rank (entry :: below)
    · rw [unwind_of_stops hstop] at h
      cases h
      exact unwind_of_stops (by cases entry <;> exact hstop)
    · cases entry with
      | opened => exact absurd (stops_opened rank below) hstop
      | apply op =>
        have hr : rank ≤ op.precedence := Nat.not_lt.mp hstop
        obtain ⟨lhs, rhs, rest, result, rfl, ha, hrest⟩ := unwindFrom_apply_eq_ok hr h
        have hnext := ih (result :: rest) (⟨op, lhs, rhs, result⟩ :: folds) hrest
        show unwindFrom rank (rhs :: lhs :: (rest ++ low.values)) (folds ++ low.folds)
          (.apply op :: (below ++ low.pending)) = _
        rw [unwindFrom_apply hr, ha]
        exact hnext

/-- A digit continues the literal on top, if there is one to continue. -/
theorem digit_above {continues : Bool} (hc : continues → w.values ≠ []) (d : Nat) :
    (low.above w).digit continues d = low.above (w.digit continues d) := by
  obtain ⟨values, pending, folds⟩ := w
  cases continues with
  | false => rfl
  | true =>
    obtain ⟨v, rest, rfl⟩ := List.exists_cons_of_ne_nil (hc rfl)
    rfl

/-- A character does on top of other stacks what it does on empty ones. -/
theorem Takes.above {inLiteral : Bool} {c : Char} (hlow : Stops 0 low.pending)
    (hl : inLiteral → w.values ≠ []) (h : w.Takes inLiteral c w') :
    (low.above w).Takes inLiteral c (low.above w') := by
  cases h with
  | skipped hc => exact .skipped hc
  | digit hc =>
    rw [← digit_above hl]
    exact .digit hc
  | opening => exact .opening
  | closing hu => exact .closing (unwind_above hlow hu)
  | operator hu => exact .operator (unwind_above (hlow.mono (Nat.zero_le _)) hu)

theorem Takes.values_ne_nil {c : Char} {inLiteral : Bool} (h : w.Takes inLiteral c w')
    (hc : c.isDigit) : w'.values ≠ [] := by
  cases h with
  | skipped hskip =>
    rw [Symbol.isDigit_eq_false_of_isSkipped hskip] at hc
    cases hc
  | digit =>
    unfold Stacks.digit
    split <;> exact List.cons_ne_nil _ _
  | opening => cases hc
  | closing => cases hc
  | @operator op => cases op <;> cases hc

end Stacks

/-- A text that is read is read likewise on top of other stacks. -/
theorem Scan.run_above {s s' : Scan} {text : List Char} {low : Stacks}
    (hlow : Stops 0 low.pending) (hs : s.inLiteral → s.work.values ≠ [])
    (h : s.run text = .ok s') (offset : Nat) :
    Scan.run ⟨low.above s.work, offset, s.inLiteral⟩ text =
      .ok ⟨low.above s'.work, offset + utf8Length text, s'.inLiteral⟩ := by
  induction text generalizing s offset with
  | nil =>
    cases h
    rfl
  | cons c rest ih =>
    rw [run_cons] at h
    obtain ⟨s₁, hstep, hrun⟩ := bind_eq_ok h
    obtain ⟨htakes, -, hliteral⟩ := step_eq_ok_iff.mp hstep
    have habove : Scan.step ⟨low.above s.work, offset, s.inLiteral⟩ c =
        .ok ⟨low.above s₁.work, offset + c.utf8Size, s₁.inLiteral⟩ :=
      step_eq_ok_iff.mpr ⟨htakes.above hlow hs, rfl, hliteral⟩
    rw [run_cons, habove, ok_bind, utf8Length, ← Nat.add_assoc]
    exact ih (fun hl => htakes.values_ne_nil (hliteral ▸ hl)) hrun _

/-- **Barrier.**  An accepted text, read where a barrier or nothing is next, puts its value on top once
its operators are unwound, and nothing else changes. -/
theorem exists_run_of_evaluate {text : String} {v : Int64} (h : evaluate text = .ok v) (low : Stacks)
    (hlow : Stops 0 low.pending) (offset : Nat) :
    ∃ s folds, Scan.run ⟨low, offset, false⟩ text.toList = .ok s ∧
      s.work.unwind 0 = .ok ⟨v :: low.values, low.pending, folds⟩ := by
  obtain ⟨folds, hend⟩ := run_finish_of_evaluate h
  obtain ⟨s, hrun, hfinish⟩ := bind_eq_ok hend
  rw [Stacks.finish_eq_bind] at hfinish
  obtain ⟨w, hu, honly⟩ := bind_eq_ok hfinish
  obtain rfl : w = ⟨[v], [], folds⟩ := Stacks.eq_of_onlyValue honly
  have hrun' := Scan.run_above hlow Bool.noConfusion hrun offset
  exact ⟨_, folds ++ low.folds, hrun', Stacks.unwind_above hlow hu⟩

end CalcBench.Expression
