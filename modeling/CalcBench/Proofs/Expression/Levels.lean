import CalcBench.Proofs.Expression.Conservation
import CalcBench.Proofs.Expression.Diagnosis

/-!
# CalcBench.Proofs.Expression.Levels — the stacks at every point of an evaluation

Each barrier starts a new level of pending operators.  An operator is put on its level once all that bind
at least as tightly are applied, so a level climbs: each operator on it binds more tightly than the one
below.  There are two ranks, so a level has at most two operators, and the open parentheses of the text
bound the height of the stack.  One application keeps all this, so it holds inside the loops as well.

* `Applications.forall_mem_calls`: **every call finds an operator** on top, and the invariant.
* `evaluate_keeps_consistent`: **the invariant between tokens and at every call**, and what is left as the
  cause of a malformed text.
-/

namespace CalcBench.Expression

/-! ### Levels -/

/-- Between two barriers, and above the last and below the first, each operator binds more tightly than
the one below it. -/
inductive Layered : List Pending → Prop where
  | nil : Layered []
  | opened {below : List Pending} : Layered below → Layered (.opened :: below)
  | apply {op : Operator} {below : List Pending} : Stops op.precedence below → Layered below →
      Layered (.apply op :: below)

theorem Stops.of_append {rank : Nat} {front back : List Pending} (h : Stops rank (front ++ back)) :
    Stops rank front := by
  cases front with
  | nil => exact stops_nil rank
  | cons entry rest => cases entry <;> exact h

/-- Where unwinding does not stop, an operator is on top that binds tightly enough. -/
theorem exists_apply_of_not_stops {rank : Nat} {pending : List Pending} (h : ¬ Stops rank pending) :
    ∃ op below, pending = .apply op :: below ∧ rank ≤ op.precedence := by
  match pending with
  | [] => exact absurd (stops_nil rank) h
  | .opened :: below => exact absurd (stops_opened rank below) h
  | .apply op :: below => exact ⟨op, below, rfl, Nat.not_lt.mp h⟩

namespace Layered

variable {front back pending : List Pending}

theorem of_append_left (h : Layered (front ++ back)) : Layered front := by
  induction front with
  | nil => exact .nil
  | cons entry rest ih =>
    cases h with
    | opened hbelow => exact .opened (ih hbelow)
    | apply hstop hbelow => exact .apply hstop.of_append (ih hbelow)

theorem of_append_right (h : Layered (front ++ back)) : Layered back := by
  induction front with
  | nil => exact h
  | cons entry rest ih =>
    cases h with
    | opened hbelow => exact ih hbelow
    | apply _ hbelow => exact ih hbelow

theorem of_infix (h : Layered pending) {stretch : List Pending} (hs : stretch <:+: pending) :
    Layered stretch := by
  obtain ⟨front, back, rfl⟩ := hs
  exact h.of_append_left.of_append_right

/-- **A level climbs**: an operator binds more tightly than all below it, not only than the next. -/
theorem pairwise {ops : List Operator} (h : Layered (ops.map .apply)) :
    ops.Pairwise fun upper lower => lower.precedence < upper.precedence := by
  induction ops with
  | nil => exact .nil
  | cons upper rest ih =>
    cases h with
    | apply hstop hbelow =>
      have hrest := ih hbelow
      refine List.pairwise_cons.mpr ⟨fun lower hlower => ?_, hrest⟩
      cases rest with
      | nil => cases hlower
      | cons next rest =>
        have hnext : next.precedence < upper.precedence := hstop
        rcases List.mem_cons.mp hlower with rfl | hlower
        · exact hnext
        · exact Nat.lt_trans (List.rel_of_pairwise_cons hrest hlower) hnext

/-- The barriers, and what may still be put on top at `rank`, bound the height. -/
theorem length_lt (h : Layered pending) {rank : Nat} (hrank : 1 ≤ rank) (hstop : Stops rank pending) :
    pending.length < 3 * pending.count .opened + rank := by
  induction h generalizing rank with
  | nil =>
    rw [List.length_nil, List.count_nil]
    omega
  | @opened below _ ih =>
    have hbelow : below.length < 3 * below.count .opened + 3 := ih (by decide) (stops_three below)
    rw [List.length_cons, List.count_cons_self]
    omega
  | @apply op below hnext _ ih =>
    have hop : op.precedence < rank := hstop
    have hbelow : below.length < 3 * below.count .opened + op.precedence :=
      ih op.one_le_precedence hnext
    have hcount : (Pending.apply op :: below).count .opened = below.count .opened :=
      List.count_cons_of_ne fun h : Pending.apply op = .opened => nomatch h
    rw [List.length_cons, hcount]
    omega

theorem length_le_two {ops : List Operator} (h : Layered (ops.map .apply)) : ops.length ≤ 2 := by
  have hbarriers : (ops.map Pending.apply).count .opened = 0 :=
    Stacks.depth_eq_zero_of_apply (w := ⟨[], ops.map .apply, []⟩) rfl
  have hlength : (ops.map Pending.apply).length < 3 * (ops.map Pending.apply).count .opened + 3 :=
    h.length_lt (by decide) (stops_three _)
  rw [List.length_map, hbarriers] at hlength
  omega

theorem of_unwind {rank : Nat} {w w' : Stacks} (h : Layered w.pending)
    (hu : w.unwind rank = .ok w') : Layered w'.pending := by
  obtain ⟨-, ops, hops⟩ := Stacks.unwindFrom_eq_ok hu
  rw [hops] at h
  exact h.of_append_right

/-- **One character** keeps the levels. -/
theorem takes {inLiteral : Bool} {c : Char} {w w' : Stacks} (h : Layered w.pending)
    (ht : w.Takes inLiteral c w') : Layered w'.pending := by
  cases ht with
  | skipped => exact h
  | digit =>
    rw [Stacks.digit_pending]
    exact h
  | opening => exact .opened h
  | closing hu =>
    have hbarrier : Layered (.opened :: w'.pending) := h.of_unwind hu
    cases hbarrier with
    | opened hbelow => exact hbelow
  | operator hu => exact .apply (Stacks.unwindFrom_eq_ok hu).1 (h.of_unwind hu)

end Layered

theorem Scan.layered_of_run {s : Scan} {text : List Char} (h : Scan.run {} text = .ok s) :
    Layered s.work.pending :=
  run_induction (P := fun _ s => Layered s.work.pending) h .nil
    fun hq hstep => hq.takes (step_eq_ok_iff.mp hstep).1

/-! ### The invariant -/

namespace Stacks

/-- The invariant of the stacks, with the text `q` read. -/
structure Consistent (q : List Char) (w : Stacks) : Prop where
  /-- The barriers are the parentheses that are open. -/
  barriers : w.depth + q.count ')' = q.count '('
  layered : Layered w.pending
  /-- Each operator of the text waits or has been applied. -/
  operators : w.waiting.length + w.folds.length = (operators q).length
  /-- Each application has left one value in place of two. -/
  values : w.values.length + w.folds.length = (digitRuns q).length

/-- **One application** keeps the invariant. -/
theorem Consistent.fold {q : List Char} {w w' : Stacks} (hfold : w.fold = .ok w')
    (h : w.Consistent q) : w'.Consistent q := by
  obtain ⟨op, lhs, rhs, values, below, result, hw, -, rfl⟩ := fold_eq_ok hfold
  obtain ⟨hbarriers, hlayered, hoperators, hvalues⟩ := h
  rw [hw] at hbarriers hlayered hoperators hvalues
  have hdepth : depth ⟨rhs :: lhs :: values, .apply op :: below, w.folds⟩ =
      depth ⟨result :: values, below, ⟨op, lhs, rhs, result⟩ :: w.folds⟩ :=
    depth_await op ⟨rhs :: lhs :: values, below, w.folds⟩
  refine ⟨hdepth ▸ hbarriers, ?_, ?_, ?_⟩
  · cases hlayered with
    | apply _ hbelow => exact hbelow
  · show (below.filterMap Pending.operator?).length + (w.folds.length + 1) = _
    have hwaiting : (below.filterMap Pending.operator?).length + 1 + w.folds.length =
        (Expression.operators q).length := hoperators
    omega
  · simp only [List.length_cons] at hvalues ⊢
    omega

namespace Accounts

variable {q : List Char} {w : Stacks}

theorem length_operators (h : w.Accounts q) :
    w.waiting.length + w.folds.length = (Expression.operators q).length := by
  have hcard := congrArg Multiset.card h.operators
  simp only [Multiset.card_add, Multiset.coe_card, List.length_map] at hcard
  omega

theorem length_values (h : w.Accounts q) :
    w.values.length + w.folds.length = (digitRuns q).length := by
  have hcard := congrArg Multiset.card h.values
  simp only [Multiset.card_add, Multiset.coe_card, List.length_map, literals] at hcard
  omega

end Accounts

end Stacks

/-- **The invariant holds** after every text that is read. -/
theorem Scan.consistent_of_run {s : Scan} {text : List Char} (h : Scan.run {} text = .ok s) :
    s.work.Consistent text where
  barriers := depth_of_run h
  layered := layered_of_run h
  operators := (accounts_of_run h).work.length_operators
  values := (accounts_of_run h).work.length_values

/-! ### Calls -/

namespace Stacks

/-- `Applications w calls outcome`: `fold` is called on the stacks `calls` in turn, first on `w` and then
each time on what it gave before, and this comes out.  Whether there is an operator on top is not asked. -/
inductive Applications : Stacks → List Stacks → Except Halt Stacks → Prop where
  | done {w : Stacks} : Applications w [] (.ok w)
  | call {w w' : Stacks} {calls : List Stacks} {outcome : Except Halt Stacks} :
      w.fold = .ok w' → Applications w' calls outcome → Applications w (w :: calls) outcome
  | failed {w : Stacks} {fault : Fault} :
      w.fold = .error fault → Applications w [w] (.error ⟨fault, w.folds⟩)

section Unwinding

variable {rank : Nat} {w w' : Stacks}

theorem unwind_of_fold_eq_ok (hstop : ¬ Stops rank w.pending) (h : w.fold = .ok w') :
    w.unwind rank = w'.unwind rank := by
  obtain ⟨op, lhs, rhs, values, below, result, hw, ha, rfl⟩ := fold_eq_ok h
  rw [hw] at hstop ⊢
  have hrank : rank ≤ op.precedence := Nat.not_lt.mp hstop
  show unwindFrom rank (rhs :: lhs :: values) w.folds (.apply op :: below) = _
  rw [unwindFrom_apply hrank, ha]
  rfl

theorem unwind_of_fold_eq_error {fault : Fault} (hstop : ¬ Stops rank w.pending)
    (h : w.fold = .error fault) : w.unwind rank = .error ⟨fault, w.folds⟩ := by
  obtain ⟨values, pending, folds⟩ := w
  obtain ⟨op, below, rfl, hrank⟩ := exists_apply_of_not_stops hstop
  show unwindFrom rank values folds (.apply op :: below) = _
  rw [unwindFrom, if_pos hrank, h]

/-- Every unwinding is made of calls of `fold`. -/
theorem exists_applications (rank : Nat) (w : Stacks) :
    ∃ calls, Applications w calls (w.unwind rank) := by
  obtain ⟨values, pending, folds⟩ := w
  induction pending generalizing values folds with
  | nil => exact ⟨[], .done⟩
  | cons entry below ih =>
    by_cases hstop : Stops rank (entry :: below)
    · rw [unwind_of_stops hstop]
      exact ⟨[], .done⟩
    · cases hfold : fold ⟨values, entry :: below, folds⟩ with
      | ok w' =>
        rw [unwind_of_fold_eq_ok hstop hfold]
        obtain ⟨op, lhs, rhs, rest, below', result, hw, -, rfl⟩ := fold_eq_ok hfold
        cases hw
        obtain ⟨calls, hcalls⟩ := ih (result :: rest) (⟨op, lhs, rhs, result⟩ :: folds)
        exact ⟨_, .call hfold hcalls⟩
      | error fault =>
        rw [unwind_of_fold_eq_error hstop hfold]
        exact ⟨_, .failed hfold⟩

end Unwinding

namespace Applications

variable {w w' : Stacks} {calls : List Stacks} {outcome : Except Halt Stacks}

theorem length_folds_le (h : Applications w calls outcome) :
    ∀ w', outcome = .ok w' → w.folds.length ≤ w'.folds.length := by
  induction h with
  | done =>
    rintro w' ⟨⟩
    exact Nat.le_refl _
  | call hfold _ ih =>
    intro w' hw'
    obtain ⟨op, lhs, rhs, values, below, result, -, -, rfl⟩ := fold_eq_ok hfold
    exact Nat.le_of_succ_le (ih w' hw')
  | failed => exact nofun

theorem ne_ok (hfold : w.fold = .ok w') (h : Applications w' calls outcome) : outcome ≠ .ok w := by
  intro hw
  have hle := h.length_folds_le w hw
  obtain ⟨op, lhs, rhs, values, below, result, -, -, rfl⟩ := fold_eq_ok hfold
  exact Nat.not_succ_le_self _ hle

/-- **Every call** of an unwinding finds an operator on top that is to be applied, and what one application
keeps. -/
theorem forall_mem_calls {P : Stacks → Prop} {rank : Nat}
    (hkeep : ∀ {w w' : Stacks}, w.fold = .ok w' → P w → P w') (hw : P w)
    (h : Applications w calls (w.unwind rank)) :
    ∀ c ∈ calls, P c ∧ ∃ op below, c.pending = .apply op :: below ∧ rank ≤ op.precedence := by
  generalize hout : w.unwind rank = outcome at h
  induction h with
  | done => exact List.forall_mem_nil _
  | @call w w' calls outcome hfold hcalls ih =>
    -- where unwinding stops nothing is applied, but these calls did apply something
    have hstop : ¬ Stops rank w.pending := by
      intro hstop
      rw [unwind_of_stops hstop] at hout
      exact hcalls.ne_ok hfold hout.symm
    rw [unwind_of_fold_eq_ok hstop hfold] at hout
    exact List.forall_mem_cons.mpr
      ⟨⟨hw, exists_apply_of_not_stops hstop⟩, ih (hkeep hfold hw) hout⟩
  | @failed w fault hfold =>
    have hstop : ¬ Stops rank w.pending := by
      intro hstop
      rw [unwind_of_stops hstop] at hout
      cases hout
    exact List.forall_mem_singleton.mpr ⟨hw, exists_apply_of_not_stops hstop⟩

theorem exists_fold_eq_error (h : Applications w calls outcome) :
    ∀ halt, outcome = .error halt → ∃ c ∈ calls, c.fold = .error halt.fault := by
  induction h with
  | done => exact nofun
  | call _ _ ih =>
    intro halt hout
    obtain ⟨c, hc, hfault⟩ := ih halt hout
    exact ⟨c, List.mem_cons_of_mem _ hc, hfault⟩
  | failed hfold =>
    rintro halt ⟨⟩
    exact ⟨_, List.mem_cons_self, hfold⟩

end Applications

/-- `fold` is malformed in two ways: it finds fewer than two values, or no operator on top. -/
theorem fold_eq_malformed_iff {w : Stacks} : w.fold = .error .malformed ↔
    w.values.length < 2 ∨ ∀ op below, w.pending ≠ .apply op :: below := by
  obtain ⟨values, pending, folds⟩ := w
  match values, pending with
  | [], _ => simp [fold]
  | [_], _ => simp [fold]
  | rhs :: lhs :: rest, [] => simp [fold]
  | rhs :: lhs :: rest, .opened :: below => simp [fold]
  | rhs :: lhs :: rest, .apply op :: below =>
    -- with operands and an operator there is a value, or a division by zero
    cases ha : op.apply lhs rhs with
    | ok result => simp [fold, ha]
    | error fault =>
      obtain ⟨-, -, rfl⟩ := Operator.apply_eq_error_iff.mp ha
      simp [fold, ha]

/-- The end of a text is malformed in an application, or by the number of values. -/
theorem finish_eq_malformed {w : Stacks} {halt : Halt} (h : w.finish = .error halt)
    (hfault : halt.fault = .malformed) : w.unwind 0 = .error halt ∨
      ∃ w', w.unwind 0 = .ok w' ∧ w'.pending = [] ∧ w'.values.length ≠ 1 := by
  rw [finish_eq_bind] at h
  rcases bind_eq_error h with hu | ⟨⟨values, pending, folds⟩, hu, honly⟩
  · exact .inl hu
  · refine .inr ⟨_, hu, ?_⟩
    match values, pending, honly with
    | _, _ :: _, honly =>
      cases honly
      cases hfault
    | [], [], _ => exact ⟨rfl, Nat.zero_ne_one⟩
    | [_], [], honly => cases honly
    | _ :: _ :: rest, [], _ => exact ⟨rfl, fun hlength => nomatch hlength⟩

end Stacks

/-! ### Evaluations -/

/-- In the evaluation of a text the stacks `w` are unwound at `rank`, with its start `q` read: for a
parenthesis that closes, for an operator, or at the end. -/
inductive Unwinds (text : List Char) : List Char → Stacks → Nat → Prop where
  | closing {q back : List Char} {s : Scan} : text = q ++ ')' :: back → Scan.run {} q = .ok s →
      Unwinds text q s.work 0
  | operator {q back : List Char} {op : Operator} {s : Scan} : text = q ++ op.symbol :: back →
      Scan.run {} q = .ok s → Unwinds text q s.work op.precedence
  | ending {s : Scan} : Scan.run {} text = .ok s → Unwinds text text s.work 0

theorem Unwinds.consistent {text q : List Char} {w : Stacks} {rank : Nat}
    (h : Unwinds text q w rank) : w.Consistent q := by
  cases h with
  | closing _ hrun => exact Scan.consistent_of_run hrun
  | operator _ hrun => exact Scan.consistent_of_run hrun
  | ending hrun => exact Scan.consistent_of_run hrun

/-- A character that is refused as malformed is refused for an operator that it would have unwound. -/
theorem exists_unwinds_of_step {q : List Char} {c : Char} {s : Scan} {halt : Halt}
    (hrun : Scan.run {} q = .ok s) (h : s.step c = .error halt) (hfault : halt.fault = .malformed)
    (back : List Char) :
    ∃ rank, Unwinds (q ++ c :: back) q s.work rank ∧ s.work.unwind rank = .error halt := by
  cases hc : Symbol.ofChar c with
  | skipped | digit | opening =>
    rw [Scan.step, hc] at h
    cases h
  | closing =>
    obtain rfl : c = ')' := Symbol.ofChar_eq_closing_iff.mp hc
    rw [Scan.step_closing] at h
    rcases Stacks.closing_eq_error (map_eq_error h) with hu | ⟨hunmatched, -⟩
    · exact ⟨0, .closing rfl hrun, hu⟩
    · cases hfault.symm.trans hunmatched
  | operator op =>
    obtain rfl : c = op.symbol := Symbol.ofChar_eq_operator_iff.mp hc
    rw [Scan.step_symbol, Stacks.operator_eq_bind] at h
    rcases bind_eq_error (map_eq_error h) with hu | ⟨w, -, hawait⟩
    · exact ⟨op.precedence, .operator rfl hrun, hu⟩
    · cases hawait
  | foreign =>
    rw [Scan.step, hc] at h
    cases h
    cases hfault

/-- In the evaluation of a text, with its start `q` read, `fold` is called on the stacks `c`. -/
def FoldCall (text q : List Char) (c : Stacks) : Prop :=
  ∃ w rank calls, Unwinds text q w rank ∧ w.Applications calls (w.unwind rank) ∧ c ∈ calls

namespace FoldCall

variable {text q : List Char} {c : Stacks}

theorem consistent (h : FoldCall text q c) : c.Consistent q := by
  obtain ⟨w, rank, calls, hunwinds, hcalls, hc⟩ := h
  exact (hcalls.forall_mem_calls Stacks.Consistent.fold hunwinds.consistent c hc).1

theorem exists_apply (h : FoldCall text q c) : ∃ op below, c.pending = .apply op :: below := by
  obtain ⟨w, rank, calls, hunwinds, hcalls, hc⟩ := h
  obtain ⟨-, op, below, htop, -⟩ :=
    hcalls.forall_mem_calls Stacks.Consistent.fold hunwinds.consistent c hc
  exact ⟨op, below, htop⟩

theorem length_values (h : FoldCall text q c) (hfold : c.fold = .error .malformed) :
    c.values.length < 2 := by
  obtain ⟨op, below, htop⟩ := h.exists_apply
  exact (Stacks.fold_eq_malformed_iff.mp hfold).resolve_right fun hnone => hnone op below htop

end FoldCall

/-- An unwinding that ends as malformed does so at a call that lacks an operand. -/
theorem Unwinds.exists_call_of_malformed {text q : List Char} {w : Stacks} {rank : Nat} {halt : Halt}
    (h : Unwinds text q w rank) (hu : w.unwind rank = .error halt) (hfault : halt.fault = .malformed) :
    ∃ c, FoldCall text q c ∧ c.fold = .error .malformed ∧ c.values.length < 2 := by
  obtain ⟨calls, hcalls⟩ := Stacks.exists_applications rank w
  obtain ⟨c, hc, hfold⟩ := hcalls.exists_fold_eq_error halt hu
  rw [hfault] at hfold
  have hcall : FoldCall text q c := ⟨w, rank, calls, h, hcalls, hc⟩
  exact ⟨c, hcall, hfold, hcall.length_values hfold⟩

/-- A malformed text lacks an operand of an operator, or leaves no or several values. -/
theorem malformed_cases {text : String} (h : evaluate text = .error .malformed) :
    (∃ q c, FoldCall text.toList q c ∧ c.fold = .error .malformed ∧ c.values.length < 2) ∨
    ∃ s w, Scan.run {} text.toList = .ok s ∧ s.work.unwind 0 = .ok w ∧ w.pending = [] ∧
      w.values.length ≠ 1 := by
  rcases exists_halt_of_evaluate h with
    ⟨front, c, back, s, halt, htext, hrun, hstep, hfault⟩ | ⟨s, halt, hrun, hfinish, hfault⟩
  · obtain ⟨rank, hunwinds, hu⟩ := exists_unwinds_of_step hrun hstep hfault back
    rw [← htext] at hunwinds
    exact .inl ⟨front, hunwinds.exists_call_of_malformed hu hfault⟩
  · rcases Stacks.finish_eq_malformed hfinish hfault with hu | ⟨w, hu, hpending, hvalues⟩
    · have hunwinds : Unwinds text.toList text.toList s.work 0 := .ending hrun
      exact .inl ⟨text.toList, hunwinds.exists_call_of_malformed hu hfault⟩
    · exact .inr ⟨s, w, hrun, hu, hpending, hvalues⟩

/-- **The stacks of an evaluation.**  With a start `q` of the text read, the invariant holds: barriers are
open parentheses; on each level operators bind the more tightly the higher they are, so there are at most
two and the depth bounds the height; and operators and values are those of `q`, less what was applied.  At
every call of `fold`, in any of the loops, the invariant still holds and an operator is on top.  So what is
malformed lacks an operand, or leaves no or several values. -/
theorem evaluate_keeps_consistent (text : String) :
    (∀ q s, q <+: text.toList → Scan.run {} q = .ok s →
      s.work.Consistent q ∧
      (∀ ops : List Operator, ops.map .apply <:+: s.work.pending →
        ops.Pairwise (fun upper lower => lower.precedence < upper.precedence) ∧ ops.length ≤ 2) ∧
      s.work.pending.length ≤ 3 * s.work.depth + 2) ∧
    (∀ q c, FoldCall text.toList q c →
      c.Consistent q ∧ (∃ op below, c.pending = .apply op :: below) ∧
      (c.fold = .error .malformed → c.values.length < 2)) ∧
    (evaluate text = .error .malformed →
      (∃ q c, FoldCall text.toList q c ∧ c.fold = .error .malformed ∧ c.values.length < 2) ∨
      ∃ s w, Scan.run {} text.toList = .ok s ∧ s.work.unwind 0 = .ok w ∧ w.pending = [] ∧
        w.values.length ≠ 1) := by
  refine ⟨fun q s _ hrun => ?_, fun q c hc => ?_, malformed_cases⟩
  · have hs : s.work.Consistent q := Scan.consistent_of_run hrun
    refine ⟨hs, fun ops hops => ?_, ?_⟩
    · have hlevel : Layered (ops.map .apply) := hs.layered.of_infix hops
      exact ⟨hlevel.pairwise, hlevel.length_le_two⟩
    · exact Nat.le_of_lt_succ (hs.layered.length_lt (by decide) (stops_three _))
  · exact ⟨hc.consistent, hc.exists_apply, hc.length_values⟩

/-- `1+*(+*5)`: at the `)` the levels above and below the barrier are full.  The product is applied to both
values, and the sum above the barrier lacks an operand. -/
theorem evaluate_keeps_consistent_full_levels :
    ∃ s c, Scan.run {} "1+*(+*5".toList = .ok s ∧
      s.work.pending = [.apply .mul, .apply .add, .opened, .apply .mul, .apply .add] ∧
      s.work.Consistent "1+*(+*5".toList ∧
      [Operator.mul, .add].Pairwise (fun upper lower => lower.precedence < upper.precedence) ∧
      s.work.pending.length ≤ 3 * s.work.depth + 2 ∧ s.work.depth = 1 ∧
      FoldCall "1+*(+*5)".toList "1+*(+*5".toList s.work ∧
      FoldCall "1+*(+*5)".toList "1+*(+*5".toList c ∧ c.Consistent "1+*(+*5".toList ∧
      (∃ op below, c.pending = .apply op :: below) ∧ c.fold = .error .malformed ∧
      c.values.length < 2 ∧ evaluate "1+*(+*5)" = .error .malformed ∧
      ((∃ q c, FoldCall "1+*(+*5)".toList q c ∧ c.fold = .error .malformed ∧ c.values.length < 2) ∨
        ∃ s w, Scan.run {} "1+*(+*5)".toList = .ok s ∧ s.work.unwind 0 = .ok w ∧ w.pending = [] ∧
          w.values.length ≠ 1) := by
  obtain ⟨hpoints, hcalls, hcases⟩ := evaluate_keeps_consistent "1+*(+*5)"
  have hrun : Scan.run {} "1+*(+*5".toList = .ok ⟨⟨[5, 1],
      [.apply .mul, .apply .add, .opened, .apply .mul, .apply .add], []⟩, 7, true⟩ := by decide
  have hproduct : Stacks.fold ⟨[5, 1],
      [.apply .mul, .apply .add, .opened, .apply .mul, .apply .add], []⟩ =
      .ok ⟨[5], [.apply .add, .opened, .apply .mul, .apply .add], [⟨.mul, 1, 5, 5⟩]⟩ := rfl
  have hsum : Stacks.fold ⟨[5], [.apply .add, .opened, .apply .mul, .apply .add],
      [⟨.mul, 1, 5, 5⟩]⟩ = .error .malformed := rfl
  have hunwinds : Unwinds "1+*(+*5)".toList "1+*(+*5".toList _ 0 := .closing rfl hrun
  have happlications := Stacks.Applications.call hproduct (.failed hsum)
  have hfirst : FoldCall "1+*(+*5)".toList "1+*(+*5".toList _ :=
    ⟨_, 0, _, hunwinds, happlications, List.mem_cons_self⟩
  have hsecond : FoldCall "1+*(+*5)".toList "1+*(+*5".toList _ :=
    ⟨_, 0, _, hunwinds, happlications, List.mem_cons_of_mem _ List.mem_cons_self⟩
  have hmalformed : evaluate "1+*(+*5)" = .error .malformed := by decide
  obtain ⟨hconsistent, hlevels, hheight⟩ := hpoints _ _ (by decide) hrun
  obtain ⟨hsumConsistent, htop, hvalues⟩ := hcalls _ _ hsecond
  exact ⟨_, _, hrun, rfl, hconsistent, (hlevels _ (by decide)).1, hheight, rfl, hfirst, hsecond,
    hsumConsistent, htop, hsum, hvalues hsum, hmalformed, hcases hmalformed⟩

end CalcBench.Expression
