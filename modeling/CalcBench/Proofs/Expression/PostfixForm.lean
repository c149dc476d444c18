import CalcBench.Expression.Infix
import CalcBench.Expression.Postfix
import CalcBench.Proofs.Expression.Scanning

/-!
# CalcBench.Proofs.Expression.PostfixForm — evaluating is compiling and then running

The one pass of the evaluator does what two stages do: `Postfix.ofText` writes a postfix program
by characters and pending operators alone, and `Postfix.exec` runs it.

* `Program.result_eq_ok_iff`: a program has a value exactly if it is the postorder of a tree with
  that value, and no fault at its end.
-/

namespace CalcBench.Expression

open Postfix

/-! ### Running programs -/

def Tree.code : Tree → List Instr
  | .literal n => [.push (Int64.ofNat n)]
  | .node op lhs rhs => lhs.code ++ (rhs.code ++ [.apply op])

namespace Postfix

theorem exec_append (front back : List Instr) (values : List Int64) :
    exec (front ++ back) values = (exec front values).bind (exec back) := by
  induction front generalizing values with
  | nil => rfl
  | cons instr front ih =>
    cases instr with
    | push v => exact ih (v :: values)
    | apply op =>
      match values with
      | [] => rfl
      | [_] => rfl
      | rhs :: lhs :: values =>
        simp only [List.cons_append, exec]
        cases op.apply lhs rhs with
        | ok result => exact ih (result :: values)
        | error fault => rfl

/-- An operator that could be applied had its two operands on top. -/
theorem exec_apply_eq_ok {op : Operator} {code : List Instr} {values values' : List Int64}
    (h : exec (.apply op :: code) values = .ok values') :
    ∃ rhs lhs below result, values = rhs :: lhs :: below ∧ op.apply lhs rhs = .ok result ∧
      exec code (result :: below) = .ok values' := by
  match values, h with
  | [], h => cases h
  | [_], h => cases h
  | rhs :: lhs :: below, h =>
    rw [exec] at h
    split at h
    · next result ha => exact ⟨rhs, lhs, below, result, rfl, ha, h⟩
    · cases h

/-- The program of a tree puts the value of the tree on top of any stack. -/
theorem exec_code (t : Tree) (values : List Int64) :
    exec t.code values = t.value.map (· :: values) := by
  induction t generalizing values with
  | literal n => rfl
  | node op lhs rhs ihl ihr =>
    rw [Tree.code, exec_append, ihl, Tree.value]
    cases lhs.value with
    | error fault => rfl
    | ok a =>
      simp only [Except.map, ok_bind]
      rw [exec_append, ihr]
      cases rhs.value with
      | error fault => rfl
      | ok b =>
        simp only [Except.map, ok_bind, exec]
        cases op.apply a b with
        | ok result => rfl
        | error fault => rfl

/-- The outcome at the end of a program: the fault that stands there, else the one value left. -/
def settle : Option Fault → List Int64 → Except Fault Int64
  | some fault, _ => .error fault
  | none, [v] => .ok v
  | none, _ => .error .malformed

/-- The outcome of a program that starts on a stack. -/
def Program.resultOn (values : List Int64) (p : Program) : Except Fault Int64 :=
  (exec p.code values).bind (settle p.ending)

theorem Program.result_eq_resultOn (p : Program) : p.result = p.resultOn [] := by
  unfold result resultOn
  cases exec p.code [] with
  | ok values => rfl
  | error fault => rfl

theorem Program.resultOn_after (front : List Instr) (p : Program) (values : List Int64) :
    (p.after front).resultOn values = (exec front values).bind p.resultOn := by
  unfold resultOn after
  simp only [exec_append]
  cases exec front values with
  | ok values => rfl
  | error fault => rfl

/-- The stack with an unfinished literal on top. -/
def withLiteral (literal : Option Int64) (values : List Int64) : List Int64 :=
  literal.toList ++ values

theorem exec_pushed (literal : Option Int64) (values : List Int64) :
    exec (pushed literal) values = .ok (withLiteral literal values) := by
  cases literal with
  | none => rfl
  | some v => rfl

theorem resultOn_fault_pushed (code : List Instr) (literal : Option Int64) (values : List Int64)
    (fault : Fault) :
    (⟨pushed literal ++ code, some fault⟩ : Program).resultOn values =
      (exec code (withLiteral literal values)).bind fun _ => .error fault := by
  rw [Program.resultOn, exec_append, exec_pushed, ok_bind]
  rfl

/-! ### Programs that leave a value are trees -/

/-- The programs of several trees one after the other, the last tree first in the list. -/
def forestCode : List Tree → List Instr
  | [] => []
  | t :: ts => forestCode ts ++ t.code

/-- Each value on a stack is the value of a tree, and the code that put the values there is the code
of these trees: `push` starts a tree, `apply` joins the two on top. -/
theorem exists_forest_of_exec {code : List Instr} {values values' : List Int64} {ts : List Tree}
    (hts : ts.map Tree.value = values.map .ok) (h : exec code values = .ok values') :
    ∃ ts' : List Tree, ts'.map Tree.value = values'.map .ok ∧
      forestCode ts ++ code = forestCode ts' := by
  induction code generalizing values ts with
  | nil =>
    cases h
    exact ⟨ts, hts, List.append_nil _⟩
  | cons instr code ih =>
    cases instr with
    | push v =>
      -- every word is the value of some literal
      have hv : Int64.ofNat v.toBitVec.toNat = v := Int64.toBitVec.inj (by simp)
      have hpush : (Tree.literal v.toBitVec.toNat :: ts).map Tree.value =
          (v :: values).map .ok := by
        rw [List.map_cons, List.map_cons, Tree.value, hv, hts]
      obtain ⟨ts', hts', hcode⟩ := ih hpush h
      refine ⟨ts', hts', ?_⟩
      rw [← hcode, forestCode, Tree.code, hv, List.append_assoc, List.singleton_append]
    | apply op =>
      obtain ⟨rhs, lhs, below, result, rfl, ha, hexec⟩ := exec_apply_eq_ok h
      obtain ⟨r, ts₁, rfl, hr, hts₁⟩ := List.map_eq_cons_iff.mp hts
      obtain ⟨l, ts₂, rfl, hl, hts₂⟩ := List.map_eq_cons_iff.mp hts₁
      have hnode : Tree.value (.node op l r) = .ok result := by
        rw [Tree.value, hl, hr]
        exact ha
      have hjoin : (Tree.node op l r :: ts₂).map Tree.value = (result :: below).map .ok := by
        rw [List.map_cons, List.map_cons, hnode, hts₂]
      obtain ⟨ts', hts', hcode⟩ := ih hjoin hexec
      refine ⟨ts', hts', ?_⟩
      rw [← hcode]
      simp only [forestCode, Tree.code, List.append_assoc, List.singleton_append]

/-- A program has a value exactly if it is the postorder of a syntax tree with that value, followed
to its end. -/
theorem Program.result_eq_ok_iff {p : Program} {v : Int64} :
    p.result = .ok v ↔ ∃ t : Tree, p = ⟨t.code, none⟩ ∧ t.value = .ok v := by
  constructor
  · intro h
    obtain ⟨code, ending⟩ := p
    rw [result] at h
    split at h
    · cases h
    · next values hexec =>
      split at h
      · cases h
      · next v' hending =>
        cases h
        cases hending
        have hnone : ([] : List Tree).map Tree.value = [].map .ok := rfl
        obtain ⟨ts, hts, hcode⟩ := exists_forest_of_exec hnone hexec
        obtain ⟨t, rfl, ht⟩ := List.map_eq_singleton_iff.mp hts
        have hcode : code = t.code := hcode
        exact ⟨t, by rw [hcode], ht⟩
      · cases h
  · rintro ⟨t, rfl, ht⟩
    rw [result_eq_resultOn, resultOn, exec_code, ht]
    rfl

end Postfix

/-! ### The evaluator against programs -/

/-- What shows of the end of an evaluation: the value or the fault. -/
def outcome (x : Except Halt (Int64 × List Fold)) : Except Fault Int64 :=
  (x.map Prod.fst).mapError Halt.fault

theorem evaluate_eq_outcome (text : String) :
    evaluate text = outcome ((Scan.run {} text.toList).bind fun s => s.work.finish) := by
  unfold evaluate evaluation
  cases (Scan.run {} text.toList).bind fun s => s.work.finish with
  | ok x => rfl
  | error halt => rfl

/-- Unwinding runs the code of the operators that are released. -/
theorem outcome_unwindFrom_bind {rank : Nat} {pending : List Pending}
    {k : Stacks → Except Halt (Int64 × List Fold)} {q : List Int64 → Except Fault Int64}
    (hk : ∀ values folds, outcome (k ⟨values, (release rank pending).2, folds⟩) = q values)
    (values : List Int64) (folds : List Fold) :
    outcome ((Stacks.unwindFrom rank values folds pending).bind k) =
      (exec (release rank pending).1 values).bind q := by
  induction pending generalizing values folds with
  | nil => exact hk values folds
  | cons entry below ih =>
    cases entry with
    | opened => exact hk values folds
    | apply op =>
      by_cases hr : rank ≤ op.precedence
      · have hrel : release rank (.apply op :: below) =
            (.apply op :: (release rank below).1, (release rank below).2) := by
          rw [release, if_pos hr]
        rw [hrel] at hk ⊢
        -- without two operands both stop with the same fault, before anything is applied
        match values with
        | [] => rw [Stacks.unwindFrom_apply_short hr (by simp)]; rfl
        | [v] => rw [Stacks.unwindFrom_apply_short hr (by simp)]; rfl
        | b :: a :: values =>
          rw [Stacks.unwindFrom_apply hr, exec]
          cases op.apply a b with
          | ok result => exact ih hk (result :: values) _
          | error fault => rfl
      · have hrel : release rank (.apply op :: below) = ([], .apply op :: below) := by
          rw [release, if_neg hr]
        have hstop : Stops rank (.apply op :: below) := Nat.not_le.mp hr
        rw [hrel] at hk ⊢
        rw [Stacks.unwindFrom_of_stops hstop]
        exact hk values folds

/-- A closing parenthesis releases code, and then there is a barrier to drop or a partner missing. -/
theorem outcome_closing_bind {pending : List Pending}
    {k : Stacks → Except Halt (Int64 × List Fold)}
    {q : List Pending → List Int64 → Except Fault Int64}
    (hk : ∀ below values folds, outcome (k ⟨values, below, folds⟩) = q below values)
    (values : List Int64) (folds : List Fold) :
    outcome ((Stacks.closing ⟨values, pending, folds⟩).bind k) =
      (exec (release 0 pending).1 values).bind fun values =>
        match (release 0 pending).2 with
        | .opened :: below => q below values
        | _ => .error .unmatchedClose := by
  rw [Stacks.closing_eq_bind, bind_bind]
  refine outcome_unwindFrom_bind (fun values folds => ?_) values folds
  cases (release 0 pending).2 with
  | nil => rfl
  | cons entry below =>
    cases entry with
    | opened => exact hk below values folds
    | apply op => rfl

/-- At the end all code is released, and then one value has to be left and no parenthesis. -/
theorem outcome_finish (pending : List Pending) (values : List Int64) (folds : List Fold) :
    outcome (Stacks.finish ⟨values, pending, folds⟩) =
      (exec (release 0 pending).1 values).bind
        (settle (if (release 0 pending).2 = [] then none else some .unmatchedOpen)) := by
  rw [Stacks.finish_eq_bind]
  refine outcome_unwindFrom_bind (fun values folds => ?_) values folds
  cases (release 0 pending).2 with
  | nil =>
    match values with
    | [] => rfl
    | [v] => rfl
    | _ :: _ :: _ => rfl
  | cons entry below => rfl

/-- From any state on, reading a text to its end gives what the program for it gives. -/
theorem outcome_run_finish (text : List Char) (pending : List Pending) (literal : Option Int64)
    (offset : Nat) (values : List Int64) (folds : List Fold) :
    outcome ((Scan.run ⟨⟨withLiteral literal values, pending, folds⟩, offset, literal.isSome⟩
      text).bind fun s => s.work.finish) =
      (compile pending literal offset text).resultOn values := by
  induction text generalizing pending literal offset values folds with
  | nil =>
    rw [Scan.run_nil, ok_bind, outcome_finish, Program.resultOn, compile, exec_append,
      exec_pushed, ok_bind]
  | cons c text ih =>
    rw [Scan.run_cons, Scan.step, compile]
    cases Symbol.ofChar c with
    | skipped =>
      simp only [ok_bind]
      rw [Program.resultOn_after, exec_pushed, ok_bind]
      exact ih pending none _ (withLiteral literal values) folds
    | digit d =>
      simp only [ok_bind]
      rw [← ih pending (some (literal.getD 0 * 10 + Int64.ofNat d)) _ values folds]
      cases literal with
      | none => simp [withLiteral, Stacks.digit_first]
      | some v => rfl
    | opening =>
      simp only [ok_bind]
      rw [Program.resultOn_after, exec_pushed, ok_bind]
      exact ih (.opened :: pending) none _ (withLiteral literal values) folds
    | closing =>
      simp only [map_bind, bind_bind]
      rw [outcome_closing_bind fun below values folds => ih below none _ values folds]
      -- what is left after the release decides between the barrier and a missing partner
      rcases release 0 pending with ⟨code, _ | ⟨_ | op, below⟩⟩
      · exact (resultOn_fault_pushed code literal values .unmatchedClose).symm
      · rw [Program.resultOn_after, exec_append, exec_pushed, ok_bind]
      · exact (resultOn_fault_pushed code literal values .unmatchedClose).symm
    | operator op =>
      simp only [Stacks.operator_eq_bind, map_bind, bind_bind, ok_bind, Stacks.unwind]
      rw [Program.resultOn_after, exec_append, exec_pushed, ok_bind]
      exact outcome_unwindFrom_bind (fun values folds =>
        ih (.apply op :: (release op.precedence pending).2) none _ values folds) _ _
    | foreign =>
      rw [Except.bind, Program.resultOn, exec_pushed]
      rfl

/-- **One pass is two stages**: the result of an evaluation is the outcome of the program for the
text. -/
theorem evaluate_eq_result (text : String) : evaluate text = (ofText text.toList).result := by
  rw [evaluate_eq_outcome, Program.result_eq_resultOn]
  exact outcome_run_finish text.toList [] none 0 [] []

end CalcBench.Expression
