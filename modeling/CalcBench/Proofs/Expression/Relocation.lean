import CalcBench.Proofs.Expression.ProgramForm
import CalcBench.Proofs.Expression.Transitions

/-!
# CalcBench.Proofs.Expression.Relocation — what the place of a text decides

The evaluator counts bytes for one purpose: to say where a foreign character stands.  The rest of a
text has the same outcome wherever it begins, but for that place.

* `outcome_run_moved`: **the rest of a text moves its fault along**, whatever was applied before.
-/

namespace CalcBench

/-- The fault when what stood at the offset `start` and behind it stands at `target` and behind it. -/
def Fault.moved (start target : Nat) : Fault → Fault
  | .invalidCharacter ch offset =>
    .invalidCharacter ch (if offset < start then offset else offset - start + target)
  | fault => fault

namespace Expression

namespace Postfix

def Program.moved (start target : Nat) (p : Program) : Program :=
  ⟨p.code, p.ending.map (Fault.moved start target)⟩

theorem moved_of_exec_eq_error {code : List Instr} {values : List Int64} {fault : Fault}
    (h : exec code values = .error fault) (start target : Nat) : fault.moved start target = fault := by
  fun_induction exec code values with
  | case1 => cases h
  | case2 values v code ih => exact ih h
  | case3 op code rhs lhs values result _ ih => exact ih h
  | case4 op code rhs lhs values fault' ha =>
    cases h
    rw [(Operator.apply_eq_error_iff.mp ha).2.2]
    rfl
  | case5 =>
    cases h
    rfl

theorem Program.resultOn_moved (start target : Nat) (p : Program) (values : List Int64) :
    (p.moved start target).resultOn values =
      (p.resultOn values).mapError (Fault.moved start target) := by
  obtain ⟨code, ending⟩ := p
  unfold resultOn moved
  cases hexec : exec code values with
  | error fault => exact congrArg Except.error (moved_of_exec_eq_error hexec start target).symm
  | ok values' =>
    cases ending with
    | some fault => rfl
    | none =>
      match values' with
      | [] => rfl
      | [_] => rfl
      | _ :: _ :: _ => rfl

/-- A text that moves has the same code, and its fault moves along. -/
theorem compile_moved (start target : Nat) (pending : List Pending) (literal : Option Int64) (k : Nat)
    (text : List Char) :
    compile pending literal (target + k) text =
      (compile pending literal (start + k) text).moved start target := by
  induction text generalizing pending literal k with
  | nil =>
    simp only [compile, Program.moved]
    split_ifs <;> rfl
  | cons c rest ih =>
    rw [compile, compile, Nat.add_assoc, Nat.add_assoc]
    cases Symbol.ofChar c with
    | skipped =>
      simp only
      rw [ih]
      rfl
    | digit d => exact ih pending _ _
    | opening =>
      simp only
      rw [ih]
      rfl
    | closing =>
      rcases release 0 pending with ⟨code, _ | ⟨_ | op, below⟩⟩
      · rfl
      · simp only
        rw [ih]
        rfl
      · rfl
    | operator op =>
      simp only
      rw [ih]
      rfl
    | foreign =>
      -- the one place that a program names
      have hat : ¬ start + k < start := Nat.not_lt.mpr (Nat.le_add_right start k)
      have hplace : start + k - start + target = target + k := by omega
      simp only [Program.moved, Option.map_some, Fault.moved, if_neg hat, hplace]

end Postfix

open Postfix

/-- **Relocation.**  The rest of a text, from stacks with the same values and pending operators, has the
same outcome wherever it begins, but for the place of a foreign character in it. -/
theorem outcome_run_moved (start target : Nat) (values : List Int64) (pending : List Pending)
    (folds folds' : List Fold) (text : List Char) :
    outcome ((Scan.run ⟨⟨values, pending, folds'⟩, target, false⟩ text).bind fun s => s.work.finish) =
      (outcome ((Scan.run ⟨⟨values, pending, folds⟩, start, false⟩ text).bind fun s =>
        s.work.finish)).mapError (Fault.moved start target) := by
  have hstart := outcome_run_finish text pending none start values folds
  have htarget := outcome_run_finish text pending none target values folds'
  have hmoved : compile pending none target text =
      (compile pending none start text).moved start target :=
    compile_moved start target pending none 0 text
  rw [hmoved, Program.resultOn_moved, ← hstart] at htarget
  exact htarget

/-- A fault that is met before the part that moves stays where it is. -/
theorem moved_of_run_eq_error {text : List Char} {halt : Halt} (h : Scan.run {} text = .error halt)
    {start : Nat} (hs : utf8Length text ≤ start) (target : Nat) :
    halt.fault.moved start target = halt.fault := by
  obtain ⟨front, c, back, s, rfl, hrun, hstep⟩ := Scan.exists_refused_of_run_eq_error h
  rcases Scan.step_eq_error hstep with ⟨rank, hu⟩ | ⟨-, hfault, -⟩ | ⟨-, hfault⟩
  · rcases Stacks.unwindFrom_eq_error hu with hfault | ⟨hfault, -⟩
    · rw [hfault]
      rfl
    · rw [hfault]
      rfl
  · rw [hfault]
    rfl
  · have hoffset : s.offset = utf8Length front := Scan.offset_of_run_start hrun
    have hsize : 0 < c.utf8Size := c.utf8Size_pos
    rw [utf8Length_append, utf8Length] at hs
    have hbefore : s.offset < start := by omega
    rw [hfault, Fault.moved, if_pos hbefore]

end Expression

end CalcBench
