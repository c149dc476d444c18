import CalcBench.Log
import CalcBench.Proofs.Expression.InfixValue
import Mathlib.Data.List.Forall2
import Mathlib.Data.List.TakeWhile

/-!
# CalcBench.Proofs.Expression.FoldLog — the log of an expression is the postorder of its tree

The evaluator applies an operator late, when a lower one, a closing parenthesis or the end arrives, and
logs it then.  The log is nevertheless in the order of the syntax tree, operands before their operator and
left before right, up to the first zero divisor.

* `events_of_writes`: **the log of a well-formed expression**.
-/

namespace CalcBench.Expression

namespace Tree

/-- The operator nodes of a tree, each with what is below it: left operand, right operand, node. -/
def postorder : Tree → List Tree
  | literal _ => []
  | node op lhs rhs => lhs.postorder ++ (rhs.postorder ++ [node op lhs rhs])

def dividesByZero : Tree → Bool
  | node .div _ rhs => rhs.value = .ok 0
  | _ => false

/-- The operator nodes in postorder before the first division by zero. -/
def completed (t : Tree) : List Tree := t.postorder.takeWhile fun n => !n.dividesByZero

/-! ### Zero divisors -/

section Node

variable {op : Operator} {lhs rhs : Tree} {a b : Int64}

theorem dividesByZero_node_iff :
    (node op lhs rhs).dividesByZero = true ↔ op = .div ∧ rhs.value = .ok 0 := by
  cases op <;> simp [dividesByZero]

theorem dividesByZero_of_apply_eq_error (hb : rhs.value = .ok b) {fault : Fault}
    (h : op.apply a b = .error fault) : (node op lhs rhs).dividesByZero = true := by
  obtain ⟨rfl, rfl, -⟩ := Operator.apply_eq_error_iff.mp h
  exact dividesByZero_node_iff.mpr ⟨rfl, hb⟩

theorem dividesByZero_of_apply_eq_ok (hb : rhs.value = .ok b) {result : Int64}
    (h : op.apply a b = .ok result) : (node op lhs rhs).dividesByZero = false := by
  rw [Bool.eq_false_iff, Ne, dividesByZero_node_iff, hb]
  rintro ⟨rfl, hzero⟩
  have hfault : Operator.apply .div a b = .error .divisionByZero :=
    Operator.apply_eq_error_iff.mpr ⟨rfl, Except.ok.inj hzero, rfl⟩
  rw [h] at hfault
  cases hfault

end Node

theorem value_node_eq_ok {op : Operator} {lhs rhs : Tree} {v : Int64}
    (h : (node op lhs rhs).value = .ok v) :
    ∃ a b, lhs.value = .ok a ∧ rhs.value = .ok b ∧ op.apply a b = .ok v := by
  rw [value] at h
  split at h
  · cases h
  · next a ha =>
    split at h
    · cases h
    · next b hb => exact ⟨a, b, ha, hb, h⟩

/-- A tree has a value exactly if none of its nodes divides by zero. -/
theorem exists_value_iff (t : Tree) :
    (∃ v, t.value = .ok v) ↔ ∀ n ∈ t.postorder, n.dividesByZero = false := by
  induction t with
  | literal n => exact ⟨fun _ _ hn => (nomatch hn), fun _ => ⟨_, rfl⟩⟩
  | node op lhs rhs ihl ihr =>
    rw [postorder, List.forall_mem_append, List.forall_mem_append, List.forall_mem_singleton, ← ihl,
      ← ihr]
    constructor
    · rintro ⟨v, hv⟩
      obtain ⟨a, b, ha, hb, happly⟩ := value_node_eq_ok hv
      exact ⟨⟨a, ha⟩, ⟨b, hb⟩, dividesByZero_of_apply_eq_ok hb happly⟩
    · rintro ⟨⟨a, ha⟩, ⟨b, hb⟩, hnonzero⟩
      have hvalue : (node op lhs rhs).value = op.apply a b := by rw [value, ha, hb]
      cases happly : op.apply a b with
      | ok result => exact ⟨result, hvalue.trans happly⟩
      | error fault =>
        rw [dividesByZero_of_apply_eq_error hb happly] at hnonzero
        cases hnonzero

theorem completed_append_of_ok {t : Tree} {v : Int64} (h : t.value = .ok v) (rest : List Tree) :
    (t.postorder ++ rest).takeWhile (fun n => !n.dividesByZero) =
      t.completed ++ rest.takeWhile fun n => !n.dividesByZero := by
  have hkeep : ∀ n ∈ t.postorder, (!n.dividesByZero) = true := by
    intro n hn
    rw [t.exists_value_iff.mp ⟨v, h⟩ n hn]
    rfl
  rw [List.takeWhile_append_of_pos hkeep, completed, List.takeWhile_eq_self_iff.mpr hkeep]

/-- Nothing is completed behind a tree without a value. -/
theorem completed_append_of_error {t : Tree} {fault : Fault} (h : t.value = .error fault)
    (rest : List Tree) :
    (t.postorder ++ rest).takeWhile (fun n => !n.dividesByZero) = t.completed := by
  rw [List.takeWhile_append, if_neg, completed]
  -- were all nodes of `t` kept, none would divide by zero and `t` would have a value
  intro hlength
  have hself := (List.takeWhile_prefix fun n : Tree => !n.dividesByZero).eq_of_length hlength
  have hkeep : ∀ n ∈ t.postorder, n.dividesByZero = false := by
    intro n hn
    simpa using List.takeWhile_eq_self_iff.mp hself n hn
  obtain ⟨v, hv⟩ := t.exists_value_iff.mpr hkeep
  rw [hv] at h
  cases h

end Tree

/-! ### Operators applied -/

/-- The operator of the node was applied to the values of its two operands. -/
def IsFoldOf (n : Tree) (f : Fold) : Prop :=
  ∃ lhs rhs, n = .node f.op lhs rhs ∧ lhs.value = .ok f.lhs ∧ rhs.value = .ok f.rhs ∧
    f.op.apply f.lhs f.rhs = .ok f.result

/-- The operators applied are those of the completed nodes, one for each, in order. -/
theorem Tree.forall₂_isFoldOf (t : Tree) : List.Forall₂ IsFoldOf t.completed t.folds := by
  induction t with
  | literal n => exact .nil
  | node op lhs rhs ihl ihr =>
    -- left operand, right operand, node: the first of them without a value ends both lists
    rw [completed, postorder, folds]
    cases ha : lhs.value with
    | error fault =>
      rw [completed_append_of_error ha, List.append_nil]
      exact ihl
    | ok a =>
      dsimp only
      rw [completed_append_of_ok ha]
      refine List.rel_append ihl ?_
      cases hb : rhs.value with
      | error fault =>
        rw [completed_append_of_error hb, List.append_nil]
        exact ihr
      | ok b =>
        dsimp only
        rw [completed_append_of_ok hb]
        refine List.rel_append ihr ?_
        cases happly : op.apply a b with
        | error fault =>
          have hzero : (node op lhs rhs).dividesByZero = true :=
            dividesByZero_of_apply_eq_error hb happly
          rw [List.takeWhile_cons_of_neg (by simp [hzero])]
          exact .nil
        | ok result =>
          have hzero : (node op lhs rhs).dividesByZero = false :=
            dividesByZero_of_apply_eq_ok hb happly
          rw [List.takeWhile_cons_of_pos (by simp [hzero])]
          exact .cons ⟨lhs, rhs, rfl, ha, hb, happly⟩ .nil

/-! ### Events -/

/-- The event tells at trace level that the operator of the node was applied, to which values and with
what result. -/
def Reports (n : Tree) (event : Log.Event) : Prop :=
  ∃ op lhs rhs a b result, n = .node op lhs rhs ∧ lhs.value = .ok a ∧ rhs.value = .ok b ∧
    op.apply a b = .ok result ∧ event.level = .trace ∧ event.message = "fold" ∧
    event.fields = [("op", .shown op.text), ("lhs", .number a.toInt), ("rhs", .number b.toInt),
      ("result", .number result.toInt)]

theorem IsFoldOf.reports {n : Tree} {f : Fold} (h : IsFoldOf n f) : Reports n (.fold f) := by
  obtain ⟨lhs, rhs, hn, ha, hb, happly⟩ := h
  exact ⟨f.op, lhs, rhs, f.lhs, f.rhs, f.result, hn, ha, hb, happly, rfl, rfl, rfl⟩

/-- **The log of an expression** has one event for each operator node of its syntax tree, in postorder,
up to the first division by zero, and no others. -/
theorem events_of_writes {text : String} {t : Tree} (h : Writes 1 t text.toList) :
    List.Forall₂ Reports t.completed ((appliedFolds text).map .fold) := by
  have hfolds : appliedFolds text = t.folds := by rw [appliedFolds, evaluation_of_writes h]
  rw [hfolds, List.forall₂_map_right_iff]
  exact t.forall₂_isFoldOf.imp fun _ _ hf => hf.reports

/-- The zero divisor is the third operator applied; its division, the sum and what else waits are not. -/
theorem events_up_to_zero_divisor :
    ∃ t : Tree, Writes 1 t "(1+2)*3 - 4/(5-5)+6=".toList ∧ t.postorder.length = 6 ∧
      t.completed.length = 3 ∧
      List.Forall₂ Reports t.completed ((appliedFolds "(1+2)*3 - 4/(5-5)+6=").map .fold) := by
  have hdigit : ∀ (c : Char) (n : Nat), [c].all Char.isDigit → Nat.ofDigitChars 10 [c] 0 = n →
      Writes 3 (.literal n) [c] := fun c n => .digits (List.cons_ne_nil c [])
  have hsum : Writes 3 (.node .add (.literal 1) (.literal 2)) "(1+2)".toList :=
    .group (.add (.tighter (.tighter (hdigit '1' 1 rfl rfl))) (.tighter (hdigit '2' 2 rfl rfl)))
  have hzero : Writes 3 (.node .sub (.literal 5) (.literal 5)) "(5-5)".toList :=
    .group (.sub (.tighter (.tighter (hdigit '5' 5 rfl rfl))) (.tighter (hdigit '5' 5 rfl rfl)))
  have hproduct : Writes 1 (.node .mul (.node .add (.literal 1) (.literal 2)) (.literal 3))
      "(1+2)*3 ".toList :=
    .skipAfter (c := ' ') rfl (.tighter (.mul (.tighter hsum) (hdigit '3' 3 rfl rfl)))
  have hquotient : Writes 2 (.node .div (.literal 4) (.node .sub (.literal 5) (.literal 5)))
      " 4/(5-5)".toList :=
    .skipBefore (c := ' ') rfl (.div (.tighter (hdigit '4' 4 rfl rfl)) hzero)
  have ht : Writes 1 _ "(1+2)*3 - 4/(5-5)+6=".toList :=
    .skipAfter (c := '=') rfl (.add (.sub hproduct hquotient) (.tighter (hdigit '6' 6 rfl rfl)))
  exact ⟨_, ht, rfl, by decide, events_of_writes ht⟩

end CalcBench.Expression
