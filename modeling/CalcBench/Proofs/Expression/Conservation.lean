import CalcBench.Proofs.Expression.Literals
import CalcBench.Proofs.Expression.Transitions
import Mathlib.Algebra.Order.Group.Multiset
import Mathlib.Tactic.Abel

/-!
# CalcBench.Proofs.Expression.Conservation — nothing is lost or used twice

Each operator of a text waits until it is applied, and is applied once.  Each value comes from a literal
or from an operator, and stays on the stack until an operator takes it.  So there is a balance, kept by
every application and every character, in infix texts and in others: literals and results on the one side,
operands and the values on the stack on the other.

* `evaluate_conserves`: **the balance of an accepted text**.
-/

namespace CalcBench.Expression

/-! ### Lists as multisets -/

theorem coe_cons {α : Type} (a : α) (rest : List α) : (↑(a :: rest) : Multiset α) = {a} + ↑rest := by
  rw [← Multiset.cons_coe, Multiset.singleton_add]

theorem coe_concat {α : Type} (front : List α) (a : α) :
    (↑(front ++ [a]) : Multiset α) = {a} + ↑front := by
  rw [← Multiset.coe_add, Multiset.coe_singleton, add_comm]

/-! ### Operators of a text -/

theorem ofSymbol?_eq_none {c : Char} (h : ∀ op, Symbol.ofChar c ≠ .operator op) :
    Operator.ofSymbol? c = none := by
  rw [Option.eq_none_iff_forall_ne_some]
  intro op hop
  exact h op (Symbol.ofChar_eq_operator_iff.mpr (Operator.ofSymbol?_eq_some_iff.mp hop).symm)

theorem operators_concat_of_ne {c : Char} (h : ∀ op, Symbol.ofChar c ≠ .operator op) (q : List Char) :
    operators (q ++ [c]) = operators q := by
  rw [operators_append, operators, operators, List.filterMap_cons_none (ofSymbol?_eq_none h),
    List.filterMap_nil, List.append_nil]

theorem operators_concat_symbol (op : Operator) (q : List Char) :
    operators (q ++ [op.symbol]) = operators q ++ [op] := by
  have hop : Operator.ofSymbol? op.symbol = some op := Operator.ofSymbol?_eq_some_iff.mpr rfl
  rw [operators_append, operators, operators, List.filterMap_cons_some hop, List.filterMap_nil]

/-! ### The balance of stacks -/

/-- The operator that an entry stands for, if it is not a barrier. -/
def Pending.operator? : Pending → Option Operator
  | .opened => none
  | .apply op => some op

namespace Stacks

/-- The operators that wait, the newest first. -/
def waiting (w : Stacks) : List Operator := w.pending.filterMap Pending.operator?

/-- The balance of the stacks after the text `q`.  Its operators have been applied or wait; its literals
and the results so far have been operands or are on the stack; and each result is that of its operator. -/
structure Accounts (q : List Char) (w : Stacks) : Prop where
  operators : (↑(w.folds.map Fold.op) + ↑w.waiting : Multiset Operator) = ↑(operators q)
  values : (↑(literals q) + ↑(w.folds.map Fold.result) : Multiset Int64) =
    ↑(w.folds.map Fold.lhs) + ↑(w.folds.map Fold.rhs) + ↑w.values
  applied : ∀ f ∈ w.folds, f.op.apply f.lhs f.rhs = .ok f.result

/-- A literal at the end of the text `q` is the value on top, where one more digit finds it. -/
def HoldsLiteral (q : List Char) (w : Stacks) : Prop :=
  endsInDigit q → ∃ front v rest, literals q = front ++ [v] ∧ w.values = v :: rest

/-- The result of the newest operator is still on the stack. -/
def HoldsNewest (w : Stacks) : Prop := ∀ f ∈ w.folds.head?, f.result ∈ w.values

namespace Accounts

variable {q : List Char} {w w' : Stacks}

/-- **One application** keeps the balance. -/
theorem fold (hfold : w.fold = .ok w') (h : w.Accounts q) : w'.Accounts q := by
  obtain ⟨op, lhs, rhs, values, below, result, hw, ha, rfl⟩ := fold_eq_ok hfold
  obtain ⟨hoperators, hvalues, happlied⟩ := h
  rw [hw] at hoperators hvalues
  refine ⟨?_, ?_, List.forall_mem_cons.mpr ⟨ha, happlied⟩⟩
  · rw [← hoperators]
    show (↑(op :: w.folds.map Fold.op) + ↑(below.filterMap Pending.operator?) : Multiset Operator) =
      ↑(w.folds.map Fold.op) + ↑(op :: below.filterMap Pending.operator?)
    rw [coe_cons, coe_cons, add_assoc, add_left_comm]
  · simp only [List.map_cons, coe_cons] at hvalues ⊢
    rw [add_left_comm, hvalues]
    abel

theorem unwind {rank : Nat} (h : w.Accounts q) (hu : w.unwind rank = .ok w') : w'.Accounts q :=
  keeps_of_unwind fold h hu

theorem concat {c : Char} (h : w.Accounts q) (hc : c.isDigit = false)
    (hop : ∀ op, Symbol.ofChar c ≠ .operator op) : w.Accounts (q ++ [c]) := by
  refine ⟨?_, ?_, h.applied⟩
  · rw [operators_concat_of_ne hop]
    exact h.operators
  · rw [literals_concat_of_not_isDigit hc]
    exact h.values

/-- A digit adds a literal, or changes the one on top. -/
theorem digit {c : Char} (h : w.Accounts q) (htop : w.HoldsLiteral q) (hc : c.isDigit) :
    (w.digit (endsInDigit q) (Text.digitValue c)).Accounts (q ++ [c]) := by
  have hop : ∀ op, Symbol.ofChar c ≠ .operator op := by
    intro op hop
    rw [Symbol.ofChar_eq_digit_iff.mpr ⟨hc, rfl⟩] at hop
    cases hop
  obtain ⟨hoperators, hvalues, happlied⟩ := h
  rw [← operators_concat_of_ne hop] at hoperators
  cases hq : endsInDigit q with
  | false =>
    refine ⟨hoperators, ?_, happlied⟩
    rw [literals_concat_first hq hc, digit_first, coe_concat, coe_cons, add_assoc, hvalues,
      add_left_comm]
  | true =>
    obtain ⟨front, v, rest, hlast, htop⟩ := htop hq
    have hrest : (↑front + ↑(w.folds.map Fold.result) : Multiset Int64) =
        ↑(w.folds.map Fold.lhs) + ↑(w.folds.map Fold.rhs) + ↑rest := by
      -- the literal on top, which the digit changes, is taken off both sides
      rw [hlast, htop, coe_concat, coe_cons, add_assoc,
        add_left_comm _ ({v} : Multiset Int64)] at hvalues
      exact add_left_cancel hvalues
    rw [digit_next htop]
    refine ⟨hoperators, ?_, happlied⟩
    rw [literals_concat_next hq hc hlast, coe_concat, coe_cons, add_assoc, hrest, add_left_comm]

/-- **One character** keeps the balance, if the literal that a digit extends is on top. -/
theorem takes {c : Char} (h : w.Accounts q) (htop : w.HoldsLiteral q)
    (ht : w.Takes (endsInDigit q) c w') : w'.Accounts (q ++ [c]) := by
  cases ht with
  | skipped hc =>
    refine h.concat (Symbol.isDigit_eq_false_of_isSkipped hc) fun op hop => ?_
    rw [Symbol.ofChar_eq_skipped_iff.mpr hc] at hop
    cases hop
  | digit hc => exact h.digit htop hc
  | opening =>
    have hopened : w.opening.Accounts q := ⟨h.operators, h.values, h.applied⟩
    exact hopened.concat rfl nofun
  | closing hu =>
    have hbarrier := h.unwind hu
    have hclosed : w'.Accounts q := ⟨hbarrier.operators, hbarrier.values, hbarrier.applied⟩
    exact hclosed.concat rfl nofun
  | @operator op w' hu =>
    obtain ⟨hoperators, hvalues, happlied⟩ := h.unwind hu
    have hc : op.symbol.isDigit = false := by cases op <;> rfl
    refine ⟨?_, ?_, happlied⟩
    · show (↑(w'.folds.map Fold.op) + ↑(op :: w'.waiting) : Multiset Operator) = _
      rw [operators_concat_symbol, coe_concat, coe_cons, add_left_comm, hoperators]
    · rw [literals_concat_of_not_isDigit hc]
      exact hvalues

end Accounts

theorem tail_values_digit (continues : Bool) (d : Nat) (w : Stacks) :
    (w.digit continues d).values.tail = if continues then w.values.tail else w.values := by
  obtain ⟨_ | ⟨v, values⟩, pending, folds⟩ := w <;> cases continues <;> rfl

theorem folds_digit (continues : Bool) (d : Nat) (w : Stacks) :
    (w.digit continues d).folds = w.folds := by
  unfold digit
  split <;> rfl

theorem HoldsNewest.unwind {rank : Nat} {w w' : Stacks} (h : w.HoldsNewest)
    (hu : w.unwind rank = .ok w') : w'.HoldsNewest := by
  refine keeps_of_unwind (fun {w w'} hfold _ => ?_) h hu
  obtain ⟨op, lhs, rhs, values, below, result, -, -, rfl⟩ := fold_eq_ok hfold
  intro f hf
  cases hf
  exact List.mem_cons_self

/-- A digit leaves the literal that it belongs to on top. -/
theorem Takes.holdsLiteral {q : List Char} {w w' : Stacks} {c : Char} (h : w.HoldsLiteral q)
    (ht : w.Takes (endsInDigit q) c w') : w'.HoldsLiteral (q ++ [c]) := by
  intro hc
  rw [endsInDigit_concat] at hc
  cases ht with
  | skipped hskip => exact absurd hc (by simp [Symbol.isDigit_eq_false_of_isSkipped hskip])
  | opening => cases hc
  | closing => cases hc
  | @operator op => cases op <;> cases hc
  | digit =>
    cases hq : endsInDigit q with
    | false => exact ⟨_, _, _, literals_concat_first hq hc, rfl⟩
    | true =>
      obtain ⟨front, v, rest, hlast, htop⟩ := h hq
      exact ⟨_, _, rest, literals_concat_next hq hc hlast, by rw [digit_next htop]⟩

end Stacks

/-! ### The balance of a scan -/

namespace Scan

/-- The state between two characters, after the text `q`: the stacks are in balance, a literal at the end
of `q` is on top, and the result of the newest operator is still there, below that literal. -/
structure Accounts (q : List Char) (s : Scan) : Prop where
  inLiteral : s.inLiteral = endsInDigit q
  work : s.work.Accounts q
  top : s.work.HoldsLiteral q
  newest : ∀ f ∈ s.work.folds.head?,
    f.result ∈ if endsInDigit q then s.work.values.tail else s.work.values

namespace Accounts

variable {q : List Char} {s s' : Scan} {c : Char}

theorem holdsNewest (h : s.Accounts q) : s.work.HoldsNewest := by
  intro f hf
  have hmem := h.newest f hf
  split at hmem
  · exact List.mem_of_mem_tail hmem
  · exact hmem

/-- Where a digit follows, the literal that it belongs to is on top, and the result below. -/
theorem newest_of_takes {w' : Stacks} (h : s.Accounts q) (ht : s.work.Takes (endsInDigit q) c w') :
    ∀ f ∈ w'.folds.head?, f.result ∈ if c.isDigit then w'.values.tail else w'.values := by
  cases ht with
  | skipped hc =>
    rw [Symbol.isDigit_eq_false_of_isSkipped hc]
    exact h.holdsNewest
  | digit hc =>
    rw [if_pos hc, Stacks.tail_values_digit, Stacks.folds_digit]
    exact h.newest
  | opening => exact h.holdsNewest
  | closing hu =>
    have hbarrier := h.holdsNewest.unwind hu
    exact hbarrier
  | @operator op w' hu =>
    have hc : op.symbol.isDigit = false := by cases op <;> rfl
    have hunwound := h.holdsNewest.unwind hu
    rw [hc]
    exact hunwound

theorem step (h : s.Accounts q) (hstep : s.step c = .ok s') : s'.Accounts (q ++ [c]) := by
  obtain ⟨ht, -, hliteral⟩ := step_eq_ok_iff.mp hstep
  rw [h.inLiteral] at ht
  refine ⟨?_, h.work.takes h.top ht, ht.holdsLiteral h.top, ?_⟩
  · rw [hliteral, endsInDigit_concat]
  · rw [endsInDigit_concat]
    exact h.newest_of_takes ht

end Accounts

theorem accounts_start : Accounts [] {} := ⟨rfl, ⟨rfl, rfl, nofun⟩, nofun, nofun⟩

/-- **The balance holds** after every text that is read. -/
theorem accounts_of_run {s : Scan} {text : List Char} (h : Scan.run {} text = .ok s) :
    s.Accounts text :=
  run_induction h accounts_start fun hq hstep => hq.step hstep

end Scan

/-! ### The balance of an evaluation -/

theorem Stacks.exists_kept_of_finish_eq_error {P : Stacks → Prop} {w : Stacks} {halt : Halt}
    (hfold : ∀ {w w' : Stacks}, w.fold = .ok w' → P w → P w') (hw : P w)
    (h : w.finish = .error halt) : ∃ w', P w' ∧ w'.folds = halt.folds := by
  rw [finish_eq_bind] at h
  refine exists_kept_of_unwind_bind (fun {w'} honly => ?_) hfold hw h
  unfold onlyValue at honly
  split at honly <;> cases honly <;> rfl

/-- An accepted text leaves its value, and is in balance with the operators applied. -/
theorem accounts_of_evaluate {text : String} {v : Int64} (h : evaluate text = .ok v) :
    Stacks.Accounts text.toList ⟨[v], [], (appliedFolds text).reverse⟩ ∧
      Stacks.HoldsNewest ⟨[v], [], (appliedFolds text).reverse⟩ := by
  obtain ⟨folds, hend⟩ := run_finish_of_evaluate h
  have hfolds : (appliedFolds text).reverse = folds := by
    rw [appliedFolds, evaluation, hend, List.reverse_reverse]
  obtain ⟨s, hrun, hfinish⟩ := bind_eq_ok hend
  rw [Stacks.finish_eq_bind] at hfinish
  obtain ⟨w, hu, honly⟩ := bind_eq_ok hfinish
  obtain rfl : w = ⟨[v], [], folds⟩ := Stacks.eq_of_onlyValue honly
  have hs : s.Accounts text.toList := Scan.accounts_of_run hrun
  rw [hfolds]
  exact ⟨hs.work.unwind hu, hs.holdsNewest.unwind hu⟩

/-- Whatever the outcome, the operators applied are in balance with a part of the text. -/
theorem exists_accounts (text : String) : ∃ q w, q <+: text.toList ∧ Stacks.Accounts q w ∧
    w.folds = (appliedFolds text).reverse := by
  cases hend : (Scan.run {} text.toList).bind fun s => s.work.finish with
  | ok x =>
    have hvalue : evaluate text = .ok x.1 := by rw [evaluate, evaluation, hend]
    exact ⟨_, _, List.prefix_refl _, (accounts_of_evaluate hvalue).1, rfl⟩
  | error halt =>
    have hfolds : (appliedFolds text).reverse = halt.folds := by
      rw [appliedFolds, evaluation, hend, List.reverse_reverse]
    rw [hfolds]
    rcases bind_eq_error hend with hrun | ⟨s, hrun, hfinish⟩
    · obtain ⟨front, c, back, s, htext, hfront, hstep⟩ := Scan.exists_refused_of_run_eq_error hrun
      obtain ⟨w, hw, hfolds⟩ := Scan.exists_kept_of_step_eq_error Stacks.Accounts.fold
        (Scan.accounts_of_run hfront).work hstep
      exact ⟨front, w, ⟨c :: back, htext.symm⟩, hw, hfolds⟩
    · obtain ⟨w, hw, hfolds⟩ := Stacks.exists_kept_of_finish_eq_error Stacks.Accounts.fold
        (Scan.accounts_of_run hrun).work hfinish
      exact ⟨text.toList, w, List.prefix_refl _, hw, hfolds⟩

/-- **No operator is applied twice**, nor one that is not in the text, whatever the outcome. -/
theorem folds_map_op_le (text : String) :
    (↑((appliedFolds text).map Fold.op) : Multiset Operator) ≤ ↑(operators text.toList) := by
  obtain ⟨q, w, hq, hw, hfolds⟩ := exists_accounts text
  have happlied : (↑((appliedFolds text).map Fold.op) : Multiset Operator) ≤ ↑(operators q) := by
    rw [← hw.operators, hfolds, List.map_reverse, Multiset.coe_reverse]
    exact Multiset.le_add_right _ _
  exact happlied.trans (Multiset.coe_le.mpr (hq.sublist.filterMap Operator.ofSymbol?).subperm)

section Accepted

variable {text : String} {v : Int64}

theorem coe_map_op (h : evaluate text = .ok v) :
    (↑((appliedFolds text).map Fold.op) : Multiset Operator) = ↑(operators text.toList) := by
  have hoperators := (accounts_of_evaluate h).1.operators
  rw [List.map_reverse, Multiset.coe_reverse] at hoperators
  exact (add_zero _).symm.trans hoperators

theorem coe_literals_add_results (h : evaluate text = .ok v) :
    (↑(literals text.toList) + ↑((appliedFolds text).map Fold.result) : Multiset Int64) =
      ↑((appliedFolds text).map Fold.lhs) + ↑((appliedFolds text).map Fold.rhs) + {v} := by
  have hvalues := (accounts_of_evaluate h).1.values
  simp only [List.map_reverse, Multiset.coe_reverse] at hvalues
  exact hvalues

/-- An accepted text has one literal more than operators. -/
theorem length_literals (h : evaluate text = .ok v) :
    (literals text.toList).length = (operators text.toList).length + 1 := by
  have hoperators := congrArg Multiset.card (coe_map_op h)
  have hvalues := congrArg Multiset.card (coe_literals_add_results h)
  simp only [Multiset.card_add, Multiset.coe_card, List.length_map, Multiset.card_singleton]
    at hoperators hvalues
  omega

theorem length_appliedFolds (h : evaluate text = .ok v) :
    (appliedFolds text).length = (operators text.toList).length := by
  have hcard := congrArg Multiset.card (coe_map_op h)
  rwa [Multiset.coe_card, Multiset.coe_card, List.length_map] at hcard

theorem literals_eq_of_no_operators (h : evaluate text = .ok v) (hnone : operators text.toList = []) :
    literals text.toList = [v] := by
  have hlength := length_appliedFolds h
  rw [hnone, List.length_nil, List.length_eq_zero_iff] at hlength
  have hvalues := coe_literals_add_results h
  rw [hlength] at hvalues
  exact Multiset.coe_eq_singleton.mp (by simpa using hvalues)

/-- With operators it is the result of the one applied last. -/
theorem exists_last_fold (h : evaluate text = .ok v) (hsome : operators text.toList ≠ []) :
    ∃ f, (appliedFolds text).getLast? = some f ∧ f.result = v := by
  have hne : appliedFolds text ≠ [] := by
    rw [← List.length_pos_iff, length_appliedFolds h]
    exact List.length_pos_iff.mpr hsome
  refine ⟨_, List.getLast?_eq_some_getLast hne, List.mem_singleton.mp ?_⟩
  refine (accounts_of_evaluate h).2 _ ?_
  rw [List.head?_reverse, List.getLast?_eq_some_getLast hne]
  exact rfl

end Accepted

/-- **Conservation.**  In an accepted text, infix or not, the operators applied are those of the text, each
as often as it stands there, with their own results; the literals and the results are, each as often as it
occurs, the operands and the value.  So there is one literal more than operators, and no accepted text
follows another one.  The value is the result of the last operator, or the only literal.  With any outcome
no more operators are applied than the text has. -/
theorem evaluate_conserves (text : String) :
    (∀ v, evaluate text = .ok v →
      (↑((appliedFolds text).map Fold.op) : Multiset Operator) = ↑(operators text.toList) ∧
      (∀ f ∈ appliedFolds text, f.op.apply f.lhs f.rhs = .ok f.result) ∧
      (↑(literals text.toList) + ↑((appliedFolds text).map Fold.result) : Multiset Int64) =
        ↑((appliedFolds text).map Fold.lhs) + ↑((appliedFolds text).map Fold.rhs) + {v} ∧
      (literals text.toList).length = (operators text.toList).length + 1 ∧
      (∀ next w, evaluate next = .ok w → ¬ DigitsMeet text.toList next.toList →
        ∀ x, evaluate (text ++ next) ≠ .ok x) ∧
      (operators text.toList = [] → literals text.toList = [v]) ∧
      (operators text.toList ≠ [] → ∃ f, (appliedFolds text).getLast? = some f ∧ f.result = v)) ∧
    (appliedFolds text).length ≤ (operators text.toList).length := by
  refine ⟨fun v h => ?_, ?_⟩
  · refine ⟨coe_map_op h, fun f hf => ?_, coe_literals_add_results h, length_literals h,
      fun next w hnext hmeet x hx => ?_, literals_eq_of_no_operators h, exists_last_fold h⟩
    · exact (accounts_of_evaluate h).1.applied f (List.mem_reverse.mpr hf)
    · have hboth := length_literals hx
      rw [String.toList_append, literals_append hmeet, operators_append, List.length_append,
        List.length_append, length_literals h, length_literals hnext] at hboth
      omega
  · have hcard := Multiset.card_le_card (folds_map_op_le text)
    rwa [Multiset.coe_card, Multiset.coe_card, List.length_map] at hcard

/-- A product of which the right operand has its operator behind: three literals and two results are four
operands and the value; one more literal behind it is refused. -/
theorem evaluate_conserves_operator_behind :
    evaluate "2*(3 4-)" = .ok (-2) ∧
    (↑((appliedFolds "2*(3 4-)").map Fold.op) : Multiset Operator) = ↑(operators "2*(3 4-)".toList) ∧
    (↑(literals "2*(3 4-)".toList) + ↑((appliedFolds "2*(3 4-)").map Fold.result) : Multiset Int64) =
      ↑((appliedFolds "2*(3 4-)").map Fold.lhs) + ↑((appliedFolds "2*(3 4-)").map Fold.rhs) + {-2} ∧
    (⟨.sub, 3, 4, -1⟩ ∈ appliedFolds "2*(3 4-)" ∧ Operator.apply .sub 3 4 = .ok (-1)) ∧
    (evaluate "5" = .ok 5 ∧ ∀ x, evaluate ("2*(3 4-)" ++ "5") ≠ .ok x) ∧
    (∃ f, (appliedFolds "2*(3 4-)").getLast? = some f ∧ f.result = -2) ∧
    evaluate "(7)" = .ok 7 ∧ literals "(7)".toList = [7] := by
  have hvalue : evaluate "2*(3 4-)" = .ok (-2) := by decide
  have hnext : evaluate "5" = .ok 5 := by decide
  have hgroup : evaluate "(7)" = .ok 7 := by decide
  have hdifference : ⟨.sub, 3, 4, -1⟩ ∈ appliedFolds "2*(3 4-)" := by decide
  obtain ⟨hops, happlied, hbalance, -, hadjacent, -, hlast⟩ :=
    (evaluate_conserves "2*(3 4-)").1 (-2) hvalue
  exact ⟨hvalue, hops, hbalance, ⟨hdifference, happlied _ hdifference⟩,
    ⟨hnext, hadjacent "5" 5 hnext (by decide)⟩, hlast (by decide), hgroup,
    ((evaluate_conserves "(7)").1 7 hgroup).2.2.2.2.2.1 (by decide)⟩

end CalcBench.Expression
