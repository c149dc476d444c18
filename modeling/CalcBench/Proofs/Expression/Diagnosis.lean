import CalcBench.Proofs.Expression.InfixValue
import CalcBench.Proofs.Expression.Transitions

/-!
# CalcBench.Proofs.Expression.Diagnosis — what an outcome says about the text

A fault names what stopped the evaluator, and operators are applied before a parenthesis is found to
have no partner.  So an outcome does not tell everything that is wrong with a text, but what it tells
is true of the text: the barriers that are pending count the parentheses that are open.

* `Scan.depth_of_run`: **open parentheses are barriers**, after every text that is read.
* `Explains`, `evaluate_explains`: **what each outcome says about the text**.
-/

namespace CalcBench.Expression

/-! ### The alphabet -/

theorem mem_alphabet_of_isDigit {c : Char} (h : c.isDigit) : c ∈ alphabet := by
  simp only [Char.isDigit, ge_iff_le, Bool.and_eq_true, decide_eq_true_eq,
    UInt32.le_iff_toNat_le] at h
  have hlo : 48 ≤ c.toNat := h.1
  have hhi : c.toNat ≤ 57 := h.2
  have hall : (List.range' 48 10).all (alphabet.contains <| Char.ofNat ·) := by decide
  have hrange : c.toNat ∈ List.range' 48 10 := List.mem_range'_1.mpr ⟨hlo, by omega⟩
  rw [← Char.ofNat_toNat c]
  exact List.contains_iff_mem.mp (List.all_eq_true.mp hall c.toNat hrange)

/-- The evaluator knows the characters of the alphabet and no others. -/
theorem isForeign_iff {c : Char} : IsForeign c ↔ c ∉ alphabet := by
  constructor
  · intro h hmem
    have hall : alphabet.all fun c => decide (Symbol.ofChar c ≠ .foreign) := by decide
    exact of_decide_eq_true (List.all_eq_true.mp hall c hmem) h
  · intro h
    cases hc : Symbol.ofChar c with
    | skipped =>
      have hskip : c ∈ Symbol.skippedChars :=
        Symbol.isSkipped_iff_mem.mp (Symbol.ofChar_eq_skipped_iff.mp hc)
      have hall : Symbol.skippedChars.all (alphabet.contains ·) := by decide
      exact absurd (List.contains_iff_mem.mp (List.all_eq_true.mp hall c hskip)) h
    | digit d => exact absurd (mem_alphabet_of_isDigit (Symbol.ofChar_eq_digit_iff.mp hc).1) h
    | opening =>
      rw [Symbol.ofChar_eq_opening_iff.mp hc] at h
      exact absurd (by decide) h
    | closing =>
      rw [Symbol.ofChar_eq_closing_iff.mp hc] at h
      exact absurd (by decide) h
    | operator op =>
      rw [Symbol.ofChar_eq_operator_iff.mp hc] at h
      cases op <;> exact absurd (by decide) h
    | foreign => exact hc

theorem mem_alphabet_of_step {s s' : Scan} {c : Char} (h : s.step c = .ok s') : c ∈ alphabet := by
  by_contra hmem
  rw [Scan.step, isForeign_iff.mpr hmem] at h
  cases h

theorem subset_alphabet_of_run {s s' : Scan} {text : List Char} (h : s.run text = .ok s') :
    text ⊆ alphabet := by
  refine Scan.run_induction (P := fun q _ => q ⊆ alphabet) h (List.nil_subset _) ?_
  intro q c s₁ s₂ hq hstep
  have hc : [c] ⊆ alphabet := List.cons_subset.mpr ⟨mem_alphabet_of_step hstep, List.nil_subset _⟩
  exact List.append_subset.mpr ⟨hq, hc⟩

/-! ### Open parentheses -/

theorem count_parens_of_ne {c : Char} (hopen : c ≠ '(') (hclose : c ≠ ')') :
    [c].count ')' = [c].count '(' := by
  rw [List.count_singleton, List.count_singleton, beq_false_of_ne hopen, beq_false_of_ne hclose]

namespace Stacks

/-- The number of barriers among the pending operators. -/
def depth (w : Stacks) : Nat := w.pending.count .opened

theorem depth_opened (values : List Int64) (below : List Pending) (folds : List Fold) :
    depth ⟨values, .opened :: below, folds⟩ = depth ⟨values, below, folds⟩ + 1 :=
  List.count_cons_self

theorem depth_await (op : Operator) (w : Stacks) : (w.await op).depth = w.depth :=
  List.count_cons_of_ne (fun h : Pending.apply op = .opened => nomatch h)

theorem depth_digit (continues : Bool) (d : Nat) (w : Stacks) :
    (w.digit continues d).depth = w.depth := by
  rw [depth, digit_pending, depth]

theorem depth_eq_zero_of_apply {w : Stacks} {ops : List Operator} (h : w.pending = ops.map .apply) :
    w.depth = 0 := by
  rw [depth, h, List.count_eq_zero, List.mem_map]
  rintro ⟨op, -, hop⟩
  cases hop

theorem depth_of_unwind {rank : Nat} {w w' : Stacks} (h : w.unwind rank = .ok w') :
    w'.depth = w.depth := by
  obtain ⟨-, ops, hops⟩ := unwindFrom_eq_ok h
  have hzero : (ops.map Pending.apply).count .opened = 0 :=
    depth_eq_zero_of_apply (w := ⟨[], ops.map .apply, []⟩) rfl
  rw [depth, depth, hops, List.count_append, hzero, Nat.zero_add]

/-- What a character adds to the barriers, parentheses that close counted on the other side. -/
theorem Takes.depth {inLiteral : Bool} {w w' : Stacks} {c : Char} (h : w.Takes inLiteral c w') :
    w'.depth + [c].count ')' = w.depth + [c].count '(' := by
  cases h with
  | @skipped c hc =>
    have hopen : c ≠ '(' := by rintro rfl; cases hc
    have hclose : c ≠ ')' := by rintro rfl; cases hc
    rw [count_parens_of_ne hopen hclose]
  | @digit c hc =>
    have hopen : c ≠ '(' := by rintro rfl; cases hc
    have hclose : c ≠ ')' := by rintro rfl; cases hc
    rw [count_parens_of_ne hopen hclose, depth_digit]
  | opening => exact depth_opened w.values w.pending w.folds
  | @closing w' hu =>
    rw [← depth_of_unwind hu, depth_opened]
    rfl
  | @operator op w' hu =>
    rw [depth_await, depth_of_unwind hu]
    cases op <;> rfl

end Stacks

/-- **Open parentheses are barriers**: those of the text that is read, less those that it closes. -/
theorem Scan.depth_of_run {s : Scan} {text : List Char} (h : Scan.run {} text = .ok s) :
    s.work.depth + text.count ')' = text.count '(' := by
  refine run_induction (P := fun q s₁ => s₁.work.depth + q.count ')' = q.count '(') h rfl ?_
  intro q c s₁ s₂ hq hstep
  have hc := (step_eq_ok_iff.mp hstep).1.depth
  rw [List.count_append, List.count_append]
  omega

/-- A text that is read from the start closes only what it opened. -/
theorem closesOnlyOpened_of_run {s : Scan} {text : List Char} (h : Scan.run {} text = .ok s) :
    ClosesOnlyOpened text := by
  intro q hq
  obtain ⟨s₁, hrun⟩ := Scan.exists_run_of_prefix h hq
  have hcount := Scan.depth_of_run hrun
  unfold ClosesTooMany
  omega

/-! ### Operators that wait -/

theorem Stacks.Takes.divides {inLiteral : Bool} {w w' : Stacks} {c : Char}
    (h : w.Takes inLiteral c w') (hdiv : .apply .div ∈ w'.pending) :
    .apply .div ∈ w.pending ∨ c = '/' := by
  cases h with
  | skipped => exact .inl hdiv
  | digit =>
    rw [Stacks.digit_pending] at hdiv
    exact .inl hdiv
  | opening => exact .inl ((List.mem_cons.mp hdiv).resolve_left nofun)
  | @closing w' hu =>
    obtain ⟨-, ops, hops⟩ := Stacks.unwindFrom_eq_ok hu
    rw [hops]
    exact .inl (List.mem_append_right _ (List.mem_cons_of_mem _ hdiv))
  | @operator op w' hu =>
    obtain ⟨-, ops, hops⟩ := Stacks.unwindFrom_eq_ok hu
    rcases List.mem_cons.mp hdiv with hop | hdiv
    · cases hop
      exact .inr rfl
    · rw [hops]
      exact .inl (List.mem_append_right _ hdiv)

theorem Scan.divides_of_run {s : Scan} {text : List Char} (h : Scan.run {} text = .ok s)
    (hdiv : .apply .div ∈ s.work.pending) : '/' ∈ text := by
  refine run_induction
    (P := fun q s₁ => .apply .div ∈ s₁.work.pending → '/' ∈ q) h nofun ?_ hdiv
  intro q c s₁ s₂ hq hstep hdiv
  rcases (step_eq_ok_iff.mp hstep).1.divides hdiv with hdiv | rfl
  · exact List.mem_append_left _ (hq hdiv)
  · exact List.mem_append_right _ List.mem_cons_self

/-! ### The end of a text -/

namespace Stacks

theorem depth_of_finish {w : Stacks} {v : Int64} {folds : List Fold}
    (h : w.finish = .ok (v, folds)) : w.depth = 0 := by
  rw [finish_eq_bind] at h
  obtain ⟨w', hu, honly⟩ := bind_eq_ok h
  rw [← depth_of_unwind hu, depth, pending_of_onlyValue honly]
  rfl

/-- The faults of the end of a text: of the operators that wait, of an open parenthesis, or of the
number of values. -/
theorem finish_eq_error {w : Stacks} {halt : Halt} (h : w.finish = .error halt) :
    w.unwind 0 = .error halt ∨ halt.fault = .unmatchedOpen ∧ 0 < w.depth ∨
      halt.fault = .malformed := by
  rw [finish_eq_bind] at h
  rcases bind_eq_error h with hu | ⟨⟨values, pending, folds⟩, hu, honly⟩
  · exact .inl hu
  · have hdepth : depth ⟨values, pending, folds⟩ = w.depth := depth_of_unwind hu
    obtain rfl | ⟨below, rfl⟩ := eq_nil_or_opened_of_stops (unwindFrom_eq_ok hu).1
    · -- no operator and no parenthesis waits, so the number of values is wrong
      match values, honly with
      | [], honly =>
        cases honly
        exact .inr (.inr rfl)
      | _ :: _ :: _, honly =>
        cases honly
        exact .inr (.inr rfl)
    · cases honly
      refine .inr (.inl ⟨rfl, ?_⟩)
      rw [← hdepth, depth_opened]
      exact Nat.succ_pos _

end Stacks

/-! ### Outcomes -/

/-- A fault is met at a character, all before it having been read, or at the end of the text. -/
theorem exists_halt_of_evaluate {text : String} {fault : Fault} (h : evaluate text = .error fault) :
    (∃ front c back s halt, text.toList = front ++ c :: back ∧ Scan.run {} front = .ok s ∧
      s.step c = .error halt ∧ halt.fault = fault) ∨
    ∃ s halt, Scan.run {} text.toList = .ok s ∧ s.work.finish = .error halt ∧
      halt.fault = fault := by
  unfold evaluate evaluation at h
  split at h
  · cases h
  · next halt hrun =>
    cases h
    rcases bind_eq_error hrun with hs | ⟨s, hs, hfinish⟩
    · obtain ⟨front, c, back, s, htext, hfront, hstep⟩ := Scan.exists_refused_of_run_eq_error hs
      exact .inl ⟨front, c, back, s, halt, htext, hfront, hstep, rfl⟩
    · exact .inr ⟨s, halt, hs, hfinish, rfl⟩

def Explains (text : List Char) : Except Fault Int64 → Prop
  | .ok _ => text ⊆ alphabet ∧ ClosesOnlyOpened text ∧ text.count '(' = text.count ')'
  | .error (.invalidCharacter ch offset) =>
    ∃ front back, text = front ++ ch :: back ∧ ch ∉ alphabet ∧ front ⊆ alphabet ∧
      offset = utf8Length front ∧ ClosesOnlyOpened front
  | .error .unmatchedClose =>
    ∃ front back, text = front ++ ')' :: back ∧ front ⊆ alphabet ∧ ClosesOnlyOpened front ∧
      ClosesTooMany (front ++ [')'])
  | .error .unmatchedOpen =>
    text ⊆ alphabet ∧ ClosesOnlyOpened text ∧ text.count ')' < text.count '('
  | .error .divisionByZero => '/' ∈ text
  | .error .malformed => ¬ IsInfix text

/-- An infix expression is not malformed. -/
theorem not_isInfix_of_malformed {text : String} (h : evaluate text = .error .malformed) :
    ¬ IsInfix text.toList := by
  rintro ⟨t, ht⟩
  rw [evaluate, evaluation_of_writes ht] at h
  cases Tree.fault_eq_divisionByZero h

/-- A text that is refused at a character. -/
theorem explains_of_step {s : Scan} {front : List Char} {c : Char} {halt : Halt}
    (hrun : Scan.run {} front = .ok s) (hstep : s.step c = .error halt)
    (hne : halt.fault ≠ .malformed) (back : List Char) :
    Explains (front ++ c :: back) (.error halt.fault) := by
  have halphabet : front ⊆ alphabet := subset_alphabet_of_run hrun
  have hopened : ClosesOnlyOpened front := closesOnlyOpened_of_run hrun
  rcases Scan.step_eq_error hstep with ⟨rank, hu⟩ | ⟨rfl, hfault, ops, hops⟩ | ⟨hforeign, hfault⟩
  · obtain ⟨hfault, hdiv⟩ := (Stacks.unwindFrom_eq_error hu).resolve_left hne
    rw [hfault]
    exact List.mem_append_left _ (Scan.divides_of_run hrun hdiv)
  · -- no barrier is pending, so all that `front` opened is closed
    have hdepth : s.work.depth = 0 := Stacks.depth_eq_zero_of_apply hops
    have hcount : s.work.depth + front.count ')' = front.count '(' := Scan.depth_of_run hrun
    have hclose : (front ++ [')']).count ')' = front.count ')' + 1 := List.count_append
    have hopen : (front ++ [')']).count '(' = front.count '(' := List.count_append
    rw [hfault]
    refine ⟨front, back, rfl, halphabet, hopened, ?_⟩
    unfold ClosesTooMany
    omega
  · have hoffset : s.offset = utf8Length front := Scan.offset_of_run_start hrun
    rw [hfault]
    exact ⟨front, back, rfl, isForeign_iff.mp hforeign, halphabet, hoffset, hopened⟩

/-- A text that is read, but has no value at its end. -/
theorem explains_of_finish {s : Scan} {text : List Char} {halt : Halt}
    (hrun : Scan.run {} text = .ok s) (hfinish : s.work.finish = .error halt)
    (hne : halt.fault ≠ .malformed) : Explains text (.error halt.fault) := by
  rcases Stacks.finish_eq_error hfinish with hu | ⟨hfault, hdepth⟩ | hfault
  · obtain ⟨hfault, hdiv⟩ := (Stacks.unwindFrom_eq_error hu).resolve_left hne
    rw [hfault]
    exact Scan.divides_of_run hrun hdiv
  · have hcount : s.work.depth + text.count ')' = text.count '(' := Scan.depth_of_run hrun
    rw [hfault]
    refine ⟨subset_alphabet_of_run hrun, closesOnlyOpened_of_run hrun, ?_⟩
    omega
  · exact absurd hfault hne

/-- **Diagnosis.**  What the outcome of an evaluation says about the text is true of the text: a
value, that it has no foreign character and all its parentheses are paired; a fault, where and how it
departs from such a text, or that it divides, or that it is no infix expression. -/
theorem evaluate_explains (text : String) : Explains text.toList (evaluate text) := by
  cases h : evaluate text with
  | ok v =>
    obtain ⟨folds, hend⟩ := run_finish_of_evaluate h
    obtain ⟨s, hrun, hfinish⟩ := bind_eq_ok hend
    have hdepth : s.work.depth = 0 := Stacks.depth_of_finish hfinish
    have hcount : s.work.depth + text.toList.count ')' = text.toList.count '(' :=
      Scan.depth_of_run hrun
    refine ⟨subset_alphabet_of_run hrun, closesOnlyOpened_of_run hrun, ?_⟩
    omega
  | error fault =>
    by_cases hmal : fault = .malformed
    · subst hmal
      exact not_isInfix_of_malformed h
    · rcases exists_halt_of_evaluate h with
        ⟨front, c, back, s, halt, htext, hrun, hstep, rfl⟩ | ⟨s, halt, hrun, hfinish, rfl⟩
      · rw [htext]
        exact explains_of_step hrun hstep hmal back
      · exact explains_of_finish hrun hfinish hmal

/-- The end of a text comes before a parenthesis that stays open: `1+` lacks an operand. -/
example : evaluate "(1+" = .error .malformed ∧ evaluate "(1+2" = .error .unmatchedOpen := by decide

end CalcBench.Expression
