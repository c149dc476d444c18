import CalcBench.Expression.Symbol
import CalcBench.Proofs.Expression.Scanning
import Mathlib.Data.List.Induction

/-!
# CalcBench.Proofs.Expression.Transitions — what a scan did, from what it gave

The converse of the equations for single characters: from the outcome of a step to its kind.  What
holds of the state after every text is proved once for a step and then read off `Scan.run_induction`.

* `Stacks.Takes`, `Scan.step_eq_ok_iff`: **all that one character can do** to the stacks.
-/

namespace CalcBench.Expression

theorem Symbol.isDigit_eq_false_of_isSkipped {c : Char} (h : isSkipped c) : c.isDigit = false := by
  by_contra hd
  rw [isSkipped_eq_false_of_isDigit (eq_true_of_ne_false hd)] at h
  cases h

/-! ### Unwinding -/

namespace Stacks

theorem fold_eq_error {s : Stacks} {fault : Fault} (h : s.fold = .error fault) :
    fault = .malformed ∨ fault = .divisionByZero ∧ .apply .div ∈ s.pending := by
  unfold fold at h
  split at h
  · next rhs lhs values op pending _ hp =>
    split at h
    · cases h
    · next e ha =>
      cases h
      obtain ⟨rfl, -, rfl⟩ := Operator.apply_eq_error_iff.mp ha
      exact .inr ⟨rfl, hp ▸ List.mem_cons_self⟩
  · cases h
    exact .inl rfl

/-- An operator that was unwound had its operands on top, and left its value there. -/
theorem unwindFrom_apply_eq_ok {rank : Nat} {op : Operator} (hr : rank ≤ op.precedence)
    {values : List Int64} {folds : List Fold} {below : List Pending} {s : Stacks}
    (h : unwindFrom rank values folds (.apply op :: below) = .ok s) :
    ∃ lhs rhs rest result, values = rhs :: lhs :: rest ∧ op.apply lhs rhs = .ok result ∧
      unwindFrom rank (result :: rest) (⟨op, lhs, rhs, result⟩ :: folds) below = .ok s := by
  match values, h with
  | [], h =>
    rw [unwindFrom_apply_short hr (by simp)] at h
    cases h
  | [_], h =>
    rw [unwindFrom_apply_short hr (by simp)] at h
    cases h
  | rhs :: lhs :: rest, h =>
    rw [unwindFrom_apply hr] at h
    split at h
    · next result ha => exact ⟨lhs, rhs, rest, result, rfl, ha, h⟩
    · cases h

/-- Unwinding takes operators off, and stops at a barrier or at an operator that binds less
tightly. -/
theorem unwindFrom_eq_ok {rank : Nat} {values : List Int64} {folds : List Fold}
    {pending : List Pending} {s : Stacks} (h : unwindFrom rank values folds pending = .ok s) :
    Stops rank s.pending ∧ ∃ ops : List Operator, pending = ops.map .apply ++ s.pending := by
  fun_induction unwindFrom rank values folds pending generalizing s with
  | case1 values folds =>
    cases h
    exact ⟨stops_nil rank, [], rfl⟩
  | case2 values folds below =>
    cases h
    exact ⟨stops_opened rank below, [], rfl⟩
  | case3 values folds op below _ s₁ _ ih =>
    obtain ⟨hstop, ops, rfl⟩ := ih h
    exact ⟨hstop, op :: ops, rfl⟩
  | case4 => cases h
  | case5 values folds op below hr =>
    cases h
    exact ⟨Nat.not_le.mp hr, [], rfl⟩

/-- Unwinding fails for want of an operand or at a division that waited. -/
theorem unwindFrom_eq_error {rank : Nat} {values : List Int64} {folds : List Fold}
    {pending : List Pending} {halt : Halt}
    (h : unwindFrom rank values folds pending = .error halt) :
    halt.fault = .malformed ∨ halt.fault = .divisionByZero ∧ .apply .div ∈ pending := by
  fun_induction unwindFrom rank values folds pending with
  | case1 => cases h
  | case2 => cases h
  | case3 values folds op below _ s₁ _ ih =>
    exact (ih h).imp_right fun ⟨hzero, hmem⟩ => ⟨hzero, List.mem_cons_of_mem _ hmem⟩
  | case4 values folds op below _ fault hfold =>
    cases h
    exact fold_eq_error hfold
  | case5 => cases h

/-- Unwinding at rank 0 takes off all operators, down to a barrier or to the ground. -/
theorem eq_nil_or_opened_of_stops {pending : List Pending} (h : Stops 0 pending) :
    pending = [] ∨ ∃ below, pending = .opened :: below := by
  match pending, h with
  | [], _ => exact .inl rfl
  | .opened :: below, _ => exact .inr ⟨below, rfl⟩
  | .apply op :: _, h => exact absurd h (Nat.not_lt_zero _)

section Keeps

variable {P : Stacks → Prop} {w w' : Stacks} {rank : Nat}

/-- An application takes an operator and two values off, and puts the result on. -/
theorem fold_eq_ok (h : w.fold = .ok w') : ∃ op lhs rhs values below result,
    w = ⟨rhs :: lhs :: values, .apply op :: below, w.folds⟩ ∧ op.apply lhs rhs = .ok result ∧
      w' = ⟨result :: values, below, ⟨op, lhs, rhs, result⟩ :: w.folds⟩ := by
  obtain ⟨values, pending, folds⟩ := w
  unfold fold at h
  split at h
  · next rhs lhs values op below hvalues hpending =>
    obtain rfl : _ = rhs :: lhs :: values := hvalues
    obtain rfl : _ = .apply op :: below := hpending
    split at h
    · next result ha =>
      cases h
      exact ⟨op, lhs, rhs, values, below, result, rfl, ha, rfl⟩
    · cases h
  · cases h

/-- What one application keeps, an unwinding keeps; where it stops, the operators it applied are those
of stacks that still have it. -/
theorem keeps_or_exists_kept (hfold : ∀ {w w' : Stacks}, w.fold = .ok w' → P w → P w') (rank : Nat)
    (hw : P w) :
    (∃ w', w.unwind rank = .ok w' ∧ P w') ∨
      ∃ halt w', w.unwind rank = .error halt ∧ P w' ∧ w'.folds = halt.folds := by
  obtain ⟨values, pending, folds⟩ := w
  rw [unwind]
  dsimp only
  fun_induction unwindFrom rank values folds pending with
  | case1 values folds => exact .inl ⟨_, rfl, hw⟩
  | case2 values folds below => exact .inl ⟨_, rfl, hw⟩
  | case3 values folds op below _ s hs ih =>
    obtain ⟨op', lhs, rhs, rest, below', result, hstart, -, rfl⟩ := fold_eq_ok hs
    cases hstart
    exact ih (hfold hs hw)
  | case4 values folds op below _ fault _ => exact .inr ⟨_, _, rfl, hw, rfl⟩
  | case5 values folds op below _ => exact .inl ⟨_, rfl, hw⟩

theorem keeps_of_unwind (hfold : ∀ {w w' : Stacks}, w.fold = .ok w' → P w → P w') (hw : P w)
    (h : w.unwind rank = .ok w') : P w' := by
  rcases keeps_or_exists_kept hfold rank hw with ⟨w'', hok, hkept⟩ | ⟨halt, -, herror, -⟩
  · cases hok.symm.trans h
    exact hkept
  · cases herror.symm.trans h

theorem exists_kept_of_unwind_bind {β : Type} {k : Stacks → Except Halt β} {halt : Halt}
    (hk : ∀ {w'}, k w' = .error halt → halt.folds = w'.folds)
    (hfold : ∀ {w w' : Stacks}, w.fold = .ok w' → P w → P w') (hw : P w)
    (h : (w.unwind rank).bind k = .error halt) : ∃ w', P w' ∧ w'.folds = halt.folds := by
  rcases keeps_or_exists_kept hfold rank hw with ⟨w', hok, hkept⟩ | ⟨halt', w', herror, hkept⟩
  · rw [hok] at h
    exact ⟨w', hkept, (hk h).symm⟩
  · rw [herror] at h
    cases h
    exact ⟨w', hkept⟩

end Keeps

/-! ### One character -/

/-- What a character does to the stacks; `inLiteral` tells whether a digit stood before it. -/
inductive Takes (inLiteral : Bool) (w : Stacks) : Char → Stacks → Prop where
  | skipped {c : Char} : isSkipped c → Takes inLiteral w c w
  | digit {c : Char} : c.isDigit → Takes inLiteral w c (w.digit inLiteral (Text.digitValue c))
  | opening : Takes inLiteral w '(' w.opening
  | closing {w' : Stacks} : w.unwind 0 = .ok ⟨w'.values, .opened :: w'.pending, w'.folds⟩ →
      Takes inLiteral w ')' w'
  | operator {op : Operator} {w' : Stacks} :
      w.unwind op.precedence = .ok w' → Takes inLiteral w op.symbol (w'.await op)

theorem closing_eq_ok_iff {w w' : Stacks} :
    w.closing = .ok w' ↔ w.unwind 0 = .ok ⟨w'.values, .opened :: w'.pending, w'.folds⟩ := by
  obtain ⟨values', below, folds'⟩ := w'
  rw [closing_eq_bind]
  constructor
  · intro h
    obtain ⟨⟨values, pending, folds⟩, hu, hdrop⟩ := bind_eq_ok h
    obtain rfl : pending = .opened :: below := pending_of_dropBarrier hdrop
    cases hdrop
    exact hu
  · intro h
    rw [h]
    rfl

/-- A parenthesis that closes fails with the operators above its partner, or has no partner. -/
theorem closing_eq_error {w : Stacks} {halt : Halt} (h : w.closing = .error halt) :
    w.unwind 0 = .error halt ∨
      halt.fault = .unmatchedClose ∧ ∃ ops : List Operator, w.pending = ops.map .apply := by
  rw [closing_eq_bind] at h
  rcases bind_eq_error h with hu | ⟨⟨values, pending, folds⟩, hu, hdrop⟩
  · exact .inl hu
  · obtain ⟨hstop, ops, hops⟩ := unwindFrom_eq_ok hu
    obtain rfl | ⟨below, rfl⟩ := eq_nil_or_opened_of_stops hstop
    · cases hdrop
      exact .inr ⟨rfl, ops, by rw [hops, List.append_nil]⟩
    · cases hdrop

end Stacks

/-! ### Lengths -/

theorem utf8Length_append (front back : List Char) :
    utf8Length (front ++ back) = utf8Length front + utf8Length back := by
  induction front with
  | nil => exact (Nat.zero_add _).symm
  | cons c rest ih => rw [List.cons_append, utf8Length, utf8Length, ih, Nat.add_assoc]

theorem utf8Length_toList (text : String) : utf8Length text.toList = text.utf8ByteSize := by
  have hlist : ∀ cs : List Char, utf8Length cs = (String.ofList cs).utf8ByteSize := by
    intro cs
    induction cs with
    | nil => rfl
    | cons c rest ih =>
      have hcons : String.ofList (c :: rest) = String.singleton c ++ String.ofList rest :=
        String.toList_inj.mp (by simp)
      rw [utf8Length, ih, hcons, String.utf8ByteSize_append, String.utf8ByteSize_singleton]
  rw [hlist, String.ofList_toList]

namespace Scan

/-- **One step.**  A character that is taken moves on by its length and does one of five things. -/
theorem step_eq_ok_iff {s s' : Scan} {c : Char} :
    s.step c = .ok s' ↔ s.work.Takes s.inLiteral c s'.work ∧
      s'.offset = s.offset + c.utf8Size ∧ s'.inLiteral = c.isDigit := by
  constructor
  · intro h
    cases hc : Symbol.ofChar c with
    | skipped =>
      have hskip : isSkipped c := Symbol.ofChar_eq_skipped_iff.mp hc
      rw [step_skipped hskip] at h
      cases h
      exact ⟨.skipped hskip, rfl, (Symbol.isDigit_eq_false_of_isSkipped hskip).symm⟩
    | digit d =>
      have hdigit : c.isDigit := (Symbol.ofChar_eq_digit_iff.mp hc).1
      rw [step_digit hdigit] at h
      cases h
      exact ⟨.digit hdigit, rfl, hdigit.symm⟩
    | opening =>
      obtain rfl : c = '(' := Symbol.ofChar_eq_opening_iff.mp hc
      cases h
      exact ⟨.opening, rfl, rfl⟩
    | closing =>
      obtain rfl : c = ')' := Symbol.ofChar_eq_closing_iff.mp hc
      rw [step_closing] at h
      obtain ⟨w, hw, rfl⟩ := map_eq_ok h
      exact ⟨.closing (Stacks.closing_eq_ok_iff.mp hw), rfl, rfl⟩
    | operator op =>
      obtain rfl : c = op.symbol := Symbol.ofChar_eq_operator_iff.mp hc
      rw [step_symbol, Stacks.operator_eq_bind] at h
      obtain ⟨w, hw, rfl⟩ := map_eq_ok h
      obtain ⟨w', hu, hawait⟩ := bind_eq_ok hw
      cases hawait
      refine ⟨.operator hu, rfl, ?_⟩
      cases op <;> rfl
    | foreign =>
      rw [step, hc] at h
      cases h
  · rintro ⟨htakes, hoffset, hliteral⟩
    obtain ⟨w', offset', inLiteral'⟩ := s'
    dsimp only at htakes hoffset hliteral
    subst hoffset hliteral
    cases htakes with
    | skipped hskip =>
      rw [step_skipped hskip, Symbol.isDigit_eq_false_of_isSkipped hskip]
    | digit hdigit => rw [step_digit hdigit, hdigit]
    | opening => rfl
    | closing hu =>
      rw [step_closing, Stacks.closing_eq_ok_iff.mpr hu]
      rfl
    | @operator op w hu =>
      rw [step_symbol, Stacks.operator_eq_bind, hu]
      cases op <;> rfl

/-- A character is refused because of the operators it unwinds, as a parenthesis without a partner,
or as a foreign character. -/
theorem step_eq_error {s : Scan} {c : Char} {halt : Halt} (h : s.step c = .error halt) :
    (∃ rank, s.work.unwind rank = .error halt) ∨
    (c = ')' ∧ halt.fault = .unmatchedClose ∧
      ∃ ops : List Operator, s.work.pending = ops.map .apply) ∨
    (IsForeign c ∧ halt.fault = .invalidCharacter c s.offset) := by
  cases hc : Symbol.ofChar c with
  | skipped | digit | opening =>
    rw [step, hc] at h
    cases h
  | closing =>
    obtain rfl : c = ')' := Symbol.ofChar_eq_closing_iff.mp hc
    rw [step_closing] at h
    rcases Stacks.closing_eq_error (map_eq_error h) with hu | hunmatched
    · exact .inl ⟨0, hu⟩
    · exact .inr (.inl ⟨rfl, hunmatched⟩)
  | operator op =>
    obtain rfl : c = op.symbol := Symbol.ofChar_eq_operator_iff.mp hc
    rw [step_symbol, Stacks.operator_eq_bind] at h
    rcases bind_eq_error (map_eq_error h) with hu | ⟨w, -, hawait⟩
    · exact .inl ⟨op.precedence, hu⟩
    · cases hawait
  | foreign =>
    rw [step, hc] at h
    cases h
    exact .inr (.inr ⟨hc, rfl⟩)

/-- What one application keeps holds of the stacks whose operators a refused character reports. -/
theorem exists_kept_of_step_eq_error {P : Stacks → Prop} {s : Scan} {c : Char} {halt : Halt}
    (hfold : ∀ {w w' : Stacks}, w.fold = .ok w' → P w → P w') (hs : P s.work)
    (h : s.step c = .error halt) : ∃ w, P w ∧ w.folds = halt.folds := by
  cases hc : Symbol.ofChar c with
  | skipped | digit | opening =>
    rw [step, hc] at h
    cases h
  | closing =>
    obtain rfl : c = ')' := Symbol.ofChar_eq_closing_iff.mp hc
    rw [step_closing, Stacks.closing_eq_bind] at h
    refine Stacks.exists_kept_of_unwind_bind (fun {w'} hdrop => ?_) hfold hs (map_eq_error h)
    unfold Stacks.dropBarrier at hdrop
    split at hdrop <;> cases hdrop
    rfl
  | operator op =>
    obtain rfl : c = op.symbol := Symbol.ofChar_eq_operator_iff.mp hc
    rw [step_symbol, Stacks.operator_eq_bind] at h
    refine Stacks.exists_kept_of_unwind_bind (fun {w'} hawait => ?_) hfold hs (map_eq_error h)
    cases hawait
  | foreign =>
    rw [step, hc] at h
    cases h
    exact ⟨s.work, hs, rfl⟩

/-! ### Texts -/

/-- What holds at the start and is kept by every step holds, of the text read and the state reached,
after every text that is read. -/
theorem run_induction {P : List Char → Scan → Prop} {s s' : Scan} {text : List Char}
    (h : s.run text = .ok s') (start : P [] s)
    (next : ∀ {q c s₁ s₂}, P q s₁ → s₁.step c = .ok s₂ → P (q ++ [c]) s₂) : P text s' := by
  induction text using List.reverseRecOn generalizing s' with
  | nil =>
    cases h
    exact start
  | append_singleton q c ih =>
    rw [run_append] at h
    obtain ⟨s₁, hq, hc⟩ := bind_eq_ok h
    rw [run_cons] at hc
    obtain ⟨s₂, hstep, hnil⟩ := bind_eq_ok hc
    cases hnil
    exact next (ih hq) hstep

/-- A text that is refused is refused at one of its characters, once all before it is read. -/
theorem exists_refused_of_run_eq_error {s : Scan} {text : List Char} {halt : Halt}
    (h : s.run text = .error halt) :
    ∃ front c back s', text = front ++ c :: back ∧ s.run front = .ok s' ∧
      s'.step c = .error halt := by
  induction text generalizing s with
  | nil => cases h
  | cons c rest ih =>
    rw [run_cons] at h
    rcases bind_eq_error h with hc | ⟨s₁, hc, hrest⟩
    · exact ⟨[], c, rest, s, rfl, rfl, hc⟩
    · obtain ⟨front, d, back, s', rfl, hrun, hstep⟩ := ih hrest
      refine ⟨c :: front, d, back, s', rfl, ?_, hstep⟩
      rw [run_cons, hc]
      exact hrun

theorem exists_run_of_prefix {s s' : Scan} {q text : List Char} (h : s.run text = .ok s')
    (hq : q <+: text) : ∃ s₁, s.run q = .ok s₁ := by
  obtain ⟨rest, rfl⟩ := hq
  rw [run_append] at h
  obtain ⟨s₁, hrun, -⟩ := bind_eq_ok h
  exact ⟨s₁, hrun⟩

theorem offset_of_run {s s' : Scan} {text : List Char} (h : s.run text = .ok s') :
    s'.offset = s.offset + utf8Length text := by
  refine run_induction (P := fun q s₁ => s₁.offset = s.offset + utf8Length q) h rfl ?_
  intro q c s₁ s₂ hq hstep
  rw [(step_eq_ok_iff.mp hstep).2.1, hq, utf8Length_append, Nat.add_assoc]
  rfl

theorem offset_of_run_start {s : Scan} {text : List Char} (h : Scan.run {} text = .ok s) :
    s.offset = utf8Length text := (offset_of_run h).trans (Nat.zero_add _)

end Scan

end CalcBench.Expression
