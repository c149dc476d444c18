import CalcBench.Proofs.Expression.Literals
import CalcBench.Proofs.Expression.Relocation
import CalcBench.Proofs.Expression.TokenOrder

/-!
# CalcBench.Proofs.Expression.Spacing — skipped characters are invisible

A skipped character does one thing: it ends a literal.  Where no literal would go on it changes nothing
but the places of what stands behind it, in well-formed texts and in others.

* `evaluate_insert_skipped`: **a skipped character** between two parts of a text.
-/

namespace CalcBench

/-- The fault when one more byte stands at the offset `place`. -/
def Fault.pushedFrom (place : Nat) : Fault → Fault
  | .invalidCharacter ch offset =>
    .invalidCharacter ch (if place ≤ offset then offset + 1 else offset)
  | fault => fault

theorem Fault.moved_succ (place : Nat) (fault : Fault) :
    fault.moved place (place + 1) = fault.pushedFrom place := by
  cases fault with
  | invalidCharacter ch offset =>
    by_cases h : place ≤ offset
    · have hplace : offset - place + (place + 1) = offset + 1 := by omega
      rw [moved, pushedFrom, if_neg (Nat.not_lt.mpr h), if_pos h, hplace]
    · rw [moved, pushedFrom, if_pos (Nat.lt_of_not_le h), if_neg h]
  | divisionByZero | unmatchedClose | unmatchedOpen | malformed => rfl

namespace Expression

theorem utf8Size_of_isSkipped {k : Char} (h : isSkipped k) : k.utf8Size = 1 := by
  have hall : Symbol.skippedChars.all fun c => decide (c.utf8Size = 1) := by decide
  exact of_decide_eq_true (List.all_eq_true.mp hall k (Symbol.isSkipped_iff_mem.mp h))

/-! ### Open literals -/

namespace Scan

/-- A literal is open exactly behind a digit. -/
theorem inLiteral_of_run {s : Scan} {text : List Char} (h : Scan.run {} text = .ok s) :
    s.inLiteral = endsInDigit text := by
  refine run_induction (P := fun q s₁ => s₁.inLiteral = endsInDigit q) h rfl ?_
  intro q c s₁ s₂ _ hstep
  rw [(step_eq_ok_iff.mp hstep).2.2, endsInDigit_concat]

/-- Whether a literal is open decides about digits only. -/
theorem step_inLiteral {c : Char} (hc : c.isDigit = false) (work : Stacks) (offset : Nat)
    (inLiteral : Bool) : step ⟨work, offset, inLiteral⟩ c = step ⟨work, offset, false⟩ c := by
  rw [step, step]
  cases hsymbol : Symbol.ofChar c with
  | digit d =>
    rw [(Symbol.ofChar_eq_digit_iff.mp hsymbol).1] at hc
    cases hc
  | skipped | opening | closing | operator | foreign => rfl

/-- A text that does not begin with a digit comes to the same end behind a digit and elsewhere. -/
theorem run_bind_finish_inLiteral {text : List Char} (h : beginsWithDigit text = false)
    (work : Stacks) (offset : Nat) (inLiteral : Bool) :
    ((run ⟨work, offset, inLiteral⟩ text).bind fun s => s.work.finish) =
      (run ⟨work, offset, false⟩ text).bind fun s => s.work.finish := by
  cases text with
  | nil => rfl
  | cons c rest => rw [run_cons, run_cons, step_inLiteral h]

theorem run_gap {gap : List Char} (h : IsGap gap) (s : Scan) :
    ∃ offset inLiteral, s.run gap = .ok ⟨s.work, offset, inLiteral⟩ := by
  induction gap generalizing s with
  | nil => exact ⟨s.offset, s.inLiteral, rfl⟩
  | cons c rest ih =>
    have hc : isSkipped c := h c List.mem_cons_self
    rw [run_cons, step_skipped hc]
    exact ih (fun d hd => h d (List.mem_cons_of_mem c hd)) ⟨s.work, s.offset + c.utf8Size, false⟩

end Scan

/-! ### Skipped characters at the end -/

theorem evaluate_append_gap (text : List Char) {gap : List Char} (h : IsGap gap) :
    evaluate (String.ofList (text ++ gap)) = evaluate (String.ofList text) := by
  have hrun : ((Scan.run {} (text ++ gap)).bind fun s => s.work.finish) =
      (Scan.run {} text).bind fun s => s.work.finish := by
    rw [Scan.run_append, bind_bind]
    cases Scan.run {} text with
    | error halt => rfl
    | ok s =>
      obtain ⟨offset, inLiteral, hgap⟩ := s.run_gap h
      simp only [ok_bind, hgap]
  rw [evaluate_eq_outcome, evaluate_eq_outcome, String.toList_ofList, String.toList_ofList, hrun]

/-! ### Skipped characters anywhere -/

/-- The rest of a text behind a skipped character, against the rest without it. -/
theorem outcome_run_skipped {s : Scan} {k : Char} {text : List Char} (hk : isSkipped k)
    (h : s.inLiteral → beginsWithDigit text = false) :
    outcome ((s.run (k :: text)).bind fun s => s.work.finish) =
      (outcome ((s.run text).bind fun s => s.work.finish)).mapError
        (Fault.moved s.offset (s.offset + 1)) := by
  obtain ⟨⟨values, pending, folds⟩, offset, inLiteral⟩ := s
  have hclosed : ((Scan.run ⟨⟨values, pending, folds⟩, offset, inLiteral⟩ text).bind
      fun s => s.work.finish) =
      (Scan.run ⟨⟨values, pending, folds⟩, offset, false⟩ text).bind fun s => s.work.finish := by
    cases inLiteral with
    | false => rfl
    | true => exact Scan.run_bind_finish_inLiteral (h rfl) _ _ _
  rw [Scan.run_cons, Scan.step_skipped hk, ok_bind, utf8Size_of_isSkipped hk, hclosed]
  exact outcome_run_moved offset (offset + 1) values pending folds folds text

theorem evaluate_append_skipped_append (front back : String) {k : Char} (hk : isSkipped k)
    (h : ¬ DigitsMeet front.toList back.toList) :
    evaluate (front ++ String.singleton k ++ back) =
      (evaluate (front ++ back)).mapError
        (Fault.moved front.utf8ByteSize (front.utf8ByteSize + 1)) := by
  have htext : (front ++ String.singleton k ++ back).toList =
      front.toList ++ k :: back.toList := by simp
  rw [evaluate_eq_outcome, evaluate_eq_outcome, htext, String.toList_append, Scan.run_append,
    Scan.run_append, bind_bind, bind_bind]
  cases hfront : Scan.run {} front.toList with
  | error halt =>
    have hle : utf8Length front.toList ≤ front.utf8ByteSize := Nat.le_of_eq (utf8Length_toList front)
    exact congrArg Except.error (moved_of_run_eq_error hfront hle _).symm
  | ok s =>
    have hoffset : s.offset = front.utf8ByteSize :=
      (Scan.offset_of_run_start hfront).trans (utf8Length_toList front)
    have hnext : s.inLiteral → beginsWithDigit back.toList = false := by
      intro hs
      rw [Scan.inLiteral_of_run hfront] at hs
      exact Bool.eq_false_iff.mpr fun hback => h ⟨hs, hback⟩
    rw [ok_bind, ok_bind, outcome_run_skipped hk hnext, hoffset]

/-- **Spacing.**  A skipped character between two parts of a text, unless it parts two digits, leaves the
outcome as it is; only the place of a foreign character behind it is one byte further.  At the end of any
text the end mark changes nothing. -/
theorem evaluate_insert_skipped (front : String) :
    (∀ (back : String) (k : Char), isSkipped k → ¬ DigitsMeet front.toList back.toList →
      evaluate (front ++ String.singleton k ++ back) =
        (evaluate (front ++ back)).mapError (Fault.pushedFrom front.utf8ByteSize)) ∧
    evaluate (front ++ "=") = evaluate front := by
  constructor
  · intro back k hk h
    have hmoved : Fault.moved front.utf8ByteSize (front.utf8ByteSize + 1) =
        Fault.pushedFrom front.utf8ByteSize := funext (Fault.moved_succ _)
    rw [evaluate_append_skipped_append front back hk h, hmoved]
  · have hend : IsGap ['='] := by decide
    have hgap := evaluate_append_gap front.toList hend
    rwa [String.ofList_append, String.ofList_toList] at hgap

/-- A foreign character behind the skipped one is met one byte later, one before it where it was. -/
theorem evaluate_insert_form_feed :
    (isSkipped '\x0c' ∧ ¬ DigitsMeet "1+".toList "2*ü".toList) ∧
    evaluate ("1+" ++ String.singleton '\x0c' ++ "2*ü") =
      (evaluate ("1+" ++ "2*ü")).mapError (Fault.pushedFrom 2) ∧
    evaluate ("1+" ++ "2*ü") = .error (.invalidCharacter 'ü' 4) ∧
    evaluate ("1+" ++ String.singleton '\x0c' ++ "2*ü") = .error (.invalidCharacter 'ü' 5) ∧
    evaluate ("1é" ++ String.singleton '\x0c' ++ "2") =
      (evaluate ("1é" ++ "2")).mapError (Fault.pushedFrom 3) ∧
    evaluate ("1é" ++ String.singleton '\x0c' ++ "2") = .error (.invalidCharacter 'é' 1) := by
  have hskipped : isSkipped '\x0c' := rfl
  have hmeet : ¬ DigitsMeet "1+".toList "2*ü".toList := by decide
  have hbehind := (evaluate_insert_skipped "1+").1 "2*ü" '\x0c' hskipped hmeet
  have hbefore := (evaluate_insert_skipped "1é").1 "2" '\x0c' hskipped (by decide)
  exact ⟨⟨hskipped, hmeet⟩, hbehind, by decide, by decide, hbefore, by decide⟩

end Expression

end CalcBench
