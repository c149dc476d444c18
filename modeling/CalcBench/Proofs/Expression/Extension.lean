import CalcBench.Proofs.Expression.Barrier
import CalcBench.Proofs.Expression.Diagnosis

/-!
# CalcBench.Proofs.Expression.Extension — texts that go on after a fault or after a value

A fault met at a character is met whatever follows.  The faults of the end of a text are not: more text
may mend them.  A text that has a value is broken by one more closing parenthesis or a foreign character
behind it, whatever else follows, and by opening parentheses before it.

* `Fault.IsOfCharacter`, `evaluate_append_of_isOfCharacter`: **faults of characters are final**.
-/

namespace CalcBench

/-- The faults that are met at a character: of a parenthesis that closes nothing, or of a foreign
character. -/
def Fault.IsOfCharacter : Fault → Prop
  | .unmatchedClose => True
  | .invalidCharacter _ _ => True
  | _ => False

namespace Expression

/-! ### Faults that are final -/

theorem Stacks.not_isOfCharacter_of_finish {w : Stacks} {halt : Halt} (h : w.finish = .error halt) :
    ¬ halt.fault.IsOfCharacter := by
  intro hf
  rcases finish_eq_error h with hu | ⟨hopen, -⟩ | hmal
  · rcases unwindFrom_eq_error hu with hmal | ⟨hzero, -⟩
    · rw [hmal] at hf
      exact hf
    · rw [hzero] at hf
      exact hf
  · rw [hopen] at hf
    exact hf
  · rw [hmal] at hf
    exact hf

/-- A text that begins with one that is refused is refused in the same way. -/
theorem evaluate_append_of_run_eq_error {p : String} {halt : Halt}
    (h : Scan.run {} p.toList = .error halt) (t : String) :
    evaluate (p ++ t) = .error halt.fault := by
  rw [evaluate, evaluation, String.toList_append, Scan.run_append, h]
  rfl

theorem evaluate_append_of_step_eq_error {p : String} {s : Scan} {c : Char} {halt : Halt}
    (hrun : Scan.run {} p.toList = .ok s) (hstep : s.step c = .error halt) (t : String) :
    evaluate (p ++ String.singleton c ++ t) = .error halt.fault := by
  refine evaluate_append_of_run_eq_error ?_ t
  rw [String.toList_append, String.toList_singleton, Scan.run_append, hrun, ok_bind, Scan.run_cons,
    hstep]
  rfl

/-- Such a fault stopped the scan. -/
theorem exists_run_of_isOfCharacter {p : String} {fault : Fault} (h : evaluate p = .error fault)
    (hf : fault.IsOfCharacter) : ∃ folds, Scan.run {} p.toList = .error ⟨fault, folds⟩ := by
  rcases exists_halt_of_evaluate h with
    ⟨front, c, back, s, ⟨_, folds⟩, htext, hrun, hstep, rfl⟩ | ⟨s, halt, -, hfinish, rfl⟩
  · refine ⟨folds, ?_⟩
    rw [htext, Scan.run_append, hrun, ok_bind, Scan.run_cons, hstep]
    rfl
  · exact absurd hf (Stacks.not_isOfCharacter_of_finish hfinish)

/-- **Faults of characters are final.** -/
theorem evaluate_append_of_isOfCharacter {p : String} {fault : Fault}
    (h : evaluate p = .error fault) (hf : fault.IsOfCharacter) (t : String) :
    evaluate (p ++ t) = .error fault := by
  obtain ⟨folds, hrun⟩ := exists_run_of_isOfCharacter h hf
  exact evaluate_append_of_run_eq_error hrun t

/-! ### Behind an accepted text -/

section Accepted

variable {p : String} {v : Int64}

/-- A parenthesis that closes finds no barrier below an accepted text. -/
theorem evaluate_append_closing (h : evaluate p = .ok v) (t : String) :
    evaluate (p ++ ")" ++ t) = .error .unmatchedClose := by
  obtain ⟨s, folds, hrun, hu⟩ := exists_run_of_evaluate h {} (stops_nil 0) 0
  have hstep : s.step ')' = .error ⟨.unmatchedClose, folds⟩ := by
    rw [Scan.step_closing, Stacks.closing_eq_bind, hu]
    rfl
  exact evaluate_append_of_step_eq_error hrun hstep t

/-- A foreign character behind an accepted text is met there. -/
theorem evaluate_append_foreign (h : evaluate p = .ok v) {c : Char} (hc : c ∉ alphabet) (t : String) :
    evaluate (p ++ String.singleton c ++ t) = .error (.invalidCharacter c p.utf8ByteSize) := by
  obtain ⟨s, -, hrun, -⟩ := exists_run_of_evaluate h {} (stops_nil 0) 0
  have hstep : s.step c = .error ⟨.invalidCharacter c s.offset, s.work.folds⟩ := by
    rw [Scan.step, isForeign_iff.mpr hc]
  have hoffset : s.offset = utf8Length p.toList := Scan.offset_of_run_start hrun
  rw [evaluate_append_of_step_eq_error hrun hstep t, hoffset, utf8Length_toList]

/-! ### Before an accepted text -/

/-- Opening parentheses put barriers on the pending operators. -/
theorem Scan.run_openings (k : Nat) {s : Scan} (hs : s.inLiteral = false) :
    s.run (List.replicate k '(') = .ok ⟨⟨s.work.values, List.replicate k .opened ++ s.work.pending,
      s.work.folds⟩, s.offset + k, false⟩ := by
  induction k generalizing s with
  | zero =>
    obtain ⟨work, offset, inLiteral⟩ := s
    cases hs
    rfl
  | succ k ih =>
    have hrest := @ih ⟨s.work.opening, s.offset + 1, false⟩ rfl
    have hbarriers : List.replicate k Pending.opened ++ .opened :: s.work.pending =
        List.replicate (k + 1) .opened ++ s.work.pending := by
      rw [List.replicate_succ', List.append_assoc, List.singleton_append]
    rw [List.replicate_succ, run_cons, step_opening, ok_bind]
    refine hrest.trans ?_
    rw [← hbarriers, Nat.add_assoc, Nat.add_comm 1 k]
    rfl

/-- The barriers of opening parentheses before an accepted text stay below its value. -/
theorem evaluate_openings_append (h : evaluate p = .ok v) {k : Nat} (hk : 1 ≤ k) :
    evaluate (String.ofList (List.replicate k '(') ++ p) = .error .unmatchedOpen := by
  obtain ⟨j, rfl⟩ := Nat.exists_eq_add_of_le' hk
  have hbarrier : Stops 0 (List.replicate (j + 1) Pending.opened ++ []) := by
    rw [List.replicate_succ]
    exact stops_opened 0 _
  have hopen : Scan.run {} (String.ofList (List.replicate (j + 1) '(')).toList =
      .ok ⟨⟨[], List.replicate (j + 1) .opened ++ [], []⟩, 0 + (j + 1), false⟩ := by
    rw [String.toList_ofList]
    exact Scan.run_openings (j + 1) (s := {}) rfl
  obtain ⟨s, folds, hrun, hu⟩ := exists_run_of_evaluate h ⟨[], _, []⟩ hbarrier (0 + (j + 1))
  rw [evaluate, evaluation, String.toList_append, Scan.run_append, hopen, ok_bind, hrun, ok_bind,
    Stacks.finish_eq_bind, hu]
  rfl

end Accepted

/-- **Extension.**  A text refused at one of its characters is refused in the same way whatever follows.
An accepted text followed by a closing parenthesis has that parenthesis unmatched; followed by a
foreign character it has that character invalid, at the length of the text; and behind any number of
opening parentheses it leaves one of them unmatched. -/
theorem evaluate_extended (p t : String) :
    (∀ fault : Fault, fault.IsOfCharacter → evaluate p = .error fault →
      evaluate (p ++ t) = .error fault) ∧
    ∀ v, evaluate p = .ok v →
      evaluate (p ++ ")" ++ t) = .error .unmatchedClose ∧
      (∀ c, c ∉ alphabet → evaluate (p ++ String.singleton c ++ t) =
        .error (.invalidCharacter c p.utf8ByteSize)) ∧
      ∀ k, 1 ≤ k →
        evaluate (String.ofList (List.replicate k '(') ++ p) = .error .unmatchedOpen :=
  ⟨fun _ hf h => evaluate_append_of_isOfCharacter h hf t, fun _ h =>
    ⟨evaluate_append_closing h t, fun _ hc => evaluate_append_foreign h hc t,
      fun _ hk => evaluate_openings_append h hk⟩⟩

/-- A foreign character and an unmatched parenthesis stay what they are when more follows; a product
followed by either, or behind three opening parentheses. -/
theorem evaluate_extended_product :
    (evaluate "2*(é" = .error (.invalidCharacter 'é' 3) ∧
      evaluate ("2*(é" ++ ")+1)=") = .error (.invalidCharacter 'é' 3)) ∧
    (evaluate "2*3)" = .error .unmatchedClose ∧
      evaluate ("2*3)" ++ "+x=") = .error .unmatchedClose) ∧
    evaluate "2*(3+4)" = .ok 14 ∧
      evaluate ("2*(3+4)" ++ ")" ++ "*(5") = .error .unmatchedClose ∧
      '^' ∉ alphabet ∧
      evaluate ("2*(3+4)" ++ String.singleton '^' ++ "2=") = .error (.invalidCharacter '^' 7) ∧
      evaluate (String.ofList (List.replicate 3 '(') ++ "2*(3+4)") = .error .unmatchedOpen := by
  have hproduct : evaluate "2*(3+4)" = .ok 14 := by decide
  have hforeign : '^' ∉ alphabet := by decide
  obtain ⟨hclose, hinvalid, hopen⟩ := (evaluate_extended "2*(3+4)" "*(5").2 14 hproduct
  exact ⟨⟨by decide, (evaluate_extended "2*(é" ")+1)=").1 _ trivial (by decide)⟩,
    ⟨by decide, (evaluate_extended "2*3)" "+x=").1 _ trivial (by decide)⟩, hproduct, hclose, hforeign,
    ((evaluate_extended "2*(3+4)" "2=").2 14 hproduct).2.1 '^' hforeign, hopen 3 (by decide)⟩

end Expression

end CalcBench
