import CalcBench.Proofs.Expression.Barrier
import CalcBench.Proofs.Expression.Relocation
import Mathlib.Data.Int.ModEq

/-!
# CalcBench.Proofs.Expression.Replacement — a parenthesised text stands for its value

Wherever it stands, also in a text that is malformed, an accepted text in parentheses does what a literal
of its value does: it puts that value on top of the values and leaves everything below as it was.

* `evaluate_replace`: **texts that deliver one value can replace each other** in every context.
-/

namespace CalcBench.Expression

/-- The text puts a value on top of whatever stacks it is read on, and lets no literal go on. -/
def Delivers (v : Int64) (text : String) : Prop :=
  ∀ s : Scan, ∃ folds, s.run text.toList =
    .ok ⟨⟨v :: s.work.values, s.work.pending, folds⟩, s.offset + text.utf8ByteSize, false⟩

/-! ### Texts that deliver a value -/

namespace Delivers

variable {v : Int64} {text : String}

theorem of_run (h : ∀ s : Scan, ∃ folds offset, s.run text.toList =
    .ok ⟨⟨v :: s.work.values, s.work.pending, folds⟩, offset, false⟩) : Delivers v text := by
  intro s
  obtain ⟨folds, offset, hrun⟩ := h s
  have hoffset : offset = s.offset + utf8Length text.toList := Scan.offset_of_run hrun
  rw [utf8Length_toList] at hoffset
  exact ⟨folds, hoffset ▸ hrun⟩

theorem evaluate_eq (h : Delivers v text) : evaluate text = .ok v := by
  obtain ⟨folds, hrun⟩ := h {}
  rw [evaluate, evaluation, hrun]
  rfl

/-- An accepted text in parentheses delivers its value: its barrier keeps it from what is below. -/
theorem group (h : evaluate text = .ok v) : Delivers v ("(" ++ text ++ ")") := by
  refine of_run fun s => ?_
  have htext : ("(" ++ text ++ ")").toList = '(' :: (text.toList ++ [')']) := by simp
  obtain ⟨s₁, folds, hrun, hu⟩ :=
    exists_run_of_evaluate h s.work.opening (stops_opened 0 s.work.pending) (s.offset + '('.utf8Size)
  have hclose : s₁.work.closing = .ok ⟨v :: s.work.values, s.work.pending, folds⟩ :=
    Stacks.closing_eq_ok_iff.mpr hu
  refine ⟨folds, s₁.offset + ')'.utf8Size, ?_⟩
  rw [htext, Scan.run_cons, Scan.step_opening, ok_bind, Scan.run_append, hrun, ok_bind,
    Scan.run_cons, Scan.step_closing, hclose]
  rfl

/-- A literal between two spaces delivers its number. -/
theorem literal {digits : String} (hne : digits.toList ≠ []) (hd : ∀ c ∈ digits.toList, c.isDigit) :
    Delivers (Int64.ofNat (Nat.ofDigitChars 10 digits.toList 0)) (" " ++ digits ++ " ") := by
  refine of_run fun s => ?_
  have htext : (" " ++ digits ++ " ").toList = ' ' :: (digits.toList ++ [' ']) := by simp
  have hspace : isSkipped ' ' := rfl
  obtain ⟨offset, hrun⟩ :=
    Scan.run_literal (s := ⟨s.work, s.offset + ' '.utf8Size, false⟩) hne hd rfl
  refine ⟨s.work.folds, offset + ' '.utf8Size, ?_⟩
  rw [htext, Scan.run_cons, Scan.step_skipped hspace, ok_bind, Scan.run_append, hrun, ok_bind,
    Scan.run_cons, Scan.step_skipped hspace]
  rfl

end Delivers

/-! ### Replacing one by another -/

/-- **Replacement.**  Texts that deliver one value have the same outcome in every context, but for the
place of a foreign character behind them. -/
theorem evaluate_replace {v : Int64} {old new : String} (hold : Delivers v old)
    (hnew : Delivers v new) (front back : String) :
    evaluate (front ++ new ++ back) =
      (evaluate (front ++ old ++ back)).mapError
        (Fault.moved (front.utf8ByteSize + old.utf8ByteSize)
          (front.utf8ByteSize + new.utf8ByteSize)) := by
  simp only [evaluate_eq_outcome, String.toList_append, Scan.run_append, bind_bind]
  cases hfront : Scan.run {} front.toList with
  | error halt =>
    have hle : utf8Length front.toList ≤ front.utf8ByteSize + old.utf8ByteSize := by
      rw [utf8Length_toList]
      exact Nat.le_add_right _ _
    exact congrArg Except.error (moved_of_run_eq_error hfront hle _).symm
  | ok s =>
    have hoffset : s.offset = utf8Length front.toList := Scan.offset_of_run_start hfront
    rw [utf8Length_toList] at hoffset
    obtain ⟨folds, hrun⟩ := hold s
    obtain ⟨folds', hrun'⟩ := hnew s
    simp only [ok_bind, hrun, hrun', hoffset]
    exact outcome_run_moved _ _ _ _ _ _ back.toList

theorem ofNat_eq_of_modEq {n : Nat} {v : Int64} (h : (n : Int) ≡ v.toInt [ZMOD 2 ^ 64]) :
    Int64.ofNat n = v := by
  have hmod : (n : Int) % ((2 ^ 64 : Nat) : Int) = v.toInt % ((2 ^ 64 : Nat) : Int) := by
    exact_mod_cast h
  rw [← Int64.ofInt_eq_ofNat, Int64.ofInt_eq_iff_bmod_eq_toInt]
  calc (n : Int).bmod (2 ^ 64)
    _ = ((n : Int) % ((2 ^ 64 : Nat) : Int)).bmod (2 ^ 64) := (Int.emod_bmod n (2 ^ 64)).symm
    _ = v.toInt.bmod (2 ^ 64) := by rw [hmod, Int.emod_bmod]
    _ = v.toInt := (Int64.ofInt_eq_iff_bmod_eq_toInt v.toInt v).mp v.ofInt_toInt

theorem utf8ByteSize_between (left text right : String) : (left ++ text ++ right).utf8ByteSize =
    text.utf8ByteSize + (left.utf8ByteSize + right.utf8ByteSize) := by
  rw [String.utf8ByteSize_append, String.utf8ByteSize_append]
  omega

/-- **Parentheses.**  In every context an accepted text in parentheses can be replaced by a literal of its
value, and by itself in more parentheses: the outcome stays, and only the place of a foreign character
behind it moves with the length.  On its own it keeps its value. -/
theorem evaluate_group {text digits : String} {v : Int64} (h : evaluate text = .ok v)
    (hne : digits.toList ≠ []) (hd : ∀ c ∈ digits.toList, c.isDigit)
    (hv : (Nat.ofDigitChars 10 digits.toList 0 : Int) ≡ v.toInt [ZMOD 2 ^ 64]) (front back : String) :
    evaluate (front ++ "(" ++ text ++ ")" ++ back) =
      (evaluate (front ++ " " ++ digits ++ " " ++ back)).mapError
        (Fault.moved (front.utf8ByteSize + (digits.utf8ByteSize + 2))
          (front.utf8ByteSize + (text.utf8ByteSize + 2))) ∧
    evaluate (front ++ "((" ++ text ++ "))" ++ back) =
      (evaluate (front ++ "(" ++ text ++ ")" ++ back)).mapError
        (Fault.moved (front.utf8ByteSize + (text.utf8ByteSize + 2))
          (front.utf8ByteSize + (text.utf8ByteSize + 4))) ∧
    evaluate ("(" ++ text ++ ")") = .ok v := by
  -- three texts that deliver `v`, each of which can stand for the others
  have hgroup : Delivers v ("(" ++ text ++ ")") := .group h
  have hdouble : Delivers v ("(" ++ ("(" ++ text ++ ")") ++ ")") := .group hgroup.evaluate_eq
  have hliteral : Delivers v (" " ++ digits ++ " ") := ofNat_eq_of_modEq hv ▸ .literal hne hd
  have hsize : ("(" ++ text ++ ")").utf8ByteSize = text.utf8ByteSize + 2 :=
    utf8ByteSize_between "(" text ")"
  have hsize' : ("(" ++ ("(" ++ text ++ ")") ++ ")").utf8ByteSize = text.utf8ByteSize + 4 := by
    rw [utf8ByteSize_between, hsize]
    rfl
  have hspaced : (" " ++ digits ++ " ").utf8ByteSize = digits.utf8ByteSize + 2 :=
    utf8ByteSize_between " " digits " "
  refine ⟨?_, ?_, hgroup.evaluate_eq⟩
  · have hreplace := evaluate_replace hliteral hgroup front back
    rw [hsize, hspaced] at hreplace
    simpa only [String.append_assoc] using hreplace
  · have hreplace := evaluate_replace hgroup hdouble front back
    have htext : front ++ "((" ++ text ++ "))" ++ back =
        front ++ ("(" ++ ("(" ++ text ++ ")") ++ ")") ++ back := by
      rw [← String.toList_inj]
      simp
    rw [hsize, hsize'] at hreplace
    rw [htext, hreplace]
    simp only [String.append_assoc]

/-- A negative value and the literal that wraps to it, before a foreign character. -/
theorem evaluate_group_minus_one :
    evaluate "0-1" = .ok (-1) ∧
    (∀ c ∈ "18446744073709551615".toList, c.isDigit) ∧
    (Nat.ofDigitChars 10 "18446744073709551615".toList 0 : Int) ≡ (-1 : Int64).toInt [ZMOD 2 ^ 64] ∧
    evaluate ("2*" ++ "(" ++ "0-1" ++ ")" ++ "+é") =
      (evaluate ("2*" ++ " " ++ "18446744073709551615" ++ " " ++ "+é")).mapError
        (Fault.moved 24 7) ∧
    evaluate ("2*" ++ "(" ++ "0-1" ++ ")" ++ "+é") = .error (.invalidCharacter 'é' 8) := by
  have hvalue : evaluate "0-1" = .ok (-1) := by decide
  have hall : "18446744073709551615".toList.all Char.isDigit := by decide
  have hdigits : ∀ c ∈ "18446744073709551615".toList, c.isDigit := List.all_eq_true.mp hall
  have hmod : (Nat.ofDigitChars 10 "18446744073709551615".toList 0 : Int) ≡
      (-1 : Int64).toInt [ZMOD 2 ^ 64] := by decide
  exact ⟨hvalue, hdigits, hmod,
    (evaluate_group hvalue (by decide) hdigits hmod "2*" "+é").1, by decide⟩

end CalcBench.Expression
