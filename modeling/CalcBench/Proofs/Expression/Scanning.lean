import CalcBench.Expression.Evaluation
import Mathlib.Tactic.Common

/-!
# CalcBench.Proofs.Expression.Scanning — one step of the evaluator

What each kind of character does to the state of a scan, and what unwinding does to the stacks.
Later statements about `evaluate` go through these equations.
-/

namespace CalcBench

/-! ### Ranks -/

theorem Operator.one_le_precedence (op : Operator) : 1 ≤ op.precedence := by
  cases op <;> decide

theorem Operator.precedence_le_two (op : Operator) : op.precedence ≤ 2 := by
  cases op <;> decide

namespace Expression

/-! ### Stages in a row -/

section Stages

variable {ε α β γ : Type}

@[simp] theorem ok_bind (a : α) (f : α → Except ε β) : (Except.ok a).bind f = f a := rfl

theorem bind_bind (x : Except ε α) (f : α → Except ε β) (g : β → Except ε γ) :
    (x.bind f).bind g = x.bind fun a => (f a).bind g :=
  bind_assoc x f g

theorem map_bind (x : Except ε α) (f : α → β) (g : β → Except ε γ) :
    (x.map f).bind g = x.bind fun a => g (f a) := by
  cases x with
  | ok a => rfl
  | error e => rfl

theorem bind_eq_ok {x : Except ε α} {f : α → Except ε β} {b : β} (h : x.bind f = .ok b) :
    ∃ a, x = .ok a ∧ f a = .ok b := by
  cases x with
  | ok a => exact ⟨a, rfl, h⟩
  | error e => cases h

theorem map_eq_ok {x : Except ε α} {f : α → β} {b : β} (h : x.map f = .ok b) :
    ∃ a, x = .ok a ∧ f a = b := by
  cases x with
  | ok a =>
    cases h
    exact ⟨a, rfl, rfl⟩
  | error e => cases h

theorem bind_eq_error {x : Except ε α} {f : α → Except ε β} {e : ε} (h : x.bind f = .error e) :
    x = .error e ∨ ∃ a, x = .ok a ∧ f a = .error e := by
  cases x with
  | ok a => exact .inr ⟨a, rfl, h⟩
  | error e' =>
    cases h
    exact .inl rfl

theorem map_eq_error {x : Except ε α} {f : α → β} {e : ε} (h : x.map f = .error e) :
    x = .error e := by
  cases x with
  | ok a => cases h
  | error e' =>
    cases h
    rfl

end Stages

/-! ### The part that a character plays -/

namespace Symbol

/-- The characters that a scan steps over. -/
def skippedChars : List Char := [' ', '\t', '\n', '\x0c', '\r', '=']

theorem isSkipped_iff_mem {c : Char} : isSkipped c ↔ c ∈ skippedChars := by
  simp only [skippedChars, isSkipped, Text.isAsciiBlank, Bool.or_eq_true, beq_iff_eq, List.mem_cons,
    List.not_mem_nil, or_false, or_assoc]

theorem isSkipped_eq_false_of_isDigit {c : Char} (h : c.isDigit) : isSkipped c = false := by
  cases hs : isSkipped c with
  | false => rfl
  | true =>
    have hall : skippedChars.all fun c => !c.isDigit := by decide
    have hno := List.all_eq_true.mp hall c (isSkipped_iff_mem.mp hs)
    rw [h] at hno
    cases hno

theorem ofChar_eq_skipped_iff {c : Char} : ofChar c = .skipped ↔ isSkipped c := by
  unfold ofChar
  split_ifs with hs hd ho hc
  · exact iff_of_true rfl hs
  · exact iff_of_false nofun hs
  · exact iff_of_false nofun hs
  · exact iff_of_false nofun hs
  · refine iff_of_false (fun h => ?_) hs
    split at h <;> cases h

theorem ofChar_eq_digit_iff {c : Char} {d : Nat} :
    ofChar c = .digit d ↔ c.isDigit ∧ Text.digitValue c = d := by
  constructor
  · intro h
    grind [ofChar]
  · rintro ⟨h, rfl⟩
    rw [ofChar, isSkipped_eq_false_of_isDigit h, if_neg (by decide), if_pos h]

theorem ofChar_eq_opening_iff {c : Char} : ofChar c = .opening ↔ c = '(' := by
  constructor
  · intro h
    grind [ofChar]
  · rintro rfl
    rfl

theorem ofChar_eq_closing_iff {c : Char} : ofChar c = .closing ↔ c = ')' := by
  constructor
  · intro h
    grind [ofChar]
  · rintro rfl
    rfl

theorem ofChar_eq_operator_iff {c : Char} {op : Operator} :
    ofChar c = .operator op ↔ c = op.symbol := by
  constructor
  · intro h
    grind [ofChar, Operator.ofSymbol?_eq_some_iff]
  · rintro rfl
    cases op <;> rfl

end Symbol

/-! ### Unwinding -/

/-- Nothing on top of the pending operators binds at least as tightly as `rank`. -/
def Stops (rank : Nat) : List Pending → Prop
  | .apply op :: _ => op.precedence < rank
  | _ => True

theorem stops_nil (rank : Nat) : Stops rank [] := trivial

theorem stops_opened (rank : Nat) (below : List Pending) : Stops rank (.opened :: below) := trivial

theorem Stops.mono {rank rank' : Nat} {pending : List Pending} (h : Stops rank pending)
    (hle : rank ≤ rank') : Stops rank' pending := by
  match pending, h with
  | [], _ => trivial
  | .opened :: _, _ => trivial
  | .apply op :: _, h => exact Nat.lt_of_lt_of_le h hle

theorem stops_three (pending : List Pending) : Stops 3 pending := by
  match pending with
  | [] => trivial
  | .opened :: _ => trivial
  | .apply op :: _ => exact Nat.lt_succ_of_le op.precedence_le_two

namespace Stacks

theorem unwindFrom_of_stops {rank : Nat} {values : List Int64} {folds : List Fold}
    {pending : List Pending} (h : Stops rank pending) :
    unwindFrom rank values folds pending = .ok ⟨values, pending, folds⟩ := by
  match pending, h with
  | [], _ => rfl
  | .opened :: _, _ => rfl
  | .apply op :: _, h => rw [unwindFrom, if_neg (Nat.not_le.mpr h)]

theorem unwind_of_stops {rank : Nat} {s : Stacks} (h : Stops rank s.pending) :
    s.unwind rank = .ok s := unwindFrom_of_stops h

/-- The operator on top, with its two operands there, is applied first. -/
theorem unwindFrom_apply {rank : Nat} {op : Operator} (h : rank ≤ op.precedence) (lhs rhs : Int64)
    (values : List Int64) (folds : List Fold) (below : List Pending) :
    unwindFrom rank (rhs :: lhs :: values) folds (.apply op :: below) =
      match op.apply lhs rhs with
      | .ok result => unwindFrom rank (result :: values) (⟨op, lhs, rhs, result⟩ :: folds) below
      | .error fault => .error ⟨fault, folds⟩ := by
  rw [unwindFrom, if_pos h]
  cases ha : op.apply lhs rhs with
  | ok result => simp only [fold, ha]
  | error fault => simp only [fold, ha]

theorem unwindFrom_apply_short {rank : Nat} {op : Operator} (h : rank ≤ op.precedence)
    {values : List Int64} (hv : values.length < 2) (folds : List Fold) (below : List Pending) :
    unwindFrom rank values folds (.apply op :: below) = .error ⟨.malformed, folds⟩ := by
  rw [unwindFrom, if_pos h]
  match values, hv with
  | [], _ => rfl
  | [_], _ => rfl

/-- All operators rank at least 1, so unwinding at 0 is unwinding at 1. -/
theorem unwindFrom_zero (values : List Int64) (folds : List Fold) (pending : List Pending) :
    unwindFrom 0 values folds pending = unwindFrom 1 values folds pending := by
  induction pending generalizing values folds with
  | nil => rfl
  | cons entry below ih =>
    cases entry with
    | opened => rfl
    | apply op =>
      rw [unwindFrom, unwindFrom, if_pos (Nat.zero_le _), if_pos (Operator.one_le_precedence op)]
      split
      · exact ih _ _
      · rfl

theorem digit_first (s : Stacks) (d : Nat) :
    s.digit false d = { s with values := Int64.ofNat d :: s.values } := rfl

theorem digit_pending (continues : Bool) (d : Nat) (s : Stacks) :
    (s.digit continues d).pending = s.pending := by
  unfold digit
  split <;> rfl

theorem digit_next {s : Stacks} {v : Int64} {values : List Int64} (h : s.values = v :: values)
    (d : Nat) : s.digit true d = { s with values := (v * 10 + Int64.ofNat d) :: values } := by
  simp only [digit, h]

/-- Puts an operator on top of those that wait. -/
def await (op : Operator) (s : Stacks) : Stacks := { s with pending := .apply op :: s.pending }

theorem operator_eq_bind (op : Operator) (s : Stacks) :
    s.operator op = (s.unwind op.precedence).bind fun s' => .ok (s'.await op) := by
  unfold operator
  cases s.unwind op.precedence with
  | ok s' => rfl
  | error halt => rfl

/-- The barrier on top goes; without one the parenthesis that closes has no partner. -/
def dropBarrier : Stacks → Except Halt Stacks
  | ⟨values, .opened :: below, folds⟩ => .ok ⟨values, below, folds⟩
  | ⟨_, _, folds⟩ => .error ⟨.unmatchedClose, folds⟩

theorem closing_eq_bind (s : Stacks) : s.closing = (s.unwind 0).bind dropBarrier := by
  unfold closing
  split <;> simp_all [Except.bind, dropBarrier]

theorem pending_of_dropBarrier {s s' : Stacks} (h : s.dropBarrier = .ok s') :
    s.pending = .opened :: s'.pending := by
  unfold dropBarrier at h
  split at h
  · cases h
    rfl
  · cases h

/-- The one value that is left; an operator or a parenthesis must not be. -/
def onlyValue : Stacks → Except Halt (Int64 × List Fold)
  | ⟨_, _ :: _, folds⟩ => .error ⟨.unmatchedOpen, folds⟩
  | ⟨[v], [], folds⟩ => .ok (v, folds)
  | ⟨_, [], folds⟩ => .error ⟨.malformed, folds⟩

theorem finish_eq_bind (s : Stacks) : s.finish = (s.unwind 0).bind onlyValue := by
  unfold finish
  split <;> simp_all [Except.bind, onlyValue]

theorem eq_of_onlyValue {s : Stacks} {v : Int64} {folds : List Fold}
    (h : s.onlyValue = .ok (v, folds)) : s = ⟨[v], [], folds⟩ := by
  unfold onlyValue at h
  split at h
  · cases h
  · cases h
    rfl
  · cases h

theorem pending_of_onlyValue {s : Stacks} {v : Int64} {folds : List Fold}
    (h : s.onlyValue = .ok (v, folds)) : s.pending = [] := by
  rw [eq_of_onlyValue h]

end Stacks

/-! ### Steps of a scan -/

namespace Scan

variable {s : Scan} {c : Char}

theorem step_skipped (h : isSkipped c) : s.step c = .ok ⟨s.work, s.offset + c.utf8Size, false⟩ := by
  rw [step, Symbol.ofChar_eq_skipped_iff.mpr h]

theorem step_digit (h : c.isDigit) :
    s.step c =
      .ok ⟨s.work.digit s.inLiteral (Text.digitValue c), s.offset + c.utf8Size, true⟩ := by
  rw [step, Symbol.ofChar_eq_digit_iff.mpr ⟨h, rfl⟩]

theorem step_opening : s.step '(' = .ok ⟨s.work.opening, s.offset + '('.utf8Size, false⟩ := rfl

theorem step_closing :
    s.step ')' = s.work.closing.map fun work => ⟨work, s.offset + ')'.utf8Size, false⟩ := rfl

theorem step_symbol (op : Operator) :
    s.step op.symbol =
      (s.work.operator op).map fun work => ⟨work, s.offset + op.symbol.utf8Size, false⟩ := by
  rw [step, Symbol.ofChar_eq_operator_iff.mpr rfl]

/-- The digits that follow the first ones of a literal extend its number. -/
theorem run_digits {digits : List Char} (hd : ∀ c ∈ digits, c.isDigit) {n : Nat}
    {values : List Int64} (hv : s.work.values = Int64.ofNat n :: values)
    (hl : s.inLiteral = true) :
    ∃ offset, s.run digits = .ok ⟨{ s.work with
      values := Int64.ofNat (Nat.ofDigitChars 10 digits n) :: values }, offset, true⟩ := by
  induction digits generalizing s n with
  | nil =>
    obtain ⟨⟨values', pending, folds⟩, offset, inLiteral⟩ := s
    cases hv
    cases hl
    exact ⟨offset, rfl⟩
  | cons c rest ih =>
    have hc : c.isDigit := hd c List.mem_cons_self
    have hw : s.work.digit s.inLiteral (Text.digitValue c) =
        { s.work with values := Int64.ofNat (10 * n + Text.digitValue c) :: values } := by
      rw [hl, Stacks.digit_next hv, Int64.ofNat_add, Int64.ofNat_mul, Int64.mul_comm]
      rfl
    rw [run_cons, step_digit hc, hw, Nat.ofDigitChars_cons]
    exact ih (fun d hd' => hd d (List.mem_cons_of_mem c hd')) rfl rfl

/-- A run of digits of its own is read as one value. -/
theorem run_literal {digits : List Char} (hne : digits ≠ []) (hd : ∀ c ∈ digits, c.isDigit)
    (hs : s.inLiteral = false) :
    ∃ offset, s.run digits = .ok ⟨{ s.work with
      values := Int64.ofNat (Nat.ofDigitChars 10 digits 0) :: s.work.values }, offset, true⟩ := by
  obtain ⟨c, rest, rfl⟩ := List.exists_cons_of_ne_nil hne
  have hc : c.isDigit := hd c List.mem_cons_self
  have hr : ∀ d ∈ rest, d.isDigit := fun d h => hd d (List.mem_cons_of_mem c h)
  rw [run_cons, step_digit hc, hs, Stacks.digit_first, ok_bind, Nat.ofDigitChars_cons, Nat.mul_zero,
    Nat.zero_add]
  exact run_digits hr rfl rfl

end Scan

/-! ### Whole texts -/

theorem run_finish_of_evaluate {text : String} {v : Int64} (h : evaluate text = .ok v) :
    ∃ folds, ((Scan.run {} text.toList).bind fun s => s.work.finish) = .ok (v, folds) := by
  unfold evaluate evaluation at h
  split at h
  · next v' folds hrun =>
    cases h
    exact ⟨folds, hrun⟩
  · cases h

end Expression

end CalcBench
