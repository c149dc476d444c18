import CalcBench.Proofs.Expression.PostfixForm

/-!
# CalcBench.Proofs.Expression.ProgramForm — what literals do not decide

The program for a text is written without a look at values, so texts that differ in the digits of
their literals only have programs that differ in the values pushed only.  Whether operands suffice,
and how many values are left, shows in such a program without its values.  Only a zero divisor does
not.

* `form_compile`: **texts that differ in digits** have programs of the same form.
* `evaluate_compile_then_run`: **one pass is two stages**, and literals decide values and zero divisors
  only.
-/

namespace CalcBench

namespace Expression

/-- The two texts differ in the digits of their literals only: where one has digits, the other has
digits too, perhaps others or another number of them. -/
inductive SameButDigits : List Char → List Char → Prop where
  | nil : SameButDigits [] []
  | char {c : Char} {s t : List Char} : SameButDigits s t → SameButDigits (c :: s) (c :: t)
  | digits {front front' s t : List Char} : front ≠ [] → (∀ c ∈ front, c.isDigit) →
      front' ≠ [] → (∀ c ∈ front', c.isDigit) → SameButDigits s t →
      SameButDigits (front ++ s) (front' ++ t)

namespace Postfix

/-! ### Programs without their values -/

/-- The operator that an instruction applies, if it is not a push. -/
def Instr.operator? : Instr → Option Operator
  | .push _ => none
  | .apply op => some op

/-- A program without the values pushed and without the place of its fault. -/
structure Form where
  code : List (Option Operator)
  ending : Option String

def Program.form (p : Program) : Form := ⟨p.code.map Instr.operator?, p.ending.map Fault.kind⟩

theorem Program.form_after (front : List Instr) (p : Program) :
    (p.after front).form = ⟨front.map Instr.operator? ++ p.form.code, p.form.ending⟩ := by
  rw [form, after, List.map_append]
  rfl

theorem map_operator?_pushed {literal literal' : Option Int64} (h : literal.isSome = literal'.isSome) :
    (pushed literal).map Instr.operator? = (pushed literal').map Instr.operator? := by
  cases literal with
  | none =>
    cases literal' with
    | none => rfl
    | some v' => cases h
  | some v =>
    cases literal' with
    | none => cases h
    | some v' => rfl

/-! ### Texts that differ in digits -/

theorem compile_digits {digits : List Char} (hne : digits ≠ []) (hd : ∀ c ∈ digits, c.isDigit)
    (pending : List Pending) (literal : Option Int64) (offset : Nat) (rest : List Char) :
    ∃ v offset', compile pending literal offset (digits ++ rest) =
      compile pending (some v) offset' rest := by
  induction digits generalizing literal offset with
  | nil => exact absurd rfl hne
  | cons c digits ih =>
    have hc : Symbol.ofChar c = .digit (Text.digitValue c) :=
      Symbol.ofChar_eq_digit_iff.mpr ⟨hd c List.mem_cons_self, rfl⟩
    rw [List.cons_append, compile, hc]
    cases digits with
    | nil => exact ⟨_, _, rfl⟩
    | cons c' digits =>
      exact ih (List.cons_ne_nil c' digits) (fun d h => hd d (List.mem_cons_of_mem c h)) _ _

/-- **Texts that differ in digits** have programs of one form, if both or neither of them go on with a
literal. -/
theorem form_compile {s t : List Char} (h : SameButDigits s t) (pending : List Pending)
    {literal literal' : Option Int64} (hl : literal.isSome = literal'.isSome) (offset offset' : Nat) :
    (compile pending literal offset s).form = (compile pending literal' offset' t).form := by
  induction h generalizing pending literal literal' offset offset' with
  | nil =>
    simp only [compile, Program.form, List.map_append, map_operator?_pushed hl]
  | @char c s t _ ih =>
    rw [compile, compile]
    cases Symbol.ofChar c with
    | skipped =>
      simp only [Program.form_after, map_operator?_pushed hl]
      rw [ih pending rfl]
    | digit d =>
      have hsome : ∀ v v' : Int64, (some v).isSome = (some v').isSome := fun _ _ => rfl
      exact ih pending (hsome _ _) _ _
    | opening =>
      simp only [Program.form_after, map_operator?_pushed hl]
      rw [ih (.opened :: pending) rfl]
    | closing =>
      -- the same operators are released, down to a barrier or to none
      rcases release 0 pending with ⟨code, _ | ⟨_ | op, below⟩⟩
      · simp only [Program.form, List.map_append, map_operator?_pushed hl]
      · simp only [Program.form_after, List.map_append, map_operator?_pushed hl]
        rw [ih below rfl]
      · simp only [Program.form, List.map_append, map_operator?_pushed hl]
    | operator op =>
      simp only [Program.form_after, List.map_append, map_operator?_pushed hl]
      rw [ih (.apply op :: (release op.precedence pending).2) rfl]
    | foreign =>
      simp only [Program.form, map_operator?_pushed hl]
      rfl
  | @digits front front' s t hne hd hne' hd' _ ih =>
    obtain ⟨v, after, hfront⟩ := compile_digits hne hd pending literal offset s
    obtain ⟨v', after', hfront'⟩ := compile_digits hne' hd' pending literal' offset' t
    have hsome : (some v).isSome = (some v').isSome := rfl
    rw [hfront, hfront']
    exact ih pending hsome after after'

/-! ### What a form decides -/

/-- The height of the stack after code that starts on `n` values; an operator takes two of them. -/
def height : List (Option Operator) → Nat → Except Fault Nat
  | [], n => .ok n
  | none :: code, n => height code (n + 1)
  | some _ :: code, n + 2 => height code (n + 1)
  | some _ :: _, _ => .error .malformed

/-- The stack that code leaves has the height that its form gives, and code lacks operands where its
form does, unless it divides by zero. -/
theorem exec_eq_or_height (code : List Instr) (values : List Int64) :
    exec code values = .error .divisionByZero ∨
      (exec code values).map List.length = height (code.map Instr.operator?) values.length := by
  induction code generalizing values with
  | nil => exact .inr rfl
  | cons instr code ih =>
    cases instr with
    | push v => exact ih (v :: values)
    | apply op =>
      match values with
      | [] => exact .inr rfl
      | [_] => exact .inr rfl
      | rhs :: lhs :: values =>
        rw [exec]
        cases ha : op.apply lhs rhs with
        | ok result => exact ih (result :: values)
        | error fault => exact .inl (congrArg Except.error ((Operator.apply_eq_error_iff.mp ha).2.2))

/-- What shows of a result without its value: that there is one, or the kind of fault. -/
def outcomeKind (result : Except Fault Int64) : Except String Unit :=
  (result.map fun _ => ()).mapError Fault.kind

/-- The outcome at the end of a program that leaves `n` values. -/
def outcomeAt : Option String → Nat → Except String Unit
  | some kind, _ => .error kind
  | none, n => if n = 1 then .ok () else .error Fault.malformed.kind

/-- The outcome of the programs of a form that do not divide by zero. -/
def Form.outcome (f : Form) : Except String Unit :=
  match height f.code 0 with
  | .error fault => .error fault.kind
  | .ok n => outcomeAt f.ending n

theorem outcomeKind_settle (ending : Option Fault) (values : List Int64) :
    outcomeKind (settle ending values) = outcomeAt (ending.map Fault.kind) values.length := by
  cases ending with
  | some fault => rfl
  | none =>
    match values with
    | [] => rfl
    | [_] => rfl
    | _ :: _ :: _ => rfl

/-- A program that does not divide by zero has the outcome of its form. -/
theorem Program.result_eq_or_outcome (p : Program) :
    p.result = .error .divisionByZero ∨ outcomeKind p.result = p.form.outcome := by
  rw [result_eq_resultOn, resultOn, Form.outcome]
  rcases exec_eq_or_height p.code [] with hzero | hheight
  · exact .inl (by rw [hzero]; rfl)
  · have hcode : height p.form.code 0 = (exec p.code []).map List.length := hheight.symm
    refine .inr ?_
    rw [hcode]
    cases exec p.code [] with
    | error fault => rfl
    | ok values => exact outcomeKind_settle p.ending values

end Postfix

open Postfix

/-- **One pass is two stages.**  The result of an evaluation is that of running the program for the
text.  Texts that differ in the digits of their literals only both have a value, or both have a fault of
the same kind, unless one of them divides by zero. -/
theorem evaluate_compile_then_run :
    (∀ text : String, evaluate text = (ofText text.toList).result) ∧
    ∀ s t : String, SameButDigits s.toList t.toList →
      evaluate s ≠ .error .divisionByZero → evaluate t ≠ .error .divisionByZero →
        (∃ v w, evaluate s = .ok v ∧ evaluate t = .ok w) ∨
        ∃ e f, evaluate s = .error e ∧ evaluate t = .error f ∧ e.kind = f.kind := by
  refine ⟨evaluate_eq_result, fun s t h hs ht => ?_⟩
  have hkind : outcomeKind (evaluate s) = outcomeKind (evaluate t) := by
    rw [evaluate_eq_result] at hs ht ⊢
    rw [evaluate_eq_result,
      (ofText s.toList).result_eq_or_outcome.resolve_left hs,
      (ofText t.toList).result_eq_or_outcome.resolve_left ht]
    exact congrArg Form.outcome (form_compile h [] rfl 0 0)
  cases hvs : evaluate s with
  | ok v =>
    cases hvt : evaluate t with
    | ok w => exact .inl ⟨v, w, rfl, rfl⟩
    | error f =>
      rw [hvs, hvt] at hkind
      cases hkind
  | error e =>
    cases hvt : evaluate t with
    | ok w =>
      rw [hvs, hvt] at hkind
      cases hkind
    | error f =>
      rw [hvs, hvt] at hkind
      exact .inr ⟨e, f, rfl, rfl, Except.error.inj hkind⟩

theorem evaluate_alike_short_quotient :
    SameButDigits "12/(5-4".toList "7/(70-0".toList ∧
    ((∃ v w, evaluate "12/(5-4" = .ok v ∧ evaluate "7/(70-0" = .ok w) ∨
      ∃ e f, evaluate "12/(5-4" = .error e ∧ evaluate "7/(70-0" = .error f ∧ e.kind = f.kind) := by
  have hdigits : ∀ digits : List Char, digits.all Char.isDigit → ∀ c ∈ digits, c.isDigit :=
    fun digits => List.all_eq_true.mp
  have hlast : SameButDigits ['4'] ['0'] :=
    .digits (List.cons_ne_nil _ []) (hdigits ['4'] rfl) (List.cons_ne_nil _ []) (hdigits ['0'] rfl) .nil
  have hmiddle : SameButDigits "5-4".toList "70-0".toList :=
    .digits (List.cons_ne_nil _ []) (hdigits ['5'] rfl) (List.cons_ne_nil _ ['0'])
      (hdigits ['7', '0'] rfl) (.char hlast)
  have halike : SameButDigits "12/(5-4".toList "7/(70-0".toList :=
    .digits (List.cons_ne_nil _ ['2']) (hdigits ['1', '2'] rfl) (List.cons_ne_nil _ [])
      (hdigits ['7'] rfl) (.char (.char hmiddle))
  exact ⟨halike, evaluate_compile_then_run.2 "12/(5-4" "7/(70-0" halike (by decide) (by decide)⟩

end Expression

end CalcBench
