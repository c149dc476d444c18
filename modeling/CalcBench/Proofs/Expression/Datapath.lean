import CalcBench.Proofs.Expression.InfixValue
import CalcBench.Proofs.Register

/-!
# CalcBench.Proofs.Expression.Datapath — one truncation at the end or a wrap at every step

The golden response cuts a 64-bit result down once.  A datapath of `w` bits keeps every literal and
every result of an operator in a register of that width.  Sums, differences and products do not see
the difference; a quotient does, unless its operands fit the register before they are wrapped.

* `golden_eq_ofDatapath`: **so the golden response is the one of the datapath**.
-/

namespace CalcBench

/-- The width of a word. -/
def Width.word : Width := ⟨64, by decide, by decide⟩

/-- The response of a datapath, which faults where it has no value. -/
def Response.ofDatapath : Option Int → Response
  | some n => .ofValue (Int64.ofInt n)
  | none => .faulted

/-- An exact value as the result of an evaluation; there is none only by a zero divisor. -/
def Fault.ofExact : Option Int → Except Fault Int64
  | some n => .ok (Int64.ofInt n)
  | none => .error .divisionByZero

/-! ### Words and registers -/

namespace Width

theorem toInt_ofInt (x : Int) : (Int64.ofInt x).toInt = word.wrap x := Int64.toInt_ofInt

theorem toInt_ofInt_wrap (w : Width) (x : Int) : (Int64.ofInt (w.wrap x)).toInt = w.wrap x := by
  rw [toInt_ofInt]
  exact (w.holds_wrap x).mono w.bits_le_max

theorem truncate_ofInt (w : Width) (x : Int) :
    w.truncate (Int64.ofInt x) = Int64.ofInt (w.wrap x) := by
  apply Int64.toInt_inj.mp
  rw [toInt_truncate, Int64.toInt_ofInt, toInt_ofInt_wrap]
  exact w.wrap_word x

end Width

/-! ### One operator -/

namespace Operator

/-- On words the operators reduce their exact values; a division needs operands that fit. -/
theorem apply_ofInt {op : Operator} {x y : Int}
    (h : op = .div → Width.word.Holds x ∧ Width.word.Holds y) :
    op.apply (Int64.ofInt x) (Int64.ofInt y) = Fault.ofExact (op.exact x y) := by
  cases op with
  | add => exact congrArg Except.ok (Int64.ofInt_add x y).symm
  | sub => exact congrArg Except.ok (Int64.ofInt_sub x y).symm
  | mul => exact congrArg Except.ok (Int64.ofInt_mul x y).symm
  | div =>
    obtain ⟨hx, hy⟩ := h rfl
    have hx' : (Int64.ofInt x).toInt = x := (Width.toInt_ofInt x).trans hx
    have hy' : (Int64.ofInt y).toInt = y := (Width.toInt_ofInt y).trans hy
    have hzero : Int64.ofInt y = 0 ↔ y = 0 := by
      rw [← Int64.toInt_inj, hy', Int64.toInt_zero]
    rw [apply, exact]
    by_cases h0 : y = 0
    · rw [if_pos (hzero.mpr h0), if_pos h0, Fault.ofExact]
    · rw [if_neg (mt hzero.mp h0), if_neg h0]
      refine congrArg Except.ok (Int64.toInt_inj.mp ?_)
      rw [Int64.toInt_div, hx', hy', Int64.toInt_ofInt]

/-- In a register the operators wrap their exact values; a division needs operands that fit. -/
theorem exact_wrap {w : Width} {op : Operator} {x y : Int}
    (h : op = .div → w.Holds x ∧ w.Holds y) :
    (op.exact (w.wrap x) (w.wrap y)).map w.wrap = (op.exact x y).map w.wrap := by
  cases op with
  | add => exact congrArg some (Int.add_bmod x y w.size).symm
  | sub => exact congrArg some (Int.sub_bmod x y w.size).symm
  | mul => exact congrArg some (Int.mul_bmod x y w.size).symm
  | div =>
    obtain ⟨hx, hy⟩ := h rfl
    rw [hx, hy]

end Operator

namespace Expression

namespace Tree

/-- A division of the tree has a divisor with the exact value zero. -/
def DividesByZero : Tree → Prop
  | literal _ => False
  | node op lhs rhs => lhs.DividesByZero ∨ rhs.DividesByZero ∨ op = .div ∧ rhs.exact = some 0

def DivisionFree : Tree → Prop
  | literal _ => True
  | node op lhs rhs => lhs.DivisionFree ∧ rhs.DivisionFree ∧ op ≠ .div

theorem exact_eq_none_iff {t : Tree} : t.exact = none ↔ t.DividesByZero := by
  induction t with
  | literal n => simp [exact, DividesByZero]
  | node op lhs rhs ihl ihr =>
    rw [exact, DividesByZero, ← ihl, ← ihr]
    cases lhs.exact with
    | none => simp
    | some a =>
      cases rhs.exact with
      | none => simp
      | some b => cases op <;> simp [Operator.exact]

theorem DivisionFree.dividesWithin {t : Tree} (h : t.DivisionFree) (w : Width) :
    t.DividesWithin w := by
  induction t with
  | literal n => trivial
  | node op lhs rhs ihl ihr =>
    exact ⟨ihl h.1, ihr h.2.1, fun hdiv => absurd hdiv h.2.2⟩

theorem DivisionFree.not_dividesByZero {t : Tree} (h : t.DivisionFree) : ¬ t.DividesByZero := by
  induction t with
  | literal n => exact id
  | node op lhs rhs ihl ihr =>
    rintro (hz | hz | hz)
    · exact ihl h.1 hz
    · exact ihr h.2.1 hz
    · exact h.2.2 hz.1

/-- With the operands of divisions in range, the 64-bit value is the exact one as a word, and the
fault is that of a divisor with the exact value zero. -/
theorem value_eq_ofExact {w : Width} {t : Tree} (h : t.DividesWithin w) :
    t.value = Fault.ofExact t.exact := by
  induction t with
  | literal n => rw [value, exact, Fault.ofExact, Int64.ofInt_eq_ofNat]
  | node op lhs rhs ihl ihr =>
    obtain ⟨hl, hr, hop⟩ := h
    rw [value, exact, ihl hl, ihr hr]
    cases hx : lhs.exact with
    | none => rfl
    | some x =>
      cases hy : rhs.exact with
      | none => rfl
      | some y =>
        refine Operator.apply_ofInt fun hdiv => ?_
        obtain ⟨hx', hy'⟩ := hop hdiv
        exact ⟨(hx' x hx).mono w.bits_le_max, (hy' y hy).mono w.bits_le_max⟩

/-- With the operands of divisions in range, a datapath shows the exact value, wrapped once. -/
theorem onDatapath_eq_exact {w : Width} {t : Tree} (h : t.DividesWithin w) :
    t.onDatapath w = t.exact.map w.wrap := by
  induction t with
  | literal n => rfl
  | node op lhs rhs ihl ihr =>
    obtain ⟨hl, hr, hop⟩ := h
    rw [onDatapath, exact, ihl hl, ihr hr]
    cases hx : lhs.exact with
    | none => rfl
    | some x =>
      cases hy : rhs.exact with
      | none => rfl
      | some y =>
        refine Operator.exact_wrap fun hdiv => ?_
        obtain ⟨hx', hy'⟩ := hop hdiv
        exact ⟨hx' x hx, hy' y hy⟩

end Tree

/-! ### The golden response -/

theorem golden_ofExact (w : Width) (x : Option Int) :
    Response.golden (Fault.ofExact x) w = Response.ofDatapath (x.map w.wrap) := by
  cases x with
  | none => rfl
  | some n => exact congrArg Response.ofValue (w.truncate_ofInt n)

/-- **The golden response is that of the datapath** for every well-formed expression whose
divisions have operands in range: a fault where a divisor has the exact value zero, else the number
in the range of the register that is congruent to the exact value.  Without divisions there is no
condition, and at 64 bits the result itself is the exact value as a word. -/
theorem golden_eq_ofDatapath {text : String} {t : Tree} (ht : Writes 1 t text.toList) (w : Width) :
    (t.DividesWithin w →
      Response.golden (evaluate text) w = Response.ofDatapath (t.onDatapath w) ∧
      (t.DividesByZero → Response.golden (evaluate text) w = Response.faulted) ∧
      (¬ t.DividesByZero → ∃ x v, t.exact = some x ∧
        Response.golden (evaluate text) w = Response.ofValue v ∧
        ∀ n : Int, n = v.toInt ↔
          -2 ^ (w.bits - 1) ≤ n ∧ n < 2 ^ (w.bits - 1) ∧ n ≡ x [ZMOD 2 ^ w.bits])) ∧
    (t.DivisionFree → t.DividesWithin w ∧ ¬ t.DividesByZero) ∧
    (t.DividesWithin Width.word → evaluate text = Fault.ofExact t.exact) := by
  have hvalue : evaluate text = t.value := by rw [evaluate, evaluation_of_writes ht]
  refine ⟨fun hd => ?_, fun hf => ⟨hf.dividesWithin w, hf.not_dividesByZero⟩,
    fun hd => hvalue.trans (Tree.value_eq_ofExact hd)⟩
  have hgolden : Response.golden (evaluate text) w = Response.ofDatapath (t.exact.map w.wrap) := by
    rw [hvalue, Tree.value_eq_ofExact hd, golden_ofExact]
  refine ⟨by rw [hgolden, Tree.onDatapath_eq_exact hd], fun hz => ?_, fun hz => ?_⟩
  · rw [hgolden, Tree.exact_eq_none_iff.mpr hz]
    rfl
  · obtain ⟨x, hx⟩ := Option.ne_none_iff_exists'.mp (mt Tree.exact_eq_none_iff.mp hz)
    refine ⟨x, Int64.ofInt (w.wrap x), hx, by rw [hgolden, hx]; rfl, fun n => ?_⟩
    rw [w.toInt_ofInt_wrap, w.eq_wrap_iff]

/-- The one quotient of 8-bit numbers that does not fit 8 bits: 128, which reads back as -128. -/
theorem golden_least_by_minus_one :
    ∃ t : Tree, Writes 1 t "(0-128) / (0-1)=".toList ∧ t.DividesWithin ⟨8, by decide, by decide⟩ ∧
      ¬ t.DividesByZero ∧ t.exact = some 128 ∧
      Response.golden (evaluate "(0-128) / (0-1)=") ⟨8, by decide, by decide⟩ = .ofValue (-128) := by
  have h0 : Writes 3 (.literal 0) ['0'] := .digits (by decide) rfl rfl
  have h1 : Writes 3 (.literal 1) ['1'] := .digits (by decide) rfl rfl
  have h128 : Writes 3 (.literal 128) ['1', '2', '8'] := .digits (by decide) rfl rfl
  have hlhs : Writes 3 (.node .sub (.literal 0) (.literal 128)) "(0-128) ".toList :=
    .skipAfter (c := ' ') rfl (.group (.sub (.tighter (.tighter h0)) (.tighter h128)))
  have hrhs : Writes 3 (.node .sub (.literal 0) (.literal 1)) " (0-1)=".toList :=
    .skipBefore (c := ' ') rfl (.skipAfter (c := '=') rfl
      (.group (.sub (.tighter (.tighter h0)) (.tighter h1))))
  have ht : Writes 1 _ "(0-128) / (0-1)=".toList :=
    .tighter (.div (.tighter hlhs) hrhs)
  have hd : Tree.DividesWithin ⟨8, by decide, by decide⟩
      (.node .div (.node .sub (.literal 0) (.literal 128)) (.node .sub (.literal 0) (.literal 1))) := by
    simp [Tree.DividesWithin, Tree.exact, Operator.exact, Width.Holds, Width.wrap, Width.size]
  refine ⟨_, ht, hd, by simp [Tree.DividesByZero, Tree.exact, Operator.exact], rfl, ?_⟩
  rw [((golden_eq_ofDatapath ht ⟨8, by decide, by decide⟩).1 hd).1]
  rfl

end Expression

end CalcBench
