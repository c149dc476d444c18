import CalcBench.Proofs.Device.Trace
import CalcBench.Proofs.Register
import CalcBench.Response

/-!
# CalcBench.Proofs.Verdict — responses held against each other

A device with golden responses may still differ from its testbench in two ways: its register has
another width, or the expression that it answered is another one.

* `Width.truncate_is_reduction`: **with one width** values count modulo the size of the register.
-/

namespace CalcBench

/-! ### Any two responses -/

/-- The verdict is a failure if the responses show differently. -/
theorem Verdict.ofResponses_eq_fail_iff {response golden : Response} :
    ofResponses response golden = .fail ↔ response.shown ≠ golden.shown := by
  obtain ⟨fault, value⟩ := response
  obtain ⟨fault', value'⟩ := golden
  cases fault with
  | true =>
    cases fault' with
    | true => exact iff_of_false nofun fun hne => hne rfl
    | false => exact iff_of_true rfl fun h => nomatch congrArg Response.fault h
  | false =>
    cases fault' with
    | true => exact iff_of_true rfl fun h => nomatch congrArg Response.fault h
    | false =>
      show (if value = value' then Verdict.pass else .fail) = .fail ↔
        (⟨false, value⟩ : Response) ≠ ⟨false, value'⟩
      split
      · next heq => exact iff_of_false nofun fun hne => hne (by rw [heq])
      · next hne => exact iff_of_true rfl fun h => hne (congrArg Response.value h)

theorem Verdict.ofResponses_eq_pass_iff {response golden : Response} :
    ofResponses response golden = .pass ↔
      response.fault = false ∧ golden.fault = false ∧ response.value = golden.value := by
  obtain ⟨fault, value⟩ := response
  obtain ⟨fault', value'⟩ := golden
  cases fault <;> cases fault' <;> simp [ofResponses]

theorem Verdict.ofResponses_eq_invalid_iff {response golden : Response} :
    ofResponses response golden = .invalid ↔ response.fault = true ∧ golden.fault = true := by
  obtain ⟨fault, value⟩ := response
  obtain ⟨fault', value'⟩ := golden
  cases fault <;> cases fault' <;> simp [ofResponses]
  split <;> nofun

/-! ### One expression, two widths -/

/-- The verdict on a golden response of one width by a testbench of another. -/
def Verdict.ofWidths (device bench : Width) : Except Fault Int64 → Verdict
  | .ok v => if device.truncate v = bench.truncate v then .pass else .fail
  | .error _ => .invalid

theorem Verdict.ofResponses_golden (device bench : Width) (result : Except Fault Int64) :
    ofResponses (.golden result device) (.golden result bench) = ofWidths device bench result := by
  cases result with
  | ok v => rfl
  | error fault => rfl

theorem Verdict.ofWidths_self_ne_fail (w : Width) (result : Except Fault Int64) :
    ofWidths w w result ≠ .fail := by
  cases result with
  | ok v => simp [ofWidths]
  | error fault => nofun

namespace Verdict

theorem ofWidths_eq_invalid_iff {device bench : Width} {result : Except Fault Int64} :
    ofWidths device bench result = .invalid ↔ ∃ fault, result = .error fault := by
  cases result with
  | ok v =>
    refine iff_of_false (fun h => ?_) nofun
    rw [ofWidths] at h
    split at h <;> cases h
  | error fault => exact iff_of_true rfl ⟨fault, rfl⟩

/-- A value passes if what the wider register shows is in the range of the narrower one. -/
theorem ofWidths_ok_eq_pass_iff {device bench : Width} {v : Int64} :
    ofWidths device bench (.ok v) = .pass ↔
      -2 ^ (min device.bits bench.bits - 1) ≤ ((device.wider bench).truncate v).toInt ∧
        ((device.wider bench).truncate v).toInt < 2 ^ (min device.bits bench.bits - 1) := by
  rw [← Width.truncate_eq_truncate_iff, ofWidths]
  split
  · exact iff_of_true rfl ‹_›
  · exact iff_of_false nofun ‹_›

theorem ofWidths_ok_eq_fail_iff {device bench : Width} {v : Int64} :
    ofWidths device bench (.ok v) = .fail ↔ ofWidths device bench (.ok v) ≠ .pass := by
  rw [ofWidths]
  split
  · exact iff_of_false nofun (fun h => h rfl)
  · exact iff_of_true rfl nofun

/-! ### One width, two expressions -/

theorem ofResponses_golden_eq_fail_iff {answered expected : Except Fault Int64} {w : Width} :
    ofResponses (.golden answered w) (.golden expected w) = .fail ↔
      Response.golden expected w ≠ Response.golden answered w := by
  rw [ofResponses_eq_fail_iff, Response.shown_golden, Response.shown_golden]
  exact ne_comm

/-! ### One width, two results -/

section Results

variable {result expected : Except Fault Int64} {w : Width}

theorem ofResponses_golden_eq_pass_iff :
    ofResponses (.golden result w) (.golden expected w) = .pass ↔
      ∃ v v', result = .ok v ∧ expected = .ok v' ∧ v.toInt ≡ v'.toInt [ZMOD 2 ^ w.bits] := by
  simp only [ofResponses_eq_pass_iff, ← w.truncate_eq_iff_modEq]
  cases result <;> cases expected <;> simp [Response.golden, Response.ofValue, Response.faulted]

theorem ofResponses_golden_eq_invalid_iff :
    ofResponses (.golden result w) (.golden expected w) = .invalid ↔
      (∃ fault, result = .error fault) ∧ ∃ fault, expected = .error fault := by
  rw [ofResponses_eq_invalid_iff]
  cases result <;> cases expected <;> simp [Response.golden, Response.ofValue, Response.faulted]

end Results

end Verdict

/-- **A register is reduction modulo its size.**  A width is made of one number of bits, and its two
shifts go over a distance that a word allows.  What a register of this width shows of a word is the only
signed number of as many bits that is congruent to it; behind another register it shows what the narrower
of the two does.  So two results are told apart by their values modulo the size of the register alone. -/
theorem Width.truncate_is_reduction (w : Width) :
    (∀ bits, Width.ofBits? bits = some w ↔ bits = w.bits) ∧
    w.shift.toInt = 64 - w.bits ∧ 0 ≤ w.shift.toInt ∧ w.shift.toInt ≤ 63 ∧
    (∀ (v : Int64) (n : Int), n = (w.truncate v).toInt ↔
      -2 ^ (w.bits - 1) ≤ n ∧ n < 2 ^ (w.bits - 1) ∧ n ≡ v.toInt [ZMOD 2 ^ w.bits]) ∧
    (∀ (w' : Width) (v : Int64), (w.narrower w').bits = min w.bits w'.bits ∧
      w.truncate (w'.truncate v) = (w.narrower w').truncate v) ∧
    ∀ result expected : Except Fault Int64,
      let verdict := Verdict.ofResponses (.golden result w) (.golden expected w)
      let Congruent := ∃ v v', result = .ok v ∧ expected = .ok v' ∧
        v.toInt ≡ v'.toInt [ZMOD 2 ^ w.bits]
      let Faulty := (∃ fault, result = .error fault) ∧ ∃ fault, expected = .error fault
      (verdict = .pass ↔ Congruent) ∧ (verdict = .invalid ↔ Faulty) ∧
        (verdict = .fail ↔ ¬ Congruent ∧ ¬ Faulty) := by
  have hmin := w.one_le_bits
  have hmax := w.bits_le_max
  have hshift := w.toInt_shift
  refine ⟨fun bits => w.ofBits?_eq_some_iff, hshift, by omega, by omega,
    fun v n => w.eq_toInt_truncate_iff, fun w' v => ⟨rfl, w.truncate_truncate w' v⟩,
    fun result expected => ?_⟩
  intro verdict Congruent Faulty
  have hpass : verdict = .pass ↔ Congruent := Verdict.ofResponses_golden_eq_pass_iff
  have hinvalid : verdict = .invalid ↔ Faulty := Verdict.ofResponses_golden_eq_invalid_iff
  refine ⟨hpass, hinvalid, ?_⟩
  -- the third verdict is given where the other two are not
  rw [← hpass, ← hinvalid]
  cases verdict <;> simp

end CalcBench
