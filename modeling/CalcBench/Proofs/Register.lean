import CalcBench.Expression.Infix
import CalcBench.Response
import Mathlib.Data.Int.ModEq
import Mathlib.Tactic.Common

/-!
# CalcBench.Proofs.Register — what a register of `w` bits shows

A register shows the signed number of `w` bits that is congruent to what was put into it.  The two
shifts by which a 64-bit word is cut down do just that.

* `Width.toInt_truncate`: truncating a word is wrapping its number.
-/

namespace CalcBench.Width

variable (w : Width)

theorem size_eq : w.size = 2 ^ w.bits := by
  rw [size, Nat.shiftLeft_eq, Nat.one_mul]

theorem size_pos : 0 < w.size := by
  rw [size_eq]
  exact Nat.two_pow_pos w.bits

theorem two_mul_half : w.size = 2 * 2 ^ (w.bits - 1) := by
  rw [size_eq, Nat.mul_comm, ← Nat.pow_succ, Nat.succ_eq_add_one, Nat.sub_add_cancel w.one_le_bits]

theorem size_dvd_word : w.size ∣ 2 ^ 64 := by
  rw [size_eq]
  exact Nat.pow_dvd_pow 2 w.bits_le_max

theorem ofBits?_eq_some_iff {bits : Nat} : ofBits? bits = some w ↔ bits = w.bits := by
  rw [ofBits?]
  split
  · exact ⟨fun h => congrArg Width.bits (Option.some.inj h), by rintro rfl; rfl⟩
  · next hbits =>
    refine iff_of_false nofun ?_
    rintro rfl
    exact hbits ⟨w.one_le_bits, w.bits_le_max⟩

/-! ### Wrapping -/

/-- The number that a register shows is the one in its range that is congruent to what was put in. -/
theorem eq_wrap_iff {n x : Int} :
    n = w.wrap x ↔ -2 ^ (w.bits - 1) ≤ n ∧ n < 2 ^ (w.bits - 1) ∧ n ≡ x [ZMOD 2 ^ w.bits] := by
  have hsize : (w.size : Int) = 2 * 2 ^ (w.bits - 1) := by exact_mod_cast w.two_mul_half
  have hpow : (w.size : Int) = 2 ^ w.bits := by exact_mod_cast w.size_eq
  have hcong : n ≡ x [ZMOD 2 ^ w.bits] ↔ (w.size : Int) ∣ n - x := by
    rw [← hpow, Int.modEq_comm, Int.modEq_iff_dvd]
  rw [eq_comm, wrap, Int.bmod_eq_iff w.size_pos, hcong, hsize]
  constructor
  · rintro ⟨h₁, h₂, h₃⟩
    exact ⟨by omega, by omega, h₃⟩
  · rintro ⟨h₁, h₂, h₃⟩
    exact ⟨by omega, by omega, h₃⟩

theorem holds_iff {n : Int} : w.Holds n ↔ -2 ^ (w.bits - 1) ≤ n ∧ n < 2 ^ (w.bits - 1) := by
  rw [Holds, eq_comm, eq_wrap_iff]
  exact ⟨fun h => ⟨h.1, h.2.1⟩, fun h => ⟨h.1, h.2, Int.ModEq.refl n⟩⟩

theorem holds_wrap (x : Int) : w.Holds (w.wrap x) := Int.bmod_bmod

theorem Holds.mono {w w' : Width} {n : Int} (h : w.Holds n) (hle : w.bits ≤ w'.bits) :
    w'.Holds n := by
  rw [holds_iff] at h ⊢
  have hpow : (2 : Int) ^ (w.bits - 1) ≤ 2 ^ (w'.bits - 1) := by
    exact_mod_cast Nat.pow_le_pow_right Nat.two_pos (Nat.sub_le_sub_right hle 1)
  omega

theorem wrap_word (x : Int) : w.wrap (x.bmod (2 ^ 64)) = w.wrap x :=
  Int.bmod_bmod_of_dvd w.size_dvd_word

/-! ### Truncation -/

theorem shift_smod : (w.shift.toBitVec.smod 64).toNat = 64 - w.bits := by
  have hall : ∀ k < 64, ((Int64.ofNat k).toBitVec.smod 64).toNat = k := by decide
  exact hall _ (by have := w.one_le_bits; omega)

/-- **Truncation** shows the number of a word as a register of `w` bits does. -/
theorem toInt_truncate (v : Int64) : (w.truncate v).toInt = w.wrap v.toInt := by
  have hword : 2 ^ 64 = 2 ^ (64 - w.bits) * w.size := by
    rw [size_eq, ← Nat.pow_add, Nat.sub_add_cancel w.bits_le_max]
  have heven : 2 ∣ w.size := ⟨2 ^ (w.bits - 1), w.two_mul_half⟩
  have hnat : v.toInt = (v.toBitVec.toNat : Int).bmod (2 ^ 64) := by
    rw [← Int64.toInt_toBitVec, BitVec.toInt_eq_toNat_bmod]
  have hshift : (v <<< w.shift).toInt =
      2 ^ (64 - w.bits) * (v.toBitVec.toNat : Int).bmod w.size := by
    rw [← Int64.toInt_toBitVec, Int64.toBitVec_shiftLeft, BitVec.shiftLeft_eq', shift_smod,
      BitVec.toInt_shiftLeft, hword, Nat.shiftLeft_eq, Nat.mul_comm, Int.natCast_mul,
      Int.mod_bmod_mul_of_pos _ _ (Nat.two_pow_pos _) heven, Nat.cast_pow]
    rfl
  calc (w.truncate v).toInt
    _ = (v <<< w.shift).toInt / 2 ^ (64 - w.bits) := by
        rw [truncate, ← Int64.toInt_toBitVec, Int64.toBitVec_shiftRight,
          BitVec.toInt_sshiftRight', shift_smod, Int.shiftRight_eq_div_pow, Int64.toInt_toBitVec]
        norm_cast
    _ = (v.toBitVec.toNat : Int).bmod w.size := by
        have hne : (2 : Int) ^ (64 - w.bits) ≠ 0 := by
          exact_mod_cast (Nat.two_pow_pos (64 - w.bits)).ne'
        rw [hshift, Int.mul_ediv_cancel_left _ hne]
    _ = w.wrap v.toInt := by
        rw [hnat, wrap_word, wrap]

/-- The number that a register shows of a word is the one in its range that is congruent to it. -/
theorem eq_toInt_truncate_iff {n : Int} {v : Int64} :
    n = (w.truncate v).toInt ↔
      -2 ^ (w.bits - 1) ≤ n ∧ n < 2 ^ (w.bits - 1) ∧ n ≡ v.toInt [ZMOD 2 ^ w.bits] := by
  rw [toInt_truncate, eq_wrap_iff]

/-- A register shows the same of two words exactly if they are congruent. -/
theorem truncate_eq_iff_modEq {v v' : Int64} :
    w.truncate v = w.truncate v' ↔ v.toInt ≡ v'.toInt [ZMOD 2 ^ w.bits] := by
  obtain ⟨hlo, hhi, hcong⟩ := w.eq_toInt_truncate_iff.mp (rfl : (w.truncate v).toInt = _)
  rw [← Int64.toInt_inj, eq_toInt_truncate_iff]
  exact ⟨fun h => hcong.symm.trans h.2.2, fun h => ⟨hlo, hhi, hcong.trans h⟩⟩

theorem toInt_shift : w.shift.toInt = 64 - w.bits := by
  have hall : ∀ k < 64, (Int64.ofNat k).toInt = k := by decide
  have hmax := w.bits_le_max
  have hmin := w.one_le_bits
  rw [shift, hall (64 - w.bits) (by omega)]
  omega

/-! ### Two registers -/

def wider (a b : Width) : Width :=
  ⟨max a.bits b.bits, le_max_of_le_left a.one_le_bits, max_le a.bits_le_max b.bits_le_max⟩

theorem wider_of_le {a b : Width} (h : a.bits ≤ b.bits) : a.wider b = b := by
  cases b
  simp only [wider, max_eq_right h]

theorem wider_comm (a b : Width) : a.wider b = b.wider a := by
  simp only [wider, max_comm]

def narrower (a b : Width) : Width :=
  ⟨min a.bits b.bits, le_min a.one_le_bits b.one_le_bits, min_le_of_left_le a.bits_le_max⟩

theorem narrower_of_le {a b : Width} (h : a.bits ≤ b.bits) : a.narrower b = a := by
  cases a
  simp only [narrower, min_eq_left h]

theorem narrower_comm (a b : Width) : a.narrower b = b.narrower a := by
  simp only [narrower, min_comm]

/-- A narrow register does not see whether the number went through a wider one before. -/
theorem wrap_wrap_of_le {a b : Width} (h : a.bits ≤ b.bits) (x : Int) :
    a.wrap (b.wrap x) = a.wrap x := by
  have hdvd : a.size ∣ b.size := by
    rw [size_eq, size_eq]
    exact Nat.pow_dvd_pow 2 h
  exact Int.bmod_bmod_of_dvd hdvd

/-- **Two registers one behind the other** show what the narrower one shows alone. -/
theorem truncate_truncate (a b : Width) (v : Int64) :
    a.truncate (b.truncate v) = (a.narrower b).truncate v := by
  rw [← Int64.toInt_inj, toInt_truncate, toInt_truncate, toInt_truncate]
  rcases le_total a.bits b.bits with h | h
  · rw [narrower_of_le h, wrap_wrap_of_le h]
  · rw [narrower_comm, narrower_of_le h]
    exact (b.holds_wrap v.toInt).mono h

theorem truncate_eq_truncate_iff_of_le {a b : Width} (h : a.bits ≤ b.bits) (v : Int64) :
    a.truncate v = b.truncate v ↔ a.Holds (b.truncate v).toInt := by
  rw [← Int64.toInt_inj, toInt_truncate, toInt_truncate, Holds, wrap_wrap_of_le h]

/-- **Two registers** show the same of a word exactly if what the wider one shows is in the range of
the narrower one. -/
theorem truncate_eq_truncate_iff (a b : Width) (v : Int64) :
    a.truncate v = b.truncate v ↔
      -2 ^ (min a.bits b.bits - 1) ≤ ((a.wider b).truncate v).toInt ∧
        ((a.wider b).truncate v).toInt < 2 ^ (min a.bits b.bits - 1) := by
  -- the statement is symmetric in the two registers, so one of the cases is the other turned round
  rcases le_total a.bits b.bits with h | h
  · rw [min_eq_left h, wider_of_le h, truncate_eq_truncate_iff_of_le h, holds_iff]
  · rw [min_eq_right h, wider_comm, wider_of_le h, eq_comm, truncate_eq_truncate_iff_of_le h,
      holds_iff]

end CalcBench.Width
