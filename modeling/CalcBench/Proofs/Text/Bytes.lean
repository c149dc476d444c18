import CalcBench.Testbench
import Mathlib.Tactic.Common

/-!
# CalcBench.Proofs.Text.Bytes — texts as bytes and bytes as texts

A text is fed to a device in UTF-8; a device that knows no encoding reads each byte as the Latin-1
character of that number.  The two agree on ASCII and on nothing else: no byte of another character
is an ASCII byte.

* `latin1_utf8_eq_self_iff`: so is an ASCII text, **and no other**.
-/

namespace CalcBench

/-- The end mark `=` as a byte. -/
def endMark : UInt8 := 0x3D

/-- The text that bytes spell when each is the Latin-1 character of its number. -/
def latin1 (bytes : List UInt8) : List Char := bytes.map Char.ofUInt8

/-! ### One character -/

theorem toNat_ofUInt8 (b : UInt8) : (Char.ofUInt8 b).toNat = b.toNat := UInt8.toNat_toUInt32 b

theorem ofUInt8_eq_equals_iff {b : UInt8} : Char.ofUInt8 b = '=' ↔ b = endMark := by
  rw [← Char.toNat_inj, toNat_ofUInt8, ← UInt8.toNat_inj]
  rfl

theorem utf8EncodeChar_of_ascii {c : Char} (h : c.toNat < 128) :
    String.utf8EncodeChar c = [UInt8.ofNat c.toNat] := by
  have hle : c.val.toNat ≤ 127 := Nat.le_of_lt_succ h
  simp only [String.utf8EncodeChar, if_pos hle]
  rfl

theorem utf8Size_of_ascii {c : Char} (h : c.toNat < 128) : c.utf8Size = 1 := by
  rw [← String.length_utf8EncodeChar, utf8EncodeChar_of_ascii h, List.length_singleton]

theorem ofUInt8_ofNat_toNat {c : Char} (h : c.toNat < 128) :
    Char.ofUInt8 (UInt8.ofNat c.toNat) = c := by
  rw [← Char.toNat_inj, toNat_ofUInt8, UInt8.toNat_ofNat']
  omega

/-- All bytes of a character above ASCII are above ASCII. -/
theorem le_of_mem_utf8EncodeChar {c : Char} (h : 128 ≤ c.toNat) {b : UInt8}
    (hb : b ∈ String.utf8EncodeChar c) : 128 ≤ b.toNat := by
  have hgt : ¬ c.val.toNat ≤ 127 := Nat.not_le.mpr h
  simp only [String.utf8EncodeChar, if_neg hgt] at hb
  split_ifs at hb <;> simp only [List.mem_cons, List.not_mem_nil, or_false] at hb
  · rcases hb with rfl | rfl <;> rw [UInt8.toNat_ofNat'] <;> omega
  · rcases hb with rfl | rfl | rfl <;> rw [UInt8.toNat_ofNat'] <;> omega
  · rcases hb with rfl | rfl | rfl | rfl <;> rw [UInt8.toNat_ofNat'] <;> omega

theorem utf8EncodeChar_ne_nil (c : Char) : String.utf8EncodeChar c ≠ [] := by
  simp only [String.utf8EncodeChar]
  split_ifs <;> exact List.cons_ne_nil _ _

theorem endMark_mem_utf8EncodeChar_iff {c : Char} :
    endMark ∈ String.utf8EncodeChar c ↔ c = '=' := by
  constructor
  · intro h
    by_cases hc : c.toNat < 128
    · rw [utf8EncodeChar_of_ascii hc, List.mem_singleton] at h
      rw [← ofUInt8_ofNat_toNat hc, ← h]
      rfl
    · exact absurd (le_of_mem_utf8EncodeChar (Nat.le_of_not_lt hc) h) (by decide)
  · rintro rfl
    decide

/-! ### Texts -/

theorem utf8_cons (c : Char) (text : List Char) :
    utf8 (c :: text) = String.utf8EncodeChar c ++ utf8 text := List.flatMap_cons

theorem utf8_append (front back : List Char) : utf8 (front ++ back) = utf8 front ++ utf8 back :=
  List.flatMap_append

theorem latin1_append (front back : List UInt8) :
    latin1 (front ++ back) = latin1 front ++ latin1 back := List.map_append

theorem latin1_utf8_cons {c : Char} (h : c.toNat < 128) (rest : List Char) :
    latin1 (utf8 (c :: rest)) = c :: latin1 (utf8 rest) := by
  rw [utf8_cons, latin1_append, utf8EncodeChar_of_ascii h]
  show Char.ofUInt8 (UInt8.ofNat c.toNat) :: latin1 (utf8 rest) = _
  rw [ofUInt8_ofNat_toNat h]

theorem endMark_mem_utf8_iff {text : List Char} : endMark ∈ utf8 text ↔ '=' ∈ text := by
  rw [utf8, List.mem_flatMap]
  constructor
  · rintro ⟨c, hc, hb⟩
    exact endMark_mem_utf8EncodeChar_iff.mp hb ▸ hc
  · exact fun h => ⟨'=', h, endMark_mem_utf8EncodeChar_iff.mpr rfl⟩

theorem getLast?_latin1_eq_iff {bytes : List UInt8} :
    (latin1 bytes).getLast? = some '=' ↔ bytes.getLast? = some endMark := by
  rw [latin1, List.getLast?_map, Option.map_eq_some_iff]
  constructor
  · rintro ⟨byte, hbyte, heq⟩
    rw [hbyte, ofUInt8_eq_equals_iff.mp heq]
  · exact fun h => ⟨endMark, h, rfl⟩

theorem getLast?_utf8_eq_iff {text : List Char} :
    (utf8 text).getLast? = some endMark ↔ text.getLast? = some '=' := by
  rcases List.eq_nil_or_concat text with rfl | ⟨front, c, hconcat⟩
  · exact iff_of_false nofun nofun
  · obtain ⟨byte, hbyte⟩ : ∃ byte, (String.utf8EncodeChar c).getLast? = some byte :=
      ⟨_, List.getLast?_eq_some_getLast (utf8EncodeChar_ne_nil c)⟩
    have hbytes : (utf8 text).getLast? = some byte := by
      rw [hconcat, List.concat_eq_append, utf8_append, utf8_cons, List.getLast?_append]
      simp [utf8, hbyte]
    have hlast : text.getLast? = some c := by
      rw [hconcat, List.concat_eq_append, List.getLast?_concat]
    rw [hbytes, hlast, Option.some_inj, Option.some_inj]
    constructor
    · rintro rfl
      exact endMark_mem_utf8EncodeChar_iff.mp (List.mem_of_getLast? hbyte)
    · rintro rfl
      exact (Option.some_inj.mp hbyte).symm

/-! ### ASCII texts -/

/-- The text has no character above ASCII. -/
def IsAscii (text : List Char) : Prop := ∀ c ∈ text, c.toNat < 128

instance (text : List Char) : Decidable (IsAscii text) := List.decidableBAll _ text

theorem isAscii_cons_iff {c : Char} {rest : List Char} :
    IsAscii (c :: rest) ↔ c.toNat < 128 ∧ IsAscii rest := List.forall_mem_cons

theorem latin1_utf8_of_isAscii {text : List Char} (h : IsAscii text) : latin1 (utf8 text) = text := by
  induction text with
  | nil => rfl
  | cons c rest ih =>
    obtain ⟨hc, hrest⟩ := isAscii_cons_iff.mp h
    rw [latin1_utf8_cons hc, ih hrest]

theorem exists_first_above_ascii {text : List Char} (h : ¬ IsAscii text) :
    ∃ front c back, text = front ++ c :: back ∧ IsAscii front ∧ 128 ≤ c.toNat := by
  induction text with
  | nil => exact absurd nofun h
  | cons c rest ih =>
    by_cases hc : c.toNat < 128
    · have hrest : ¬ IsAscii rest := fun hrest => h (isAscii_cons_iff.mpr ⟨hc, hrest⟩)
      obtain ⟨front, d, back, rfl, hfront, hd⟩ := ih hrest
      exact ⟨c :: front, d, back, rfl, isAscii_cons_iff.mpr ⟨hc, hfront⟩, hd⟩
    · exact ⟨[], c, rest, rfl, nofun, Nat.le_of_not_lt hc⟩

theorem length_le_length_utf8 (text : List Char) : text.length ≤ (utf8 text).length := by
  induction text with
  | nil => exact Nat.le_refl 0
  | cons c rest ih =>
    have hpos : 0 < (String.utf8EncodeChar c).length := List.length_pos_iff.mpr (utf8EncodeChar_ne_nil c)
    rw [utf8_cons, List.length_append, List.length_cons]
    omega

/-- **Latin-1 is right about ASCII only**: any other text has more bytes than characters. -/
theorem latin1_utf8_eq_self_iff {text : List Char} : latin1 (utf8 text) = text ↔ IsAscii text := by
  refine ⟨fun h => ?_, latin1_utf8_of_isAscii⟩
  by_contra hnot
  obtain ⟨front, c, back, rfl, -, hc⟩ := exists_first_above_ascii hnot
  have hsize : 1 < (String.utf8EncodeChar c).length := by
    have hgt : ¬ c.val.toNat ≤ 127 := Nat.not_le.mpr hc
    simp only [String.utf8EncodeChar, if_neg hgt]
    split_ifs <;> simp
  have hfront := length_le_length_utf8 front
  have hback := length_le_length_utf8 back
  have hlength := congrArg List.length h
  rw [latin1, List.length_map, utf8_append, utf8_cons] at hlength
  simp only [List.length_append, List.length_cons] at hlength
  omega

end CalcBench
