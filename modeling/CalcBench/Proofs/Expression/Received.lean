import CalcBench.Proofs.Expression.Extension
import CalcBench.Proofs.Expression.Spacing
import CalcBench.Proofs.Testbench.Frame
import CalcBench.Response

/-!
# CalcBench.Proofs.Expression.Received — evaluating what a device receives of a line

A device receives the frame of a line, as bytes.  Reading the bytes as Latin-1 keeps an ASCII text as
it is; any other text is refused at its first character above ASCII at the latest, whichever way it is
read, since neither that character nor the ones that its bytes spell belong to expressions.

* `evaluate_latin1_utf8`: **a text and its bytes read as Latin-1** have the same outcome, but for the
  name of a character above ASCII.
-/

namespace CalcBench.Expression

/-! ### Frames -/

/-- The frame of a line has the value of the line, unless more than skipped characters follow it. -/
theorem evaluate_frameText {line : String} (h : IsGap (remainder line.toList)) :
    evaluate (frameText line) = evaluate line := by
  by_cases hmem : '=' ∈ line.toList
  · calc evaluate (frameText line)
      _ = evaluate (String.ofList (frame line.toList ++ remainder line.toList)) :=
          (evaluate_append_gap _ h).symm
      _ = evaluate line := by rw [frame_append_remainder hmem, String.ofList_toList]
  · have hend : IsGap ['='] := fun c hc => by
      rw [List.mem_singleton.mp hc]
      rfl
    rw [frameText, frame_of_notMem hmem, evaluate_append_gap _ hend, String.ofList_toList]

/-! ### Bytes read as Latin-1 -/

theorem Symbol.ofChar_eq_foreign_of_le {c : Char} (h : 128 ≤ c.toNat) : ofChar c = .foreign := by
  cases hc : ofChar c with
  | skipped =>
    have hs : isSkipped c := ofChar_eq_skipped_iff.mp hc
    have hall : skippedChars.all fun c => decide (c.toNat < 128) := by decide
    have hlt := of_decide_eq_true (List.all_eq_true.mp hall c (isSkipped_iff_mem.mp hs))
    omega
  | digit d =>
    have hd : c.isDigit := (ofChar_eq_digit_iff.mp hc).1
    simp only [Char.isDigit, ge_iff_le, Bool.and_eq_true, decide_eq_true_eq,
      UInt32.le_iff_toNat_le] at hd
    have hhi : c.toNat ≤ 57 := hd.2
    omega
  | opening =>
    rw [ofChar_eq_opening_iff.mp hc] at h
    exact absurd h (by decide)
  | closing =>
    rw [ofChar_eq_closing_iff.mp hc] at h
    exact absurd h (by decide)
  | operator op =>
    rw [ofChar_eq_operator_iff.mp hc] at h
    cases op <;> exact absurd h (by decide)
  | foreign => rfl

theorem Scan.step_of_le {s : Scan} {c : Char} (h : 128 ≤ c.toNat) :
    s.step c = .error ⟨.invalidCharacter c s.offset, s.work.folds⟩ := by
  rw [step, Symbol.ofChar_eq_foreign_of_le h]

theorem Scan.eq_of_step_eq_invalidCharacter {s : Scan} {c ch : Char} {offset : Nat}
    {folds : List Fold} (h : s.step c = .error ⟨.invalidCharacter ch offset, folds⟩) : ch = c := by
  rcases step_eq_error h with ⟨rank, hu⟩ | ⟨-, hfault, -⟩ | ⟨-, hfault⟩
  · rcases Stacks.unwindFrom_eq_error hu with hmal | ⟨hzero, -⟩
    · cases hmal
    · cases hzero
  · cases hfault
  · cases hfault
    rfl

/-- The bytes of a text, read as Latin-1, take a scan where the text takes it.  Only, a character above
ASCII is refused as the first of its bytes, at the place where that byte stands. -/
theorem Scan.run_latin1_utf8 (s : Scan) (text : List Char) :
    (s.run (latin1 (utf8 text)) = s.run text ∧
      ∀ ch offset folds, s.run text = .error ⟨.invalidCharacter ch offset, folds⟩ →
        ch.toNat < 128) ∨
    ∃ ch place byte folds, 128 ≤ ch.toNat ∧ (utf8 text)[place]? = some byte ∧
      s.run text = .error ⟨.invalidCharacter ch (s.offset + place), folds⟩ ∧
      s.run (latin1 (utf8 text)) =
        .error ⟨.invalidCharacter (Char.ofUInt8 byte) (s.offset + place), folds⟩ := by
  induction text generalizing s with
  | nil => exact .inl ⟨rfl, nofun⟩
  | cons c rest ih =>
    by_cases hc : c.toNat < 128
    · rw [latin1_utf8_cons hc, run_cons, run_cons]
      cases hstep : s.step c with
      | error halt =>
        refine .inl ⟨rfl, fun ch offset folds h => ?_⟩
        cases h
        rw [eq_of_step_eq_invalidCharacter hstep]
        exact hc
      | ok s' =>
        rcases ih s' with hsame | ⟨ch, place, byte, folds, hch, hbyte, htext, hbytes⟩
        · exact .inl hsame
        · -- `c` is one byte long, so all places behind it are one further
          have hoffset : s'.offset + place = s.offset + (place + 1) := by
            rw [(step_eq_ok_iff.mp hstep).2.1, utf8Size_of_ascii hc, Nat.add_assoc,
              Nat.add_comm 1 place]
          rw [hoffset] at htext hbytes
          refine .inr ⟨ch, place + 1, byte, folds, hch, ?_, htext, hbytes⟩
          rw [utf8_cons, utf8EncodeChar_of_ascii hc]
          exact hbyte
    · -- both scans stop here, the one at `c` and the other at the first of its bytes
      have hle : 128 ≤ c.toNat := Nat.le_of_not_lt hc
      obtain ⟨byte, more, hcons⟩ := List.exists_cons_of_ne_nil (utf8EncodeChar_ne_nil c)
      have hbyte : 128 ≤ (Char.ofUInt8 byte).toNat := by
        rw [toNat_ofUInt8]
        exact le_of_mem_utf8EncodeChar hle (hcons ▸ List.mem_cons_self)
      have hutf8 : utf8 (c :: rest) = byte :: (more ++ utf8 rest) := by
        rw [utf8_cons, hcons, List.cons_append]
      have hbytes : latin1 (utf8 (c :: rest)) =
          Char.ofUInt8 byte :: latin1 (more ++ utf8 rest) := by
        rw [hutf8]
        rfl
      refine .inr ⟨c, 0, byte, s.work.folds, hle, ?_, ?_, ?_⟩
      · rw [hutf8]
        rfl
      · rw [run_cons, step_of_le hle]
        rfl
      · rw [hbytes, run_cons, step_of_le hbyte]
        rfl

/-- **Latin-1.** The bytes of a text, read as Latin-1, have the outcome of the text, unless the text is
refused at a character above ASCII: its first byte, as a character, is refused there. -/
theorem evaluate_latin1_utf8 (text : List Char) :
    (evaluate (String.ofList (latin1 (utf8 text))) = evaluate (String.ofList text) ∧
      ∀ ch offset, evaluate (String.ofList text) = .error (.invalidCharacter ch offset) →
        ch.toNat < 128) ∨
    ∃ ch offset byte, 128 ≤ ch.toNat ∧ (utf8 text)[offset]? = some byte ∧
      evaluate (String.ofList text) = .error (.invalidCharacter ch offset) ∧
      evaluate (String.ofList (latin1 (utf8 text))) =
        .error (.invalidCharacter (Char.ofUInt8 byte) offset) := by
  rcases Scan.run_latin1_utf8 {} text with
    ⟨hrun, hascii⟩ | ⟨ch, place, byte, folds, hch, hbyte, htext, hbytes⟩
  · refine .inl ⟨?_, fun ch offset h => ?_⟩
    · rw [evaluate_eq_outcome, evaluate_eq_outcome, String.toList_ofList, String.toList_ofList, hrun]
    · obtain ⟨folds, hhalt⟩ := exists_run_of_isOfCharacter h trivial
      rw [String.toList_ofList] at hhalt
      exact hascii ch offset folds hhalt
  · have hstart : ({} : Scan).offset + place = place := Nat.zero_add place
    rw [hstart] at htext hbytes
    refine .inr ⟨ch, place, byte, hch, hbyte, ?_, ?_⟩
    · rw [evaluate_eq_outcome, String.toList_ofList, htext]
      rfl
    · rw [evaluate_eq_outcome, String.toList_ofList, hbytes]
      rfl

/-- So they have its golden response, in which no fault is told from another. -/
theorem golden_latin1_utf8 (text : List Char) (w : Width) :
    Response.golden (evaluate (String.ofList (latin1 (utf8 text)))) w =
      Response.golden (evaluate (String.ofList text)) w := by
  rcases evaluate_latin1_utf8 text with ⟨heq, -⟩ | ⟨ch, offset, byte, -, -, htext, hbytes⟩
  · rw [heq]
  · rw [htext, hbytes]
    rfl

end CalcBench.Expression
