import CalcBench.Device.Model
import CalcBench.Proofs.Expression.Received

/-!
# CalcBench.Proofs.Expression.BytePort — a text put into a buffer, byte by byte

The core takes a text as its UTF-8 bytes and keeps each as a character.  What it has then is the text
itself exactly if that is ASCII, and still it evaluates to what the text evaluates to: positions in a
text count bytes, and a text is refused before its characters and its bytes come to differ.

* `evaluate_received`: **the byte port against the text**.
-/

namespace CalcBench.Expression

namespace Buffer

/-- The buffer that has received the bytes of a text, and nothing before. -/
def received (text : String) : Buffer := ({} : Buffer).extend (utf8 text.toList)

theorem extend_eq (b : Buffer) (bytes : List UInt8) :
    b.extend bytes = ⟨b.text ++ String.ofList (latin1 bytes)⟩ := by
  induction bytes generalizing b with
  | nil => exact congrArg Buffer.mk String.append_empty.symm
  | cons byte bytes ih =>
    have htext : b.text.push (Char.ofUInt8 byte) ++ String.ofList (latin1 bytes) =
        b.text ++ String.ofList (latin1 (byte :: bytes)) := by
      rw [← String.toList_inj, String.toList_append, String.toList_push, String.toList_append,
        String.toList_ofList, String.toList_ofList, List.append_assoc]
      rfl
    show (b.push byte).extend bytes = _
    rw [ih, push, htext]

theorem received_eq (text : String) :
    received text = ⟨String.ofList (latin1 (utf8 text.toList))⟩ := by
  rw [received, extend_eq, String.empty_append]

theorem received_eq_iff {text : String} : received text = ⟨text⟩ ↔ IsAscii text.toList := by
  rw [received_eq, mk.injEq, ← String.toList_inj, String.toList_ofList, latin1_utf8_eq_self_iff]

theorem isComplete_received_iff {text : String} :
    (received text).isComplete ↔ text.toList.getLast? = some '=' := by
  rw [received_eq, isComplete, String.toList_ofList, beq_iff_eq, getLast?_latin1_eq_iff,
    getLast?_utf8_eq_iff]

end Buffer

/-- **The byte port.**  A buffer that has received the bytes of a text evaluates to what the text
evaluates to, directly or from a buffer that was given it as a text.  Only, where that is the fault of a
character above ASCII, the character reported at the same place is the byte that stands there.  The
buffer holds the text exactly if it is ASCII, and is complete exactly if the text ends with `=`. -/
theorem evaluate_received (text : String) :
    Buffer.evaluate ⟨text⟩ = evaluate text ∧
    ((∀ ch offset, evaluate text = .error (.invalidCharacter ch offset) → ch.toNat < 128) →
      (Buffer.received text).evaluate = evaluate text) ∧
    (∀ ch offset, evaluate text = .error (.invalidCharacter ch offset) → 128 ≤ ch.toNat →
      ∃ byte, (utf8 text.toList)[offset]? = some byte ∧
        (Buffer.received text).evaluate = .error (.invalidCharacter (Char.ofUInt8 byte) offset)) ∧
    (Buffer.received text = ⟨text⟩ ↔ IsAscii text.toList) ∧
    ((Buffer.received text).isComplete ↔ text.toList.getLast? = some '=') := by
  have hreceived : (Buffer.received text).evaluate =
      evaluate (String.ofList (latin1 (utf8 text.toList))) := by
    rw [Buffer.received_eq, Buffer.evaluate]
  have hport := evaluate_latin1_utf8 text.toList
  rw [← hreceived, String.ofList_toList] at hport
  refine ⟨rfl, ?_, ?_, Buffer.received_eq_iff, Buffer.isComplete_received_iff⟩
  · intro hascii
    rcases hport with ⟨heq, -⟩ | ⟨ch, offset, -, hch, -, htext, -⟩
    · exact heq
    · exact absurd (hascii ch offset htext) (Nat.not_lt.mpr hch)
  · intro ch offset htext hch
    rcases hport with ⟨-, hascii⟩ | ⟨ch', offset', byte, -, hbyte, htext', hbytes⟩
    · exact absurd (hascii ch offset htext) (Nat.not_lt.mpr hch)
    · rw [htext] at htext'
      cases htext'
      exact ⟨byte, hbyte, hbytes⟩

/-- Behind a sum, `é` is reported as the character of its first byte; a foreign character of ASCII by
its own name. -/
theorem evaluate_received_accent :
    (evaluate "1+é=" = .error (.invalidCharacter 'é' 2) ∧ 128 ≤ 'é'.toNat ∧
      (Buffer.received "1+é=").evaluate = .error (.invalidCharacter 'Ã' 2) ∧
      Buffer.received "1+é=" ≠ ⟨"1+é="⟩ ∧ (Buffer.received "1+é=").isComplete) ∧
    (evaluate "1?é" = .error (.invalidCharacter '?' 1) ∧
      (Buffer.received "1?é").evaluate = evaluate "1?é" ∧
      ¬ (Buffer.received "1?é").isComplete) ∧
    Buffer.received "2*3=" = ⟨"2*3="⟩ := by
  have haccent : evaluate "1+é=" = .error (.invalidCharacter 'é' 2) := by decide
  have hforeign : evaluate "1?é" = .error (.invalidCharacter '?' 1) := by decide
  obtain ⟨-, -, hlead, hheld, hcomplete⟩ := evaluate_received "1+é="
  obtain ⟨-, hsame, -, -, hincomplete⟩ := evaluate_received "1?é"
  obtain ⟨byte, hbyte, hreported⟩ := hlead 'é' 2 haccent (by decide)
  obtain rfl : 0xC3 = byte := Option.some_inj.mp hbyte
  refine ⟨⟨haccent, by decide, hreported, fun h => ?_, hcomplete.mpr rfl⟩, ⟨hforeign, ?_, fun h => ?_⟩,
    (evaluate_received "2*3=").2.2.2.1.mpr (by decide)⟩
  · exact absurd (hheld.mp h 'é' (by decide)) (by decide)
  · refine hsame fun ch offset h => ?_
    rw [hforeign] at h
    cases h
    decide
  · cases hincomplete.mp h

end CalcBench.Expression
