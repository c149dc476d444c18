import CalcBench.Proofs.Text.Bytes
import Mathlib.Data.List.TakeWhile

/-!
# CalcBench.Proofs.Testbench.Frame — the part of a line that a device is fed

A frame ends at its only end mark, in characters as well as in bytes.  What a line holds behind its
first end mark, its remainder, is never fed.

* `exists_frameBytes_eq`: **the bytes of a frame** are those of the line up to the first end mark, and
  the end mark.
-/

namespace CalcBench

/-- What stands behind the first end mark of a line. -/
def remainder (line : List Char) : List Char := (line.dropWhile (· ≠ '=')).tail

/-- The part of a line that is fed to a device, as a text. -/
def frameText (line : String) : String := String.ofList (frame line.toList)

/-- The bytes that are fed to a device for a line. -/
def frameBytes (line : String) : List UInt8 := utf8 (frame line.toList)

/-! ### Characters -/

theorem frame_eq_takeWhile (line : List Char) :
    frame line = line.takeWhile (· ≠ '=') ++ ['='] := by
  induction line with
  | nil => rfl
  | cons c rest ih =>
    by_cases hc : c = '='
    · simp [frame, hc]
    · simp [frame, hc, ih]

theorem frame_append_remainder {line : List Char} (h : '=' ∈ line) :
    frame line ++ remainder line = line := by
  induction line with
  | nil => cases h
  | cons c rest ih =>
    by_cases hc : c = '='
    · subst hc
      rfl
    · have hrest : '=' ∈ rest := (List.mem_cons.mp h).resolve_left (Ne.symm hc)
      have hr : remainder (c :: rest) = remainder rest := by simp [remainder, hc]
      rw [frame, if_neg hc, hr, List.cons_append, ih hrest]

theorem takeWhile_of_notMem {line : List Char} (h : '=' ∉ line) :
    line.takeWhile (· ≠ '=') = line := by
  rw [List.takeWhile_eq_self_iff]
  intro c hc
  exact decide_eq_true fun heq : c = '=' => h (heq ▸ hc)

theorem frame_of_notMem {line : List Char} (h : '=' ∉ line) : frame line = line ++ ['='] := by
  rw [frame_eq_takeWhile, takeWhile_of_notMem h]

/-! ### Bytes -/

/-- **The bytes of a frame**: one end mark, at the end, and before it the bytes of the line up to its
first end mark, or all of them if it has none. -/
theorem exists_frameBytes_eq (line : String) :
    ∃ body, frameBytes line = body ++ [endMark] ∧ endMark ∉ body ∧
      (body ++ [endMark] <+: utf8 line.toList ∨
        endMark ∉ utf8 line.toList ∧ body = utf8 line.toList) := by
  have hbytes : frameBytes line = utf8 (line.toList.takeWhile (· ≠ '=')) ++ [endMark] := by
    rw [frameBytes, frame_eq_takeWhile, utf8_append]
    rfl
  refine ⟨_, hbytes, ?_, ?_⟩
  · rw [endMark_mem_utf8_iff]
    intro h
    have hne := List.mem_takeWhile_imp (p := (· ≠ '=')) h
    simp at hne
  · by_cases h : '=' ∈ line.toList
    · left
      have hutf8 : utf8 line.toList = frameBytes line ++ utf8 (remainder line.toList) := by
        rw [frameBytes, ← utf8_append, frame_append_remainder h]
      rw [← hbytes, hutf8]
      exact List.prefix_append _ _
    · right
      exact ⟨mt endMark_mem_utf8_iff.mp h, by rw [takeWhile_of_notMem h]⟩

end CalcBench
