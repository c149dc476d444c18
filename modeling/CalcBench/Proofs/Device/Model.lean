import CalcBench.Device.Model
import CalcBench.Proofs.Device.Calls
import CalcBench.Proofs.Text.Bytes

/-!
# CalcBench.Proofs.Device.Model — the software model as a function of its history

All that the model knows of its past are the bytes put since its last response: these are in its
buffer, each as the Latin-1 character of its number.

* `after_holding`: **the buffer** over any history holds the bytes that are not answered.
* `get_after_calls`: **the model as a function of its history**.
-/

namespace CalcBench.Model

variable (w : Width)

/-- The model of width `w` whose buffer holds `bytes`. -/
def holding (bytes : List UInt8) : Model := ⟨w, ⟨String.ofList (latin1 bytes)⟩⟩

/-! ### One call -/

theorem put_holding (bytes : List UInt8) (byte : UInt8) :
    device.put (holding w bytes) byte = .done () (holding w (bytes ++ [byte])) := by
  have htext : (String.ofList (latin1 bytes)).push (Char.ofUInt8 byte) =
      String.ofList (latin1 (bytes ++ [byte])) := by
    rw [← String.toList_inj, String.toList_push, String.toList_ofList, String.toList_ofList,
      latin1_append]
    rfl
  show Exchange.done () _ = _
  rw [holding, holding, ← htext]
  rfl

theorem isComplete_holding_iff {bytes : List UInt8} :
    (holding w bytes).buffer.isComplete ↔ bytes.getLast? = some endMark := by
  rw [Expression.Buffer.isComplete, holding, String.toList_ofList, beq_iff_eq,
    getLast?_latin1_eq_iff]

variable {w} {bytes : List UInt8}

/-- With the end mark in the last place the model responds, and forgets. -/
theorem get_holding_of_complete (h : bytes.getLast? = some endMark) :
    (device.get (holding w bytes)).outcome =
        .ok (.golden (Expression.evaluate (String.ofList (latin1 bytes))) w) ∧
      (device.get (holding w bytes)).state = holding w [] := by
  have hget : device.get (holding w bytes) = get (holding w bytes) := rfl
  rw [hget, get, if_pos ((isComplete_holding_iff w).mpr h)]
  exact ⟨rfl, rfl⟩

theorem get_holding_of_incomplete (h : bytes.getLast? ≠ some endMark) :
    device.get (holding w bytes) =
      ⟨.error (.early (String.ofList (latin1 bytes))), holding w bytes, []⟩ := by
  have hget : device.get (holding w bytes) = get (holding w bytes) := rfl
  rw [hget, get, if_neg fun hc => h ((isComplete_holding_iff w).mp hc)]
  rfl

/-! ### Histories -/

/-- **The buffer.** After any calls it holds the bytes put since the last response. -/
theorem after_holding (bytes : List UInt8) (calls : List Call) :
    device.after (holding w bytes) calls =
      holding w (device.unanswered (holding w bytes) bytes calls) := by
  induction calls generalizing bytes with
  | nil => rfl
  | cons call calls ih =>
    cases call with
    | put byte =>
      show device.after (device.put (holding w bytes) byte).state calls =
        holding w (device.unanswered (device.put (holding w bytes) byte).state _ calls)
      rw [put_holding]
      exact ih _
    | get =>
      show device.after (device.get (holding w bytes)).state calls =
        holding w (device.unanswered (device.get (holding w bytes)).state _ calls)
      -- a response empties the buffer and the bytes that wait for one, a refusal leaves both
      by_cases h : bytes.getLast? = some endMark
      · obtain ⟨hout, hstate⟩ := get_holding_of_complete (w := w) h
        rw [hout, hstate]
        exact ih []
      · rw [get_holding_of_incomplete h]
        exact ih bytes

theorem after_fresh (w : Width) (calls : List Call) :
    device.after ⟨w, {}⟩ calls = holding w (device.unanswered ⟨w, {}⟩ [] calls) :=
  after_holding [] calls

theorem performs_puts_holding (front bytes : List UInt8) :
    device.Performs (holding w front) (puts bytes) [] (holding w (front ++ bytes)) := by
  induction bytes generalizing front with
  | nil =>
    rw [List.append_nil]
    exact .nil _
  | cons byte rest ih =>
    have hput := put_holding w front byte
    have hrest := ih (front ++ [byte])
    rw [List.append_assoc] at hrest
    exact .put (congrArg Exchange.outcome hput) (by rw [hput]; exact hrest)

/-- **The model as a function of its history.** -/
theorem get_after_calls (w : Width) (calls : List Call) :
    (∀ byte, (device.put (device.after ⟨w, {}⟩ calls) byte).outcome = .ok ()) ∧
    ((∃ response, (device.get (device.after ⟨w, {}⟩ calls)).outcome = .ok response) ↔
      (device.unanswered ⟨w, {}⟩ [] calls).getLast? = some endMark) ∧
    (∀ response, (device.get (device.after ⟨w, {}⟩ calls)).outcome = .ok response →
      response = .golden (Expression.evaluate
        (String.ofList (latin1 (device.unanswered ⟨w, {}⟩ [] calls)))) w ∧
      device.unanswered ⟨w, {}⟩ [] (calls ++ [.get]) = [] ∧
      device.after ⟨w, {}⟩ (calls ++ [.get]) = ⟨w, {}⟩ ∧
      ∀ later, device.outcomes ⟨w, {}⟩ (calls ++ .get :: later) =
        device.outcomes ⟨w, {}⟩ calls ++ .ok (some response) :: device.outcomes ⟨w, {}⟩ later) ∧
    ∀ e, (device.get (device.after ⟨w, {}⟩ calls)).outcome = .error e →
      e.message = "result requested before `=`: \"" ++
        String.ofList (latin1 (device.unanswered ⟨w, {}⟩ [] calls)) ++ "\"" ∧
      device.unanswered ⟨w, {}⟩ [] (calls ++ [.get]) = device.unanswered ⟨w, {}⟩ [] calls ∧
      device.after ⟨w, {}⟩ (calls ++ [.get]) = device.after ⟨w, {}⟩ calls ∧
      ∀ later, ∃ rest,
        device.outcomes ⟨w, {}⟩ (calls ++ later) = device.outcomes ⟨w, {}⟩ calls ++ rest ∧
        device.outcomes ⟨w, {}⟩ (calls ++ .get :: later) =
          device.outcomes ⟨w, {}⟩ calls ++ .error e :: rest := by
  have hfresh := after_fresh w calls
  refine ⟨fun byte => by rw [hfresh, put_holding]; rfl, ?_⟩
  -- the buffer holds the bytes that are not answered, so the last of them decides
  by_cases h : (device.unanswered ⟨w, {}⟩ [] calls).getLast? = some endMark
  · obtain ⟨hout, hstate⟩ := get_holding_of_complete (w := w) h
    rw [← hfresh] at hout hstate
    refine ⟨iff_of_true ⟨_, hout⟩ h, fun response hresponse => ?_,
      fun e he => nomatch hout.symm.trans he⟩
    obtain rfl : _ = response := Except.ok.inj (hout.symm.trans hresponse)
    refine ⟨rfl, ?_, ?_, fun later => ?_⟩
    · rw [Device.unanswered_append_get, hout]
      rfl
    · rw [Device.after_append_get, hstate]
      rfl
    · rw [Device.outcomes_append_get, hout, hstate]
      rfl
  · have hget := get_holding_of_incomplete (w := w) h
    rw [← hfresh] at hget
    have hout := congrArg Exchange.outcome hget
    refine ⟨iff_of_false (fun ⟨_, hok⟩ => nomatch hout.symm.trans hok) h,
      fun response hok => (nomatch hout.symm.trans hok), fun e he => ?_⟩
    obtain rfl : _ = e := Except.error.inj (hout.symm.trans he)
    refine ⟨rfl, ?_, ?_, fun later => ⟨_, Device.outcomes_append _ _ _ _, ?_⟩⟩
    · rw [Device.unanswered_append_get, hget]
      rfl
    · rw [Device.after_append_get, hget]
    · rw [Device.outcomes_append_get, hget]
      rfl

theorem get_after_interrupted_sum :
    (∃ e, (device.get (device.after ⟨.standard, {}⟩ (puts [0x31, 0x3D, 0x2B]))).outcome = .error e ∧
      e.message = "result requested before `=`: \"1=+\"") ∧
    (device.get (device.after ⟨.standard, {}⟩
      (puts [0x31, 0x3D, 0x2B] ++ .get :: puts [0x32, 0x3D]))).outcome = .ok ⟨false, 3⟩ := by
  constructor
  · obtain ⟨-, hiff, -, hrefused⟩ := get_after_calls .standard (puts [0x31, 0x3D, 0x2B])
    cases hout : (device.get (device.after ⟨.standard, {}⟩ (puts [0x31, 0x3D, 0x2B]))).outcome with
    | ok response => exact absurd (hiff.mp ⟨response, hout⟩) (by decide)
    | error e => exact ⟨e, rfl, (hrefused e hout).1⟩
  · obtain ⟨-, hiff, hanswered, -⟩ :=
      get_after_calls .standard (puts [0x31, 0x3D, 0x2B] ++ .get :: puts [0x32, 0x3D])
    obtain ⟨response, hout⟩ := hiff.mpr (by decide)
    rw [hout, (hanswered response hout).1]
    decide

end CalcBench.Model
