import CalcBench.Device.Replay
import Mathlib.Tactic.Common

/-!
# CalcBench.Proofs.Device.Trace — a written response is read back

The word `fault` and decimal numbers are trace lines, over the whole range of the register.

* `parseLine_text`: the text of a response is a trace line with that response on it.
-/

namespace CalcBench

/-! ### Digits -/

namespace Text

theorem isWhiteSpace_eq_false_of_isDigit {c : Char} (h : c.isDigit) : isWhiteSpace c = false := by
  simp only [Char.isDigit, ge_iff_le, Bool.and_eq_true, decide_eq_true_eq, UInt32.le_iff_toNat_le] at h
  have hlo : 48 ≤ c.toNat := h.1
  have hhi : c.toNat ≤ 57 := h.2
  simp only [isWhiteSpace, Bool.or_eq_false_iff, Bool.and_eq_false_iff, decide_eq_false_iff_not,
    beq_eq_false_iff_ne]
  omega

theorem toList_decimal (n : Int) :
    (decimal n).toList = (if n < 0 then ['-'] else []) ++ Nat.toDigits 10 n.natAbs := by
  unfold decimal
  split
  · rw [String.toList_append, Nat.toList_repr]
    rfl
  · rw [Nat.toList_repr, List.nil_append]

theorem isDigit_of_mem_toDigits {n : Nat} {c : Char} (h : c ∈ Nat.toDigits 10 n) : c.isDigit :=
  Nat.isDigit_of_mem_toDigits (by decide) (by decide) h

theorem eq_minus_or_isDigit_of_mem_decimal {n : Int} {c : Char} (h : c ∈ (decimal n).toList) :
    c = '-' ∨ c.isDigit := by
  rw [toList_decimal] at h
  rcases List.mem_append.mp h with h | h
  · split at h
    · exact .inl (List.mem_singleton.mp h)
    · cases h
  · exact .inr (isDigit_of_mem_toDigits h)

theorem fitInt64_toInt (v : Int64) : fitInt64 v.toInt = .ok v := by
  have hlo := v.le_toInt
  have hhi := v.toInt_lt
  rw [fitInt64, if_neg (by omega), if_neg (by omega), Int64.ofInt_toInt]

end Text

/-! ### Readings -/

namespace Trace

/-- The digits at the front of a text are split off up to the first other character. -/
theorem splitNumber_append {digits rest : List Char} (hne : digits ≠ [])
    (hd : ∀ c ∈ digits, c.isDigit) (hrest : ∀ c ∈ rest.head?, c.isDigit = false) :
    splitNumber (digits ++ rest) = some (Nat.ofDigitChars 10 digits 0, rest) := by
  have htake : rest.takeWhile Char.isDigit = [] := by
    cases rest with
    | nil => rfl
    | cons c rest => rw [List.takeWhile_cons_of_neg (by simp [hrest c rfl])]
  have hdrop : rest.dropWhile Char.isDigit = rest := by
    cases rest with
    | nil => rfl
    | cons c rest => rw [List.dropWhile_cons_of_neg (by simp [hrest c rfl])]
  obtain ⟨c, digits, rfl⟩ := List.exists_cons_of_ne_nil hne
  rw [splitNumber, List.takeWhile_append_of_pos hd, List.dropWhile_append_of_pos hd, htake, hdrop,
    List.append_nil]

/-- A text that starts with a digit starts with a number. -/
theorem splitReading_of_isDigit {c : Char} {rest : List Char} (hc : c.isDigit) :
    splitReading (c :: rest) =
      match splitNumber (c :: rest) with
      | some (n, rest') => (some (.value n), rest')
      | none => (none, c :: rest) := by
  unfold splitReading
  split
  · next h =>
    cases h
    exact absurd hc (by decide)
  · next h =>
    cases h
    exact absurd hc (by decide)
  · rfl

theorem splitReading_toList_decimal (n : Int) :
    splitReading (Text.decimal n).toList = (some (.value n), []) := by
  have hne : Nat.toDigits 10 n.natAbs ≠ [] := Nat.toDigits_ne_nil
  have hsplit : splitNumber (Nat.toDigits 10 n.natAbs) = some (n.natAbs, []) := by
    have h : splitNumber (Nat.toDigits 10 n.natAbs ++ []) = some (_, []) :=
      splitNumber_append hne (fun c => Text.isDigit_of_mem_toDigits) nofun
    rwa [List.append_nil, Nat.ofDigitChars_ten_toDigits] at h
  rw [Text.toList_decimal]
  split
  · next hneg =>
    have habs : -(n.natAbs : Int) = n := by omega
    rw [List.singleton_append, splitReading]
    simp only [hsplit]
    rw [habs]
  · next hpos =>
    have habs : (n.natAbs : Int) = n := by omega
    rw [List.nil_append]
    obtain ⟨c, rest, hcons⟩ := List.exists_cons_of_ne_nil hne
    have hc : c.isDigit := Text.isDigit_of_mem_toDigits (n := n.natAbs) (hcons ▸ List.mem_cons_self)
    rw [hcons] at hsplit ⊢
    rw [splitReading_of_isDigit hc]
    simp only [hsplit]
    rw [habs]

/-- A text without white space in it is not padded. -/
theorem parseLine_of_splitReading {line : List Char} {reading : Reading}
    (hw : ∀ c ∈ line, Text.isWhiteSpace c = false)
    (hs : splitReading line = (some reading, [])) : parseLine line = some (some reading) := by
  have hdrop : line.dropWhile Text.isWhiteSpace = line := by
    cases line with
    | nil => rfl
    | cons c rest => rw [List.dropWhile_cons_of_neg (by simp [hw c List.mem_cons_self])]
  rw [parseLine, hdrop, hs]
  rfl

end Trace

/-! ### Responses -/

namespace Response

/-- What the text of a response records. -/
def reading (r : Response) : Reading := if r.fault then .fault else .value r.value.toInt

/-- The response as far as its text shows it: the register counts only while the flag is clear. -/
def shown (r : Response) : Response := if r.fault then .faulted else r

theorem shown_golden (result : Except Fault Int64) (w : Width) :
    (golden result w).shown = golden result w := by
  cases result with
  | ok v => rfl
  | error fault => rfl

theorem isWhiteSpace_eq_false_of_mem_text {r : Response} {c : Char} (h : c ∈ r.text.toList) :
    Text.isWhiteSpace c = false := by
  unfold text at h
  split at h
  · have hall : "fault".toList.all (!Text.isWhiteSpace ·) = true := rfl
    exact Bool.not_eq_true' _ |>.mp (List.all_eq_true.mp hall c h)
  · rcases Text.eq_minus_or_isDigit_of_mem_decimal h with rfl | hc
    · rfl
    · exact Text.isWhiteSpace_eq_false_of_isDigit hc

end Response

namespace Trace

/-- **A response is read back** from its text, over the whole range of the register. -/
theorem parseLine_text (r : Response) : parseLine r.text.toList = some (some r.reading) := by
  refine parseLine_of_splitReading (fun c => Response.isWhiteSpace_eq_false_of_mem_text) ?_
  unfold Response.text Response.reading
  split
  · rfl
  · exact splitReading_toList_decimal r.value.toInt

theorem response_reading (r : Response) : response r.reading = .ok r.shown := by
  unfold Response.reading Response.shown
  split
  · rfl
  · next hclear =>
    rw [response, Text.fitInt64_toInt]
    have hr : Response.ofValue r.value = r := by
      obtain ⟨fault, value⟩ := r
      rw [Response.ofValue, Bool.not_eq_true fault |>.mp hclear]
    exact congrArg Except.ok hr

theorem shown_eq_of_text_eq {r r' : Response} (h : r.text = r'.text) : r.shown = r'.shown := by
  have hparse := congrArg (fun text : String => parseLine text.toList) h
  simp only [parseLine_text, Option.some_inj] at hparse
  have hresponse := congrArg response hparse
  rw [response_reading, response_reading] at hresponse
  exact Except.ok.inj hresponse

theorem parseFrom_text (number : Nat) (rs : List Response) :
    parseFrom number (rs.map (·.text.toList)) = .ok (rs.map Response.shown) := by
  induction rs generalizing number with
  | nil => rfl
  | cons r rs ih =>
    simp only [List.map_cons, parseFrom, parseLine_text, response_reading, ih]
    rfl

end Trace

end CalcBench
