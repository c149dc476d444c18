import CalcBench.Proofs.Device.Replay
import CalcBench.Proofs.Device.Trace
import Mathlib.Algebra.Ring.Int.Defs
import Mathlib.Data.List.Forall2
import Mathlib.Data.List.TakeWhile

/-!
# CalcBench.Proofs.Device.TraceForm — which texts are traces

The form of a trace line is a grammar: white space, perhaps a reading, white space, perhaps a
comment.  Reading a line follows the grammar, and reading a trace follows its lines up to the first
that offends.

* `parseLine_eq_some_iff`: **a line is read exactly if it has the form**, and as what it records.
* `Replay.ofTrace_by_lines`: **traces**, their responses and their errors.
-/

namespace CalcBench

/-! ### The form of a line -/

namespace Trace

/-- The ways to write what a line records: nothing, the word `fault`, or digits that may have a minus
sign before them. -/
inductive Spells : Option Reading → List Char → Prop where
  | nothing : Spells none []
  | fault : Spells (some .fault) ['f', 'a', 'u', 'l', 't']
  | number {digits : List Char} : digits ≠ [] → (∀ c ∈ digits, c.isDigit) →
      Spells (some (.value (Nat.ofDigitChars 10 digits 0))) digits
  | negative {digits : List Char} : digits ≠ [] → (∀ c ∈ digits, c.isDigit) →
      Spells (some (.value (-(Nat.ofDigitChars 10 digits 0)))) ('-' :: digits)

/-- Nothing, or `#` and anything. -/
def IsComment : List Char → Prop
  | [] => True
  | c :: _ => c = '#'

/-- The line records `r`: white space, a way to write `r`, white space, and a comment or nothing. -/
def Records (r : Option Reading) (line : List Char) : Prop :=
  ∃ front word back comment, line = front ++ (word ++ (back ++ comment)) ∧
    Text.isBlankLine front ∧ Spells r word ∧ Text.isBlankLine back ∧ IsComment comment

/-- The number of a reading, if it is one, is in the range of the register. -/
def InRange : Option Reading → Prop
  | some (.value n) => -2 ^ 63 ≤ n ∧ n < 2 ^ 63
  | _ => True

/-! ### White space around a reading -/

theorem dropWhile_blank_append {front : List Char} (h : Text.isBlankLine front) (rest : List Char) :
    (front ++ rest).dropWhile Text.isWhiteSpace = rest.dropWhile Text.isWhiteSpace :=
  List.dropWhile_append_of_pos (List.all_eq_true.mp h)

theorem dropWhile_comment {comment : List Char} (h : IsComment comment) :
    comment.dropWhile Text.isWhiteSpace = comment := by
  cases comment with
  | nil => rfl
  | cons c rest =>
    obtain rfl : c = '#' := h
    rfl

theorem isPadding_iff {text : List Char} :
    isPadding text = true ↔
      ∃ back comment, text = back ++ comment ∧ Text.isBlankLine back ∧ IsComment comment := by
  constructor
  · intro h
    refine ⟨text.takeWhile Text.isWhiteSpace, text.dropWhile Text.isWhiteSpace,
      List.takeWhile_append_dropWhile.symm,
      List.all_eq_true.mpr fun c hc => List.mem_takeWhile_imp hc, ?_⟩
    unfold isPadding at h
    split at h
    · next hnil => rw [hnil]; trivial
    · next c rest hcons => rw [hcons]; exact beq_iff_eq.mp h
  · rintro ⟨back, comment, rfl, hback, hcomment⟩
    rw [isPadding, dropWhile_blank_append hback, dropWhile_comment hcomment]
    cases comment with
    | nil => rfl
    | cons c rest => exact beq_iff_eq.mpr hcomment

/-- What may follow a reading starts with no digit, so that a number ends where its digits do. -/
theorem isDigit_eq_false_of_head_padding {back comment : List Char} (hback : Text.isBlankLine back)
    (hcomment : IsComment comment) : ∀ c ∈ (back ++ comment).head?, c.isDigit = false := by
  intro c hc
  cases back with
  | cons d back =>
    obtain rfl : d = c := Option.some.inj hc
    have hwhite : Text.isWhiteSpace d = true := List.all_eq_true.mp hback d List.mem_cons_self
    by_contra hdigit
    rw [Text.isWhiteSpace_eq_false_of_isDigit (Bool.not_eq_false _ ▸ hdigit)] at hwhite
    cases hwhite
  | nil =>
    cases comment with
    | nil => cases hc
    | cons d rest =>
      obtain rfl : d = c := Option.some.inj hc
      obtain rfl : d = '#' := hcomment
      rfl

/-! ### Readings -/

theorem splitNumber_eq_some {text rest : List Char} {n : Nat} (h : splitNumber text = some (n, rest)) :
    ∃ digits, text = digits ++ rest ∧ digits ≠ [] ∧ (∀ c ∈ digits, c.isDigit) ∧
      n = Nat.ofDigitChars 10 digits 0 := by
  unfold splitNumber at h
  split at h
  · cases h
  · next digits hne =>
    cases h
    exact ⟨_, List.takeWhile_append_dropWhile.symm, hne, fun c hc => List.mem_takeWhile_imp hc, rfl⟩

/-- A reading that is split off was written there. -/
theorem exists_spells_of_splitReading {text rest : List Char} {r : Option Reading}
    (h : splitReading text = (r, rest)) : ∃ word, text = word ++ rest ∧ Spells r word := by
  unfold splitReading at h
  split at h
  · cases h
    exact ⟨_, rfl, .fault⟩
  · next back =>
    split at h
    · next n back' hsplit =>
      cases h
      obtain ⟨digits, rfl, hne, hdigits, rfl⟩ := splitNumber_eq_some hsplit
      exact ⟨'-' :: digits, rfl, .negative hne hdigits⟩
    · cases h
      exact ⟨[], rfl, .nothing⟩
  · split at h
    · next n back hsplit =>
      cases h
      obtain ⟨digits, rfl, hne, hdigits, rfl⟩ := splitNumber_eq_some hsplit
      exact ⟨digits, rfl, .number hne hdigits⟩
    · cases h
      exact ⟨[], rfl, .nothing⟩

/-- A written reading is split off whole, if no digit follows it. -/
theorem splitReading_append {r : Reading} {word rest : List Char} (h : Spells (some r) word)
    (hrest : ∀ c ∈ rest.head?, c.isDigit = false) : splitReading (word ++ rest) = (some r, rest) := by
  cases h with
  | fault => rfl
  | number hne hdigits =>
    have hsplit := splitNumber_append hne hdigits hrest
    obtain ⟨c, digits, rfl⟩ := List.exists_cons_of_ne_nil hne
    rw [List.cons_append] at hsplit ⊢
    rw [splitReading_of_isDigit (hdigits c List.mem_cons_self), hsplit]
  | negative hne hdigits =>
    rw [List.cons_append, splitReading, splitNumber_append hne hdigits hrest]

theorem splitReading_comment {comment : List Char} (h : IsComment comment) :
    splitReading comment = (none, comment) := by
  cases comment with
  | nil => rfl
  | cons c rest =>
    obtain rfl : c = '#' := h
    rfl

theorem Spells.dropWhile_append {r : Reading} {word : List Char} (h : Spells (some r) word)
    (rest : List Char) : (word ++ rest).dropWhile Text.isWhiteSpace = word ++ rest := by
  cases h with
  | fault => rfl
  | number hne hdigits =>
    obtain ⟨c, digits, rfl⟩ := List.exists_cons_of_ne_nil hne
    have hwhite := Text.isWhiteSpace_eq_false_of_isDigit (hdigits c List.mem_cons_self)
    rw [List.cons_append, List.dropWhile_cons_of_neg (by simp [hwhite])]
  | negative _ _ => rfl

/-- **A line is read exactly if it has the form**, and as what it records. -/
theorem parseLine_eq_some_iff {line : List Char} {r : Option Reading} :
    parseLine line = some r ↔ Records r line := by
  constructor
  · intro h
    unfold parseLine at h
    split at h
    next reading rest hsplit =>
    split at h
    · next hpadding =>
      cases h
      obtain ⟨word, hword, hspells⟩ := exists_spells_of_splitReading hsplit
      obtain ⟨back, comment, rfl, hback, hcomment⟩ := isPadding_iff.mp hpadding
      refine ⟨line.takeWhile Text.isWhiteSpace, word, back, comment, ?_,
        List.all_eq_true.mpr fun c hc => List.mem_takeWhile_imp hc, hspells, hback, hcomment⟩
      rw [← hword, List.takeWhile_append_dropWhile]
    · cases h
  · rintro ⟨front, word, back, comment, rfl, hfront, hspells, hback, hcomment⟩
    have hpadding : isPadding (back ++ comment) = true :=
      isPadding_iff.mpr ⟨back, comment, rfl, hback, hcomment⟩
    have hcommentOnly : isPadding comment = true :=
      isPadding_iff.mpr ⟨[], comment, rfl, rfl, hcomment⟩
    rw [parseLine, dropWhile_blank_append hfront]
    cases r with
    | some reading =>
      rw [hspells.dropWhile_append,
        splitReading_append hspells (isDigit_eq_false_of_head_padding hback hcomment)]
      exact if_pos hpadding
    | none =>
      -- without a reading the white space before it and behind it is one
      cases hspells
      rw [List.nil_append, dropWhile_blank_append hback, dropWhile_comment hcomment,
        splitReading_comment hcomment]
      exact if_pos hcommentOnly

theorem Records.unique {line : List Char} {r r' : Option Reading} (h : Records r line)
    (h' : Records r' line) : r = r' :=
  Option.some.inj ((parseLine_eq_some_iff.mpr h).symm.trans (parseLine_eq_some_iff.mpr h'))

theorem parseLine_eq_none_iff {line : List Char} :
    parseLine line = none ↔ ¬∃ r, Records r line := by
  simp only [← parseLine_eq_some_iff, ← Option.isSome_iff_exists, Bool.not_eq_true,
    Option.isSome_eq_false_iff, Option.isNone_iff_eq_none]

end Trace

/-! ### Responses -/

theorem Text.fitInt64_eq_ok_iff {n : Int} {v : Int64} : fitInt64 n = .ok v ↔ v.toInt = n := by
  constructor
  · intro h
    unfold fitInt64 at h
    split_ifs at h with hhi hlo
    cases h
    exact Int64.toInt_ofInt_of_le (by omega) (by omega)
  · rintro rfl
    exact fitInt64_toInt v

theorem Text.exists_fitInt64_eq_ok_iff {n : Int} :
    (∃ v, fitInt64 n = .ok v) ↔ -2 ^ 63 ≤ n ∧ n < 2 ^ 63 := by
  simp only [fitInt64_eq_ok_iff]
  constructor
  · rintro ⟨v, rfl⟩
    exact ⟨v.le_toInt, v.toInt_lt⟩
  · rintro ⟨hlo, hhi⟩
    exact ⟨Int64.ofInt n, Int64.toInt_ofInt_of_le hlo hhi⟩

/-- The response shows what was read: the raised flag over an empty register, or the number itself. -/
def Reading.ShownBy : Reading → Response → Prop
  | .fault, r => r = .faulted
  | .value n, r => r.fault = false ∧ r.value.toInt = n

namespace Trace

theorem response_eq_ok_iff {reading : Reading} {r : Response} :
    response reading = .ok r ↔ reading.ShownBy r := by
  cases reading with
  | fault => exact ⟨fun h => (Except.ok.inj h).symm, fun h => congrArg Except.ok h.symm⟩
  | value n =>
    constructor
    · intro h
      obtain ⟨v, hv, rfl⟩ := Expression.map_eq_ok h
      exact ⟨rfl, Text.fitInt64_eq_ok_iff.mp hv⟩
    · rintro ⟨hfault, hvalue⟩
      obtain ⟨fault, v⟩ := r
      obtain rfl : fault = false := hfault
      rw [response, Text.fitInt64_eq_ok_iff.mpr hvalue]
      rfl

theorem exists_response_eq_ok_iff {reading : Reading} :
    (∃ r, response reading = .ok r) ↔ InRange (some reading) := by
  cases reading with
  | fault => exact iff_of_true ⟨_, rfl⟩ trivial
  | value n =>
    rw [InRange, ← Text.exists_fitInt64_eq_ok_iff]
    constructor
    · rintro ⟨r, h⟩
      obtain ⟨v, hv, -⟩ := Expression.map_eq_ok h
      exact ⟨v, hv⟩
    · rintro ⟨v, hv⟩
      exact ⟨.ofValue v, by rw [response, hv]; rfl⟩

/-! ### One line -/

/-- The line has the form of a trace line, and a number on it is in range. -/
def IsTraceLine (line : List Char) : Prop := ∃ r, Records r line ∧ InRange r

/-- The responses of one line, of which there is at most one. -/
def lineResponses (number : Nat) (line : List Char) : Except TraceError (List Response) :=
  match parseLine line with
  | none => .error (.invalidLine number (String.ofList line))
  | some none => .ok []
  | some (some reading) =>
    match response reading with
    | .error cause => .error (.outOfRange number cause)
    | .ok r => .ok [r]

theorem parseFrom_cons (number : Nat) (line : List Char) (rest : List (List Char)) :
    parseFrom number (line :: rest) =
      (lineResponses number line).bind fun given =>
        (parseFrom (number + 1) rest).map (given ++ ·) := by
  rw [parseFrom, lineResponses]
  cases parseLine line with
  | none => rfl
  | some r =>
    cases r with
    | none =>
      cases parseFrom (number + 1) rest with
      | error e => rfl
      | ok rs => rfl
    | some reading =>
      simp only
      cases response reading with
      | error cause => rfl
      | ok r => rfl

/-- A line that is read has the form, and its response shows what it records. -/
theorem lineResponses_eq_ok {number : Nat} {line : List Char} {given : List Response}
    (h : lineResponses number line = .ok given) :
    ∃ r, Records r line ∧ List.Forall₂ Reading.ShownBy r.toList given := by
  unfold lineResponses at h
  split at h
  · cases h
  · next hline =>
    cases h
    exact ⟨none, parseLine_eq_some_iff.mp hline, .nil⟩
  · next reading hline =>
    split at h
    · cases h
    · next r hresponse =>
      cases h
      exact ⟨some reading, parseLine_eq_some_iff.mp hline,
        .cons (response_eq_ok_iff.mp hresponse) .nil⟩

theorem exists_lineResponses_eq_ok_iff (number : Nat) {line : List Char} :
    (∃ given, lineResponses number line = .ok given) ↔ IsTraceLine line := by
  unfold lineResponses
  constructor
  · rintro ⟨given, h⟩
    split at h
    · cases h
    · next hline => exact ⟨none, parseLine_eq_some_iff.mp hline, trivial⟩
    · next reading hline =>
      split at h
      · cases h
      · next r hresponse =>
        exact ⟨some reading, parseLine_eq_some_iff.mp hline,
          exists_response_eq_ok_iff.mp ⟨r, hresponse⟩⟩
  · rintro ⟨r, hrecords, hrange⟩
    rw [parseLine_eq_some_iff.mpr hrecords]
    cases r with
    | none => exact ⟨[], rfl⟩
    | some reading =>
      obtain ⟨r, hresponse⟩ := exists_response_eq_ok_iff.mpr hrange
      exact ⟨[r], by simp only [hresponse]⟩

/-- A line that is not read lacks the form, or has it with a number out of range. -/
theorem lineResponses_eq_error {number : Nat} {line : List Char} {e : TraceError}
    (h : lineResponses number line = .error e) :
    ((¬∃ r, Records r line) ∧ e = .invalidLine number (String.ofList line)) ∨
      ∃ r cause, Records r line ∧ ¬InRange r ∧ e = .outOfRange number cause := by
  unfold lineResponses at h
  split at h
  · next hline =>
    cases h
    exact .inl ⟨parseLine_eq_none_iff.mp hline, rfl⟩
  · cases h
  · next reading hline =>
    split at h
    · next cause hresponse =>
      cases h
      refine .inr ⟨some reading, cause, parseLine_eq_some_iff.mp hline, fun hrange => ?_, rfl⟩
      obtain ⟨r, hok⟩ := exists_response_eq_ok_iff.mpr hrange
      cases hresponse.symm.trans hok
    · cases h

/-! ### Lines in order -/

theorem exists_parseFrom_eq_ok_iff (number : Nat) {lines : List (List Char)} :
    (∃ rs, parseFrom number lines = .ok rs) ↔ ∀ line ∈ lines, IsTraceLine line := by
  induction lines generalizing number with
  | nil => exact iff_of_true ⟨[], rfl⟩ nofun
  | cons line rest ih =>
    rw [List.forall_mem_cons, parseFrom_cons, ← exists_lineResponses_eq_ok_iff number,
      ← ih (number + 1)]
    constructor
    · rintro ⟨rs, h⟩
      obtain ⟨given, hline, hmap⟩ := Expression.bind_eq_ok h
      obtain ⟨rs', hrest, -⟩ := Expression.map_eq_ok hmap
      exact ⟨⟨given, hline⟩, rs', hrest⟩
    · rintro ⟨⟨given, hline⟩, rs, hrest⟩
      exact ⟨given ++ rs, by rw [hline, hrest]; rfl⟩

/-- The responses of a trace show what its lines record, in order. -/
theorem parseFrom_eq_ok {number : Nat} {lines : List (List Char)} {rs : List Response}
    (h : parseFrom number lines = .ok rs) :
    ∃ readings, List.Forall₂ Records readings lines ∧
      List.Forall₂ Reading.ShownBy (readings.filterMap id) rs := by
  induction lines generalizing number rs with
  | nil =>
    cases h
    exact ⟨[], .nil, .nil⟩
  | cons line rest ih =>
    rw [parseFrom_cons] at h
    obtain ⟨given, hline, hmap⟩ := Expression.bind_eq_ok h
    obtain ⟨rs', hrest, rfl⟩ := Expression.map_eq_ok hmap
    obtain ⟨r, hrecords, hgiven⟩ := lineResponses_eq_ok hline
    obtain ⟨readings, hlines, hshown⟩ := ih hrest
    refine ⟨r :: readings, .cons hrecords hlines, ?_⟩
    have hfilter : (r :: readings).filterMap id = r.toList ++ readings.filterMap id := by
      cases r with
      | none => rfl
      | some reading => rfl
    rw [hfilter]
    exact List.rel_append hgiven hshown

/-- The error of a trace is that of its first offending line; all lines before it are counted. -/
theorem exists_offending_line {number : Nat} {lines : List (List Char)} {e : TraceError}
    (h : parseFrom number lines = .error e) :
    ∃ front line back, lines = front ++ line :: back ∧ (∀ l ∈ front, IsTraceLine l) ∧
      lineResponses (number + front.length) line = .error e := by
  induction lines generalizing number with
  | nil => cases h
  | cons line rest ih =>
    rw [parseFrom_cons] at h
    cases hline : lineResponses number line with
    | error e' =>
      rw [hline] at h
      cases h
      exact ⟨[], line, rest, rfl, nofun, hline⟩
    | ok given =>
      rw [hline, Expression.ok_bind] at h
      have hrest : parseFrom (number + 1) rest = .error e := Device.map_eq_error_iff.mp h
      obtain ⟨front, line', back, rfl, hfront, hoffends⟩ := ih hrest
      have hnumber : number + 1 + front.length = number + (line :: front).length := by
        rw [List.length_cons]
        omega
      refine ⟨line :: front, line', back, rfl, ?_, hnumber ▸ hoffends⟩
      rw [List.forall_mem_cons]
      exact ⟨(exists_lineResponses_eq_ok_iff _).mp ⟨given, hline⟩, hfront⟩

end Trace

/-! ### Traces -/

namespace Replay

open Trace

theorem exists_ofTrace_eq_ok_iff {source : String} :
    (∃ replay, ofTrace source = .ok replay) ↔
      ∀ line ∈ Text.lines source.toList, IsTraceLine line := by
  rw [← exists_parseFrom_eq_ok_iff 1]
  constructor
  · rintro ⟨replay, h⟩
    exact ⟨replay.responses, (ofTrace_eq_ok h).1⟩
  · rintro ⟨rs, hparse⟩
    exact ⟨⟨rs, 0⟩, by rw [ofTrace, parse, hparse]; rfl⟩

/-- **Traces.**  A text is a trace exactly if each of its lines has the form of a trace line, with a
number in range if it has one.  The replay then holds the responses that the lines record, in order.
Otherwise the first line that offends gives the error, under its number among all lines. -/
theorem ofTrace_by_lines (source : String) :
    ((∃ replay, ofTrace source = .ok replay) ↔
      ∀ line ∈ Text.lines source.toList, ∃ r, Records r line ∧ InRange r) ∧
    (∀ replay, ofTrace source = .ok replay →
      ∃ readings, List.Forall₂ Records readings (Text.lines source.toList) ∧
        List.Forall₂ Reading.ShownBy (readings.filterMap id) replay.responses ∧
        replay.consumed = 0) ∧
    ∀ e, ofTrace source = .error e →
      ∃ front line back, Text.lines source.toList = front ++ line :: back ∧
        (∀ l ∈ front, ∃ r, Records r l ∧ InRange r) ∧
        (((¬∃ r, Records r line) ∧ e.failure.message = "invalid trace line " ++
            Nat.repr (front.length + 1) ++ ": " ++ Text.quoted (String.ofList line)) ∨
          ∃ r, Records r line ∧ ¬InRange r ∧
            e.failure.message = "value out of range on trace line " ++
              Nat.repr (front.length + 1)) := by
  refine ⟨exists_ofTrace_eq_ok_iff, fun replay h => ?_, fun e h => ?_⟩
  · obtain ⟨hparse, hconsumed⟩ := ofTrace_eq_ok h
    obtain ⟨readings, hlines, hshown⟩ := parseFrom_eq_ok hparse
    exact ⟨readings, hlines, hshown, hconsumed⟩
  · have hparse : parseFrom 1 (Text.lines source.toList) = .error e := Device.map_eq_error_iff.mp h
    obtain ⟨front, line, back, hsplit, hfront, hline⟩ := exists_offending_line hparse
    rw [Nat.add_comm] at hline
    refine ⟨front, line, back, hsplit, hfront, ?_⟩
    rcases lineResponses_eq_error hline with ⟨hno, rfl⟩ | ⟨r, cause, hrecords, hrange, rfl⟩
    · exact .inl ⟨hno, rfl⟩
    · exact .inr ⟨r, hrecords, hrange, rfl⟩

theorem ofTrace_commented_run :
    (∃ readings, List.Forall₂ Records readings
        (Text.lines "# run\n 14\r\n\n\tfault # x\n-007".toList) ∧
      List.Forall₂ Reading.ShownBy (readings.filterMap id) [⟨false, 14⟩, ⟨true, 0⟩, ⟨false, -7⟩]) ∧
    ofTrace "1\n\n9223372036854775808\nbogus" = .error (.outOfRange 3 .tooLarge) ∧
    ∃ front line back,
      Text.lines "1\n\n9223372036854775808\nbogus".toList = front ++ line :: back ∧
      (∀ l ∈ front, ∃ r, Records r l ∧ InRange r) ∧ ¬∃ r, Records r line ∧ InRange r := by
  constructor
  · obtain ⟨-, hok, -⟩ := ofTrace_by_lines "# run\n 14\r\n\n\tfault # x\n-007"
    obtain ⟨readings, hlines, hshown, -⟩ :=
      hok ⟨[⟨false, 14⟩, ⟨true, 0⟩, ⟨false, -7⟩], 0⟩ (by decide)
    exact ⟨readings, hlines, hshown⟩
  · have hout : ofTrace "1\n\n9223372036854775808\nbogus" = .error (.outOfRange 3 .tooLarge) := by
      decide
    obtain ⟨-, -, herror⟩ := ofTrace_by_lines "1\n\n9223372036854775808\nbogus"
    obtain ⟨front, line, back, hsplit, hfront, hline⟩ := herror _ hout
    refine ⟨hout, front, line, back, hsplit, hfront, ?_⟩
    rintro ⟨r, hrecords, hrange⟩
    cases hline with
    | inl hinvalid => exact hinvalid.1 ⟨r, hrecords⟩
    | inr hlarge =>
      obtain ⟨r', hrecords', hrange', -⟩ := hlarge
      exact hrange' (hrecords.unique hrecords' ▸ hrange)

end Replay

end CalcBench
