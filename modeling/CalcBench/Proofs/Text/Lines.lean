import CalcBench.Text.Reading
import Mathlib.Data.List.TakeWhile
import Mathlib.Tactic.Common

/-!
# CalcBench.Proofs.Text.Lines — cutting what was put together line by line

Lines without line breaks of their own, each ended by a line feed, are cut as they were put together.
Behind a line end the cutting starts anew.
-/

namespace CalcBench.Text

/-- A text that a line feed ends is the first line, unless it breaks before. -/
theorem lines_append_newline {line : List Char} (hn : '\n' ∉ line) (hr : '\r' ∉ line)
    (rest : List Char) : lines (line ++ '\n' :: rest) = line :: lines rest := by
  induction line with
  | nil => rfl
  | cons c line ih =>
    have hcn : c ≠ '\n' := fun h => hn (h ▸ List.mem_cons_self)
    have hcr : c ≠ '\r' := fun h => hr (h ▸ List.mem_cons_self)
    have hline := ih (fun h => hn (List.mem_cons_of_mem c h)) (fun h => hr (List.mem_cons_of_mem c h))
    rw [List.cons_append, lines]
    · rw [hline]
    · exact fun h => hcn h
    · exact fun _ h _ => hcr h

/-- Lines put together are cut apart as they were. -/
theorem lines_flatMap {ls : List (List Char)} (h : ∀ l ∈ ls, '\n' ∉ l ∧ '\r' ∉ l) :
    lines (ls.flatMap (· ++ ['\n'])) = ls := by
  induction ls with
  | nil => rfl
  | cons l ls ih =>
    obtain ⟨hn, hr⟩ := h l List.mem_cons_self
    rw [List.flatMap_cons, List.append_assoc, List.singleton_append, lines_append_newline hn hr,
      ih fun l' hl' => h l' (List.mem_cons_of_mem l hl')]

theorem newline_notMem_of_mem_lines {text line : List Char} (h : line ∈ lines text) :
    '\n' ∉ line := by
  fun_induction lines text generalizing line with
  | case1 => cases h
  | case2 rest ih =>
    rcases List.mem_cons.mp h with rfl | h
    · exact List.not_mem_nil
    · exact ih h
  | case3 rest ih =>
    rcases List.mem_cons.mp h with rfl | h
    · exact List.not_mem_nil
    · exact ih h
  | case4 c rest hc _ _ _ =>
    rw [List.mem_singleton.mp h, List.mem_singleton]
    exact fun heq => hc heq.symm
  | case5 c rest hc _ first others hrest ih =>
    rw [hrest] at ih
    rcases List.mem_cons.mp h with rfl | h
    · rw [List.mem_cons, not_or]
      exact ⟨fun heq => hc heq.symm, ih List.mem_cons_self⟩
    · exact ih (List.mem_cons_of_mem first h)

/-! ### Texts in two parts -/

/-- The text is empty, or it ends with a line. -/
def EndsLine (text : List Char) : Prop := text = [] ∨ text.getLast? = some '\n'

theorem EndsLine.tail {c : Char} {rest : List Char} (h : EndsLine (c :: rest)) : EndsLine rest := by
  cases rest with
  | nil => exact .inl rfl
  | cons d rest => exact .inr (h.resolve_left (List.cons_ne_nil _ _))

theorem lines_ne_nil {text : List Char} (h : text ≠ []) : lines text ≠ [] := by
  fun_cases lines text with
  | case1 => exact absurd rfl h
  | case2 rest => exact List.cons_ne_nil _ _
  | case3 rest => exact List.cons_ne_nil _ _
  | case4 c rest _ _ _ => exact List.cons_ne_nil _ _
  | case5 c rest _ _ first others _ => exact List.cons_ne_nil _ _

/-- Behind a line end the lines are those of the rest alone. -/
theorem lines_append {front : List Char} (h : EndsLine front) (back : List Char) :
    lines (front ++ back) = lines front ++ lines back := by
  fun_induction lines front with
  | case1 => rfl
  | case2 rest ih => rw [List.cons_append, lines, ih h.tail, List.cons_append]
  | case3 rest ih => rw [List.cons_append, List.cons_append, lines, ih h.tail.tail, List.cons_append]
  | case4 c rest hn _ hrest _ =>
    -- a character that is no line feed does not end a line
    obtain rfl : rest = [] := by
      by_contra hne
      exact lines_ne_nil hne hrest
    exact absurd (Option.some.inj (h.resolve_left (List.cons_ne_nil _ _))) hn
  | case5 c rest hn hr first others hrest ih =>
    have hbreak : ∀ rest', c = '\r' → rest ++ back = '\n' :: rest' → False := by
      intro rest' hc heq
      cases rest with
      | nil => cases hrest
      | cons d rest =>
        obtain ⟨rfl, -⟩ := List.cons.inj heq
        exact hr rest hc rfl
    rw [List.cons_append, lines, ih h.tail, hrest]
    · rfl
    · exact hn
    · exact hbreak

/-- A text that is empty or ends with a line feed and another text have the lines of each. -/
theorem expressionLines_append {front : String} (h : front = "" ∨ ∃ body, front = body ++ "\n")
    (back : String) :
    expressionLines (front ++ back) = expressionLines front ++ expressionLines back := by
  have hends : EndsLine front.toList := by
    rcases h with rfl | ⟨body, rfl⟩
    · exact .inl rfl
    · right
      rw [String.toList_append]
      exact List.getLast?_concat
  rw [expressionLines, String.toList_append, lines_append hends, List.filter_append, List.map_append]
  rfl

/-! ### Blank lines -/

/-- A line without the white space at its two ends. -/
def trimmed (line : List Char) : List Char :=
  ((line.dropWhile isWhiteSpace).reverse.dropWhile isWhiteSpace).reverse

theorem trimmed_eq_nil_iff {line : List Char} : trimmed line = [] ↔ isBlankLine line := by
  have hblank : isBlankLine line = true ↔ line.dropWhile isWhiteSpace = [] := by
    rw [isBlankLine, List.all_eq_true, List.dropWhile_eq_nil_iff]
  rw [hblank, trimmed, List.reverse_eq_nil_iff, List.dropWhile_eq_nil_iff]
  constructor
  · intro hall
    by_contra hne
    -- what is left starts with a character that is not white
    have hhead := List.head_dropWhile_not isWhiteSpace hne
    rw [hall _ (List.mem_reverse.mpr (List.head_mem hne))] at hhead
    cases hhead
  · intro hnil
    rw [hnil]
    exact fun c hc => nomatch hc

/-- The lines of a file that hold an expression are those of which something is left when the white
space at their ends is gone. -/
theorem expressionLines_eq (source : String) :
    expressionLines source =
      ((lines source.toList).filter (trimmed · ≠ [])).map String.ofList := by
  rw [expressionLines]
  congr 2
  funext line
  rw [Bool.eq_iff_iff, Bool.not_eq_true', decide_eq_true_iff, Ne, trimmed_eq_nil_iff,
    Bool.not_eq_true]

end CalcBench.Text
