import CalcBench.CommandLine.Disk
import Mathlib.Data.List.TakeWhile
import Mathlib.Tactic.Common

/-!
# CalcBench.Proofs.CommandLine.Path — the last name of a path and its extension

A path is the way to a directory and a last name, in one way only.  Setting an extension changes every
path with a name but those that have it.
-/

namespace CalcBench.CommandLine.Path

/-! ### Stems -/

/-- The stem of a name with an extension is what stands in front of that. -/
theorem stem_append_dot {front extension : List Char} (hfront : front ≠ []) (hdot : '.' ∉ extension) :
    stem (front ++ '.' :: extension) = front := by
  have hreverse : (front ++ '.' :: extension).reverse = extension.reverse ++ '.' :: front.reverse := by
    simp
  have hdrop : (front ++ '.' :: extension).reverse.dropWhile (· != '.') = '.' :: front.reverse := by
    rw [hreverse, List.dropWhile_append_of_pos]
    · rfl
    · intro c hc
      rw [bne_iff_ne]
      rintro rfl
      exact hdot (List.mem_reverse.mp hc)
  obtain ⟨c, rest, hrest⟩ := List.exists_cons_of_ne_nil (mt List.reverse_eq_nil_iff.mp hfront)
  rw [stem, hdrop, hrest]
  exact (congrArg List.reverse hrest.symm).trans (List.reverse_reverse front)

theorem exists_stem_append (name : List Char) : ∃ back, name = stem name ++ back := by
  rw [stem]
  split
  · exact ⟨[], (List.append_nil _).symm⟩
  · exact ⟨[], (List.append_nil _).symm⟩
  · next c front _ hdrop =>
    refine ⟨c :: (name.reverse.takeWhile (· != '.')).reverse, ?_⟩
    calc name = (name.reverse.takeWhile (· != '.') ++ name.reverse.dropWhile (· != '.')).reverse := by
          rw [List.takeWhile_append_dropWhile, List.reverse_reverse]
      _ = front.reverse ++ c :: (name.reverse.takeWhile (· != '.')).reverse := by
          rw [hdrop]
          simp

theorem stem_ne_nil {name : List Char} (h : name ≠ []) : stem name ≠ [] := by
  rw [stem]
  split
  · exact h
  · exact h
  · next hfront _ => exact fun hnil => hfront (List.reverse_eq_nil_iff.mp hnil)

/-- A name is its stem with an extension exactly if it carries that extension. -/
theorem stem_append_dot_eq_self_iff {name extension : List Char} (hname : name ≠ [])
    (hdot : '.' ∉ extension) :
    stem name ++ '.' :: extension = name ↔ ∃ front, front ≠ [] ∧ name = front ++ '.' :: extension := by
  constructor
  · exact fun h => ⟨stem name, stem_ne_nil hname, h.symm⟩
  · rintro ⟨front, hfront, rfl⟩
    rw [stem_append_dot hfront hdot]

/-! ### The last name -/

/-- The path is `front`, which leads to a directory, and then a last name. -/
structure Splits (path : String) (front name : List Char) : Prop where
  toList_eq : path.toList = front ++ name
  front_ends : front = [] ∨ ∃ directory, front = directory ++ ['/']
  slash_notMem : '/' ∉ name

theorem exists_splits (path : String) : ∃ front name, Splits path front name := by
  by_cases h : '/' ∈ path.toList.reverse
  · obtain ⟨name, directory, hpath, hname⟩ := List.eq_append_cons_of_mem h
    refine ⟨directory.reverse ++ ['/'], name.reverse, ?_, .inr ⟨_, rfl⟩, mt List.mem_reverse.mp hname⟩
    rw [← List.reverse_reverse path.toList, hpath]
    simp
  · exact ⟨[], path.toList, rfl, .inl rfl, mt List.mem_reverse.mpr h⟩

namespace Splits

variable {path : String} {front name : List Char}

/-- There is only one way to split a path. -/
theorem eq_takeWhile (h : Splits path front name) :
    (path.toList.reverse.takeWhile (· != '/')).reverse = name ∧
      (path.toList.reverse.dropWhile (· != '/')).reverse = front := by
  have hname : ∀ c ∈ name.reverse, (c != '/') = true := by
    intro c hc
    rw [bne_iff_ne]
    rintro rfl
    exact h.slash_notMem (List.mem_reverse.mp hc)
  rw [h.toList_eq, List.reverse_append, List.takeWhile_append_of_pos hname,
    List.dropWhile_append_of_pos hname]
  rcases h.front_ends with rfl | ⟨directory, rfl⟩
  · simp
  · simp

theorem unique {front' name' : List Char} (h : Splits path front name)
    (h' : Splits path front' name') : front = front' ∧ name = name' :=
  ⟨h.eq_takeWhile.2.symm.trans h'.eq_takeWhile.2, h.eq_takeWhile.1.symm.trans h'.eq_takeWhile.1⟩

end Splits

/-! ### Names in order -/

theorem pieces_ne_nil (text : List Char) : pieces text ≠ [] := by
  cases text with
  | nil => exact List.cons_ne_nil _ _
  | cons c rest =>
    rw [pieces]
    split
    · exact List.cons_ne_nil _ _
    · split <;> exact List.cons_ne_nil _ _

theorem pieces_append_slash (front back : List Char) :
    pieces (front ++ '/' :: back) = pieces front ++ pieces back := by
  induction front with
  | nil => rfl
  | cons c front ih =>
    rw [List.cons_append, pieces, pieces, ih]
    split
    · rfl
    · obtain ⟨first, others, hfirst⟩ := List.exists_cons_of_ne_nil (pieces_ne_nil front)
      rw [hfirst]
      rfl

theorem pieces_of_slash_notMem {name : List Char} (h : '/' ∉ name) : pieces name = [name] := by
  induction name with
  | nil => rfl
  | cons c name ih =>
    obtain ⟨hc, hname⟩ := not_or.mp (mt List.mem_cons.mpr h)
    rw [pieces, if_neg (Ne.symm hc), ih hname]

namespace Splits

variable {path : String} {front name : List Char}

/-- The last name is the last of the names in order. -/
theorem parts_eq (h : Splits path front name) (hname : name ≠ []) :
    parts path = parts (String.ofList front) ++ [String.ofList name] := by
  have hlast : [name].filter (· != []) = [name] := by simp [hname]
  rw [parts, parts, h.toList_eq, String.toList_ofList]
  rcases h.front_ends with rfl | ⟨directory, rfl⟩
  · rw [List.nil_append, pieces_of_slash_notMem h.slash_notMem, hlast]
    rfl
  · rw [List.append_assoc, List.singleton_append, pieces_append_slash, pieces_append_slash,
      pieces_of_slash_notMem h.slash_notMem, List.filter_append, List.filter_append, hlast]
    simp [pieces]

theorem endsInSlash_of_nil (h : Splits path front []) : path = "" ∨ endsInSlash path = true := by
  rcases h.front_ends with rfl | ⟨directory, rfl⟩
  · exact .inl (String.toList_eq_nil_iff.mp h.toList_eq)
  · refine .inr ?_
    rw [endsInSlash, h.toList_eq]
    simp

theorem isAbsolute_eq (h : Splits path front name) :
    isAbsolute path = isAbsolute (String.ofList front) := by
  rw [isAbsolute, isAbsolute, h.toList_eq, String.toList_ofList]
  rcases h.front_ends with rfl | ⟨directory, rfl⟩
  · have hhead : name.head? ≠ some '/' := fun hhead => h.slash_notMem (List.mem_of_head? hhead)
    simpa using hhead
  · rw [List.append_assoc, List.singleton_append, List.head?_append, List.head?_append]
    rfl

end Splits

/-! ### Extensions -/

/-- A text that can be the extension of a name. -/
structure IsExtension (extension : String) : Prop where
  ne_empty : extension ≠ ""
  dot_notMem : '.' ∉ extension.toList
  slash_notMem : '/' ∉ extension.toList

/-- The last name of the path has this extension: there is something in front of the dot. -/
def HasExtension (path extension : String) : Prop :=
  ∃ front stem : String, path = front ++ stem ++ "." ++ extension ∧
    (front = "" ∨ ∃ directory, front = directory ++ "/") ∧ stem ≠ "" ∧ '/' ∉ stem.toList

/-- A name that names something in its directory. -/
def IsProper (name : List Char) : Prop := name ≠ [] ∧ name ≠ ['.'] ∧ name ≠ ['.', '.']

theorem not_isProper_iff {name : List Char} :
    ¬IsProper name ↔ name = [] ∨ name = ['.'] ∨ name = ['.', '.'] := by
  rw [IsProper, not_and_or, not_and_or, not_ne_iff, not_ne_iff, not_ne_iff]

theorem isProper_append_dot {front : List Char} {extension : String} (hfront : front ≠ [])
    (hext : IsExtension extension) : IsProper (front ++ '.' :: extension.toList) := by
  have hlength' := List.length_pos_iff.mpr hfront
  have hlength := List.length_pos_iff.mpr (mt String.toList_eq_nil_iff.mp hext.ne_empty)
  refine ⟨fun h => ?_, fun h => ?_, fun h => ?_⟩ <;>
  · have := congrArg List.length h
    simp only [List.length_append, List.length_cons, List.length_nil] at this
    omega

namespace Splits

variable {path extension : String} {front name : List Char}

theorem hasExtension_iff (h : Splits path front name) (hext : IsExtension extension) :
    HasExtension path extension ↔ ∃ stem, stem ≠ [] ∧ name = stem ++ '.' :: extension.toList := by
  constructor
  · rintro ⟨front', stem, rfl, hends, hstem, hnone⟩
    have hsplits : Splits (front' ++ stem ++ "." ++ extension) front'.toList
        (stem.toList ++ '.' :: extension.toList) := by
      refine ⟨by simp, ?_, ?_⟩
      · rcases hends with rfl | ⟨directory, rfl⟩
        · exact .inl rfl
        · exact .inr ⟨directory.toList, String.toList_append⟩
      · simp [hnone, hext.slash_notMem]
    exact ⟨stem.toList, mt String.toList_eq_nil_iff.mp hstem, (h.unique hsplits).2⟩
  · rintro ⟨stem, hstem, rfl⟩
    refine ⟨String.ofList front, String.ofList stem, ?_, ?_, ?_, ?_⟩
    · rw [← String.toList_inj, h.toList_eq]
      simp
    · rcases h.front_ends with rfl | ⟨directory, rfl⟩
      · exact .inl rfl
      · exact .inr ⟨String.ofList directory, String.ofList_append⟩
    · exact fun hempty => hstem (by simpa using congrArg String.toList hempty)
    · rw [String.toList_ofList]
      exact fun hmem => h.slash_notMem (List.mem_append_left _ hmem)

end Splits

/-! ### What stands behind the last name -/

/-- The names of a path in order, without single dots. -/
def names (path : List Char) : List (List Char) :=
  (pieces path).filter fun name => name != [] && name != ['.']

theorem names_append_slash (front back : List Char) :
    names (front ++ '/' :: back) = names front ++ names back := by
  rw [names, pieces_append_slash, List.filter_append, names, names]

/-- The path has a last name, single dots aside, and that is not two dots. -/
def HasName (path : String) : Prop :=
  ∃ front name, names path.toList = front ++ [name] ∧ name ≠ ['.', '.']

/-- The path up to its last name. -/
def trimmed (path : String) : String := String.ofList (trimTail path.toList.reverse).reverse

theorem toList_trimmed (path : String) : (trimmed path).toList.reverse = trimTail path.toList.reverse := by
  rw [trimmed, String.toList_ofList, List.reverse_reverse]

theorem names_trimTail (chars : List Char) : names (trimTail chars).reverse = names chars.reverse := by
  induction chars using trimTail.induct with
  | case1 rest ih =>
    rw [trimTail, ih, List.reverse_cons, names_append_slash]
    exact (List.append_nil _).symm
  | case2 rest ih =>
    have hreverse : ('.' :: '/' :: rest).reverse = rest.reverse ++ '/' :: ['.'] := by simp
    rw [trimTail, ih, hreverse, names_append_slash]
    exact (List.append_nil _).symm
  | case3 chars hslash hdot => rw [trimTail.eq_3 chars hslash hdot]

theorem names_trimmed (path : String) : names (trimmed path).toList = names path.toList := by
  have h := names_trimTail path.toList.reverse
  rwa [← toList_trimmed, List.reverse_reverse, List.reverse_reverse] at h

theorem trimTail_ne (chars rest : List Char) :
    trimTail chars ≠ '/' :: rest ∧ trimTail chars ≠ '.' :: '/' :: rest := by
  induction chars using trimTail.induct with
  | case1 chars ih => rwa [trimTail]
  | case2 chars ih => rwa [trimTail]
  | case3 chars hslash hdot =>
    rw [trimTail.eq_3 chars hslash hdot]
    exact ⟨hslash rest, hdot rest⟩

namespace Splits

variable {path extension : String} {front name : List Char}

theorem trimmed_eq (h : Splits path front name) (hname : IsProper name) : trimmed path = path := by
  have hslash : ∀ rest, path.toList.reverse ≠ '/' :: rest := by
    intro rest hrest
    have hempty := h.eq_takeWhile.1
    rw [hrest] at hempty
    exact hname.1 hempty.symm
  have hdot : ∀ rest, path.toList.reverse ≠ '.' :: '/' :: rest := by
    intro rest hrest
    have hsingle := h.eq_takeWhile.1
    rw [hrest] at hsingle
    exact hname.2.1 hsingle.symm
  rw [trimmed, trimTail.eq_3 _ hslash hdot, List.reverse_reverse, String.ofList_toList]

theorem trim (h : Splits path front name) (hname : IsProper name) :
    Splits (trimmed path) front name := (h.trimmed_eq hname).symm ▸ h

theorem front_eq_nil_of_trimmed (h : Splits (trimmed path) front name) (hname : name = [] ∨ name = ['.']) :
    front = [] := by
  rcases h.front_ends with hfront | ⟨directory, rfl⟩
  · exact hfront
  have hchars : trimTail path.toList.reverse = name.reverse ++ '/' :: directory.reverse := by
    rw [← toList_trimmed, h.toList_eq]
    simp
  rcases hname with rfl | rfl
  · exact absurd hchars (trimTail_ne _ _).1
  · exact absurd hchars (trimTail_ne _ _).2

theorem names_eq (h : Splits path front name) (hname : name ≠ []) (hdot : name ≠ ['.']) :
    names path.toList = names front ++ [name] := by
  have hlast : names name = [name] := by
    rw [names, pieces_of_slash_notMem h.slash_notMem]
    simp [hname, hdot]
  rw [h.toList_eq]
  rcases h.front_ends with rfl | ⟨directory, rfl⟩
  · exact hlast
  · rw [List.append_assoc, List.singleton_append, names_append_slash, names_append_slash, hlast]
    exact congrArg (· ++ [name]) (List.append_nil _).symm

theorem hasName_iff (h : Splits (trimmed path) front name) : HasName path ↔ IsProper name := by
  rw [HasName, ← names_trimmed]
  by_cases hnone : name = [] ∨ name = ['.']
  · have hempty : names (trimmed path).toList = [] := by
      rw [h.toList_eq, h.front_eq_nil_of_trimmed hnone, List.nil_append]
      rcases hnone with rfl | rfl <;> rfl
    rw [hempty]
    refine iff_of_false ?_ fun hname => hnone.elim hname.1 hname.2.1
    rintro ⟨front', name', heq, -⟩
    exact List.append_ne_nil_of_right_ne_nil _ (List.cons_ne_nil _ _) heq.symm
  · obtain ⟨hname, hdot⟩ := not_or.mp hnone
    rw [h.names_eq hname hdot]
    constructor
    · rintro ⟨front', name', heq, hdots⟩
      obtain ⟨-, hlast⟩ := List.append_inj' heq rfl
      exact ⟨hname, hdot, List.singleton_inj.mp hlast ▸ hdots⟩
    · exact fun hproper => ⟨names front, name, rfl, hproper.2.2⟩

theorem withExtension_eq (h : Splits (trimmed path) front name) :
    withExtension path extension =
      if name = [] ∨ name = ['.'] ∨ name = ['.', '.'] then path
      else String.ofList (front ++ stem name ++ '.' :: extension.toList) := by
  obtain ⟨hname, hfront⟩ := h.eq_takeWhile
  rw [toList_trimmed] at hname hfront
  simp only [Path.withExtension, hname, hfront]

/-- With another extension the path leads to the same directory. -/
theorem withExtension (h : Splits (trimmed path) front name) (hname : IsProper name)
    (hext : IsExtension extension) :
    Splits (withExtension path extension) front (stem name ++ '.' :: extension.toList) := by
  refine ⟨?_, h.front_ends, ?_⟩
  · rw [h.withExtension_eq, if_neg (mt not_isProper_iff.mpr (not_not.mpr hname)),
      String.toList_ofList, List.append_assoc]
  · obtain ⟨back, hback⟩ := exists_stem_append name
    have hstem : '/' ∉ stem name := fun hmem =>
      h.slash_notMem (hback ▸ List.mem_append_left back hmem)
    simp [hstem, hext.slash_notMem]

end Splits

/-- Setting an extension leaves a path as it is exactly if its last name has that extension, or there is
no name to carry one. -/
theorem withExtension_eq_self_iff {path extension : String} (hext : IsExtension extension) :
    withExtension path extension = path ↔ HasExtension path extension ∨ ¬HasName path := by
  obtain ⟨front, name, hsplits⟩ := exists_splits (trimmed path)
  rw [hsplits.hasName_iff]
  by_cases hname : IsProper name
  · have hset := hsplits.withExtension hname hext
    constructor
    · intro heq
      rw [heq] at hset
      exact .inl ((hset.hasExtension_iff hext).mpr ⟨_, stem_ne_nil hname.1, rfl⟩)
    · rintro (hhas | hno)
      · obtain ⟨front', name', hpath⟩ := exists_splits path
        obtain ⟨stem', hstem, rfl⟩ := (hpath.hasExtension_iff hext).mp hhas
        have hproper := isProper_append_dot hstem hext
        rw [hpath.trimmed_eq hproper] at hsplits
        obtain ⟨rfl, rfl⟩ := hsplits.unique hpath
        rw [stem_append_dot hstem hext.dot_notMem] at hset
        rw [← String.toList_inj, hset.toList_eq, hpath.toList_eq]
      · exact absurd hname hno
  · have hkept : withExtension path extension = path :=
      hsplits.withExtension_eq.trans (if_pos (not_isProper_iff.mp hname))
    exact iff_of_true hkept (.inr hname)

end CalcBench.CommandLine.Path
