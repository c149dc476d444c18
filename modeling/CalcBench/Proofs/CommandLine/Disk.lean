import CalcBench.CommandLine.Disk
import CalcBench.Proofs.CommandLine.Path

/-!
# CalcBench.Proofs.CommandLine.Disk — one file is written, the others stay

A text that is written over a file is read from it.  At other places files and directories stay, and so
do the ways to them; a file with another extension is at another place.
-/

namespace CalcBench.CommandLine.Disk

open CalcBench.CommandLine.Path

variable {d d' : Disk} {place place' other : List String} {bytes : ByteArray} {path text : String}

/-! ### One file set -/

/-- The file with its bytes replaced, if it is the one. -/
def replaced (place : List String) (bytes : ByteArray) (file : List String × ByteArray) :
    List String × ByteArray :=
  if file.1 == place then (place, bytes) else file

theorem replaced_fst (place : List String) (bytes : ByteArray) (file : List String × ByteArray) :
    (replaced place bytes file).1 = file.1 := by
  rw [replaced]
  split
  · next h => exact (beq_iff_eq.mp h).symm
  · rfl

theorem find?_map_replaced (files : List (List String × ByteArray)) (place other : List String)
    (bytes : ByteArray) :
    ((files.map (replaced place bytes)).find? (·.1 == other)).map (·.2) =
      if other = place then (files.find? (·.1 == other)).map fun _ => bytes
      else (files.find? (·.1 == other)).map (·.2) := by
  have hkeep : (·.1 == other) ∘ replaced place bytes = (·.1 == other) := by
    funext file
    rw [Function.comp_apply, replaced_fst]
  rw [List.find?_map, hkeep]
  cases hother : files.find? (·.1 == other) with
  | none => exact (ite_self none).symm
  | some file =>
    have hfile : file.1 = other := by simpa using List.find?_some hother
    rw [← hfile, Option.map_some, Option.map_some, replaced]
    by_cases h : file.1 = place
    · simp [h]
    · simp [h]

theorem content?_set (hnull : place ≠ nullDevice) (other : List String) :
    (d.set place bytes).content? other = if other = place then some bytes else d.content? other := by
  by_cases hother : other = nullDevice
  · rw [content?, content?, if_pos hother, if_pos hother, if_neg (hother ▸ hnull.symm)]
  rw [set, if_neg hnull, content?, content?, content?, if_neg hnull, if_neg hother, if_neg hother]
  cases hplace : d.files.find? (·.1 == place) with
  | none =>
    simp only [Option.map_none, Option.isSome_none, Bool.false_eq_true, if_false, List.find?_append]
    by_cases h : other = place
    · simp [h, hplace]
    · simp [h, Ne.symm h]
  | some file =>
    refine (find?_map_replaced d.files place other bytes).trans ?_
    by_cases h : other = place
    · rw [if_pos h, if_pos h, h, hplace, Option.map_some]
    · rw [if_neg h, if_neg h]

theorem set_workingDirectory (d : Disk) (place : List String) (bytes : ByteArray) :
    (d.set place bytes).workingDirectory = d.workingDirectory := by
  rw [set]
  split
  · rfl
  split <;> rfl

theorem places_set (d : Disk) (place : List String) (bytes : ByteArray) :
    (d.set place bytes).files.map (·.1) = d.files.map (·.1) ∨
      (d.set place bytes).files.map (·.1) = d.files.map (·.1) ++ [place] := by
  have hkeep : (·.1) ∘ replaced place bytes = (·.1) := funext (replaced_fst place bytes)
  rw [set]
  split
  · exact .inl rfl
  split
  · exact .inl (List.map_map.trans (congrArg (d.files.map ·) hkeep))
  · exact .inr List.map_append

/-! ### Directories -/

theorem isDirectory_iff : d.isDirectory place = true ↔ place <+: d.workingDirectory ∨
    ∃ file ∈ nullDevice :: d.files.map (·.1), place <+: file ∧ place ≠ file := by
  simp [isDirectory, List.isPrefixOf_iff_prefix]

/-- What is above a directory is one. -/
theorem isDirectory_of_prefix (hbelow : other <+: place) (h : d.isDirectory place = true) :
    d.isDirectory other = true := by
  rw [isDirectory_iff] at h ⊢
  refine h.imp hbelow.trans ?_
  rintro ⟨file, hfile, hplace, hne⟩
  refine ⟨file, hfile, hbelow.trans hplace, ?_⟩
  rintro rfl
  exact hne (hplace.eq_of_length_le hbelow.length_le)

theorem isDirectory_dropLast (h : d.isDirectory place = true) : d.isDirectory place.dropLast = true :=
  isDirectory_of_prefix place.dropLast_prefix h

theorem prefix_dropLast_of_ne {names front : List String} (h : front <+: names) (hne : front ≠ names) :
    front <+: names.dropLast := by
  rcases names.eq_nil_or_concat with rfl | ⟨directory, name, rfl⟩
  · exact absurd (List.prefix_nil.mp h) hne
  · rw [List.concat_eq_append] at h hne ⊢
    rw [List.dropLast_concat]
    exact (List.prefix_concat_iff.mp h).resolve_left hne

/-- A file set in a directory makes and removes no directory. -/
theorem isDirectory_set (hparent : d.isDirectory place.dropLast = true) (other : List String) :
    (d.set place bytes).isDirectory other = d.isDirectory other := by
  rw [Bool.eq_iff_iff, isDirectory_iff, set_workingDirectory]
  rcases places_set d place bytes with hsame | hnew
  · rw [hsame, isDirectory_iff]
  rw [hnew]
  constructor
  · rintro (hwork | ⟨file, hfile, hbelow, hne⟩)
    · exact isDirectory_iff.mpr (.inl hwork)
    rw [← List.cons_append, List.mem_append, List.mem_singleton] at hfile
    rcases hfile with hold | rfl
    · exact isDirectory_iff.mpr (.inr ⟨file, hold, hbelow, hne⟩)
    · exact isDirectory_of_prefix (prefix_dropLast_of_ne hbelow hne) hparent
  · intro h
    refine (isDirectory_iff.mp h).imp_right ?_
    rintro ⟨file, hfile, hbelow⟩
    exact ⟨file, List.mem_append_left [place] hfile, hbelow⟩

/-! ### Ways -/

theorem enter_eq_ok_iff : d.enter place = .ok () ↔ d.isDirectory place = true := by
  rw [enter]
  cases d.isDirectory place <;> cases (d.content? place).isSome <;> simp

theorem walk_cons_eq_ok_iff {name : String} {rest : List String} :
    d.walk place (name :: rest) = .ok place' ↔
      d.isDirectory place = true ∧ ∃ mid, step place name = .ok mid ∧ d.walk mid rest = .ok place' := by
  rw [walk, ← enter_eq_ok_iff]
  cases d.enter place with
  | error e => exact iff_of_false nofun nofun
  | ok u =>
    cases hstep : step place name with
    | error e => exact iff_of_false nofun (by rintro ⟨-, mid, h, -⟩; cases h)
    | ok mid => exact ⟨fun h => ⟨rfl, mid, rfl, h⟩, fun ⟨_, _, h, hrest⟩ => by cases h; exact hrest⟩

theorem walk_append_eq_ok_iff {front back : List String} :
    d.walk place (front ++ back) = .ok place' ↔
      ∃ mid, d.walk place front = .ok mid ∧ d.walk mid back = .ok place' := by
  induction front generalizing place with
  | nil => exact ⟨fun h => ⟨place, rfl, h⟩, fun ⟨_, h, hback⟩ => by cases h; exact hback⟩
  | cons name front ih =>
    rw [List.cons_append, walk_cons_eq_ok_iff]
    simp only [walk_cons_eq_ok_iff, ih]
    constructor
    · rintro ⟨hdir, first, hstep, mid, hfront, hback⟩
      exact ⟨mid, ⟨hdir, first, hstep, hfront⟩, hback⟩
    · rintro ⟨mid, ⟨hdir, first, hstep, hfront⟩, hback⟩
      exact ⟨hdir, first, hstep, mid, hfront, hback⟩

theorem walk_of_isDirectory (h : ∀ other, d.isDirectory other = true → d'.isDirectory other = true)
    {names : List String} (hwalk : d.walk place names = .ok place') :
    d'.walk place names = .ok place' := by
  induction names generalizing place with
  | nil => exact hwalk
  | cons name rest ih =>
    obtain ⟨hdir, mid, hstep, hrest⟩ := walk_cons_eq_ok_iff.mp hwalk
    exact walk_cons_eq_ok_iff.mpr ⟨h place hdir, mid, hstep, ih hrest⟩

theorem step_parent {name : String} (hdir : d.isDirectory place = true)
    (hstep : step place name = .ok place') : d.isDirectory place'.dropLast = true := by
  rw [step] at hstep
  split at hstep
  · cases hstep
    exact isDirectory_dropLast hdir
  split at hstep
  · cases hstep
    exact isDirectory_dropLast (isDirectory_dropLast hdir)
  split at hstep
  · cases hstep
  · cases hstep
    rwa [List.dropLast_concat]

theorem walk_parent (h : d.isDirectory place.dropLast = true) {names : List String}
    (hwalk : d.walk place names = .ok place') : d.isDirectory place'.dropLast = true := by
  induction names generalizing place with
  | nil =>
    cases hwalk
    exact h
  | cons name rest ih =>
    obtain ⟨hdir, mid, hstep, hrest⟩ := walk_cons_eq_ok_iff.mp hwalk
    exact ih (step_parent hdir hstep) hrest

/-! ### Places of paths -/

theorem isDirectory_start (d : Disk) (path : String) : d.isDirectory (d.start path) = true := by
  rw [isDirectory_iff, start]
  split
  · exact .inl (List.nil_prefix)
  · exact .inl (List.prefix_refl _)

theorem route_eq_ok_iff {found : List String × List String} :
    d.route path = .ok found ↔
      path ≠ "" ∧ path.utf8ByteSize ≤ maxPathBytes ∧ found = (d.start path, parts path) := by
  unfold route
  split
  · next hempty => exact iff_of_false nofun fun h => h.1 hempty
  split
  · next hlong => exact iff_of_false nofun fun h => Nat.not_le_of_lt hlong h.2.1
  · next hpath hshort =>
    exact ⟨fun h => ⟨hpath, Nat.le_of_not_lt hshort, (Except.ok.inj h).symm⟩,
      fun h => congrArg Except.ok h.2.2.symm⟩

theorem locate_eq_ok_iff : d.locate path = .ok place ↔
    path ≠ "" ∧ path.utf8ByteSize ≤ maxPathBytes ∧ d.walk (d.start path) (parts path) = .ok place := by
  rw [locate]
  constructor
  · intro h
    cases hroute : d.route path with
    | error e =>
      rw [hroute] at h
      cases h
    | ok found =>
      obtain ⟨hpath, hshort, rfl⟩ := route_eq_ok_iff.mp hroute
      rw [hroute] at h
      exact ⟨hpath, hshort, h⟩
  · rintro ⟨hpath, hshort, hwalk⟩
    rw [route_eq_ok_iff.mpr ⟨hpath, hshort, rfl⟩]
    exact hwalk

/-- **What a path leads to lies in a directory.** -/
theorem locate_parent (h : d.locate path = .ok place) : d.isDirectory place.dropLast = true :=
  walk_parent (isDirectory_dropLast (isDirectory_start d path)) (locate_eq_ok_iff.mp h).2.2

theorem locate_set (hparent : d.isDirectory other.dropLast = true) (h : d.locate path = .ok place) :
    (d.set other bytes).locate path = .ok place := by
  obtain ⟨hpath, hshort, hwalk⟩ := locate_eq_ok_iff.mp h
  refine locate_eq_ok_iff.mpr ⟨hpath, hshort, ?_⟩
  have hstart : (d.set other bytes).start path = d.start path := by
    rw [start, start, set_workingDirectory]
  rw [hstart]
  exact walk_of_isDirectory (fun front hfront => (isDirectory_set hparent front).trans hfront) hwalk

theorem eq_concat_of_step {name : List Char} (hname : IsProper name)
    (h : step place (String.ofList name) = .ok place') : place' = place ++ [String.ofList name] := by
  have hdot : String.ofList name ≠ "." := fun heq => hname.2.1 (String.ofList_injective heq)
  have hdots : String.ofList name ≠ ".." := fun heq => hname.2.2 (String.ofList_injective heq)
  rw [step, if_neg hdot, if_neg hdots] at h
  split at h
  · cases h
  · exact (Except.ok.inj h).symm

/-- A path to a proper name goes to a directory first. -/
theorem eq_concat_of_locate {front name : List Char} (hsplits : Splits path front name)
    (hname : IsProper name) (h : d.locate path = .ok place) :
    ∃ directory, d.walk (d.start (String.ofList front)) (parts (String.ofList front)) = .ok directory ∧
      place = directory ++ [String.ofList name] := by
  have hstart : d.start path = d.start (String.ofList front) := by
    rw [start, start, hsplits.isAbsolute_eq]
  obtain ⟨-, -, hwalk⟩ := locate_eq_ok_iff.mp h
  rw [hsplits.parts_eq hname.1, hstart] at hwalk
  obtain ⟨directory, hfront, hlast⟩ := walk_append_eq_ok_iff.mp hwalk
  obtain ⟨-, mid, hstep, hmid⟩ := walk_cons_eq_ok_iff.mp hlast
  cases hmid
  exact ⟨directory, hfront, eq_concat_of_step hname hstep⟩

/-! ### Files that are read and written -/

theorem read_eq_ok_iff : d.read path = .ok bytes ↔ endsInSlash path = false ∧
    ∃ place, d.locate path = .ok place ∧ d.isDirectory place = false ∧ d.content? place = some bytes := by
  rw [read]
  cases d.locate path with
  | error e => exact iff_of_false nofun (by rintro ⟨-, _, h, -⟩; cases h)
  | ok place =>
    rw [Except.bind]
    cases hdir : d.isDirectory place with
    | true => simp [hdir]
    | false =>
      cases hcontent : d.content? place with
      | some old => cases endsInSlash path <;> simp [hdir, hcontent]
      | none => simp [hdir, hcontent]

theorem exists_read_of_readText (h : d.readText path = .ok text) : ∃ bytes, d.read path = .ok bytes := by
  rw [readText] at h
  cases hread : d.read path with
  | error e =>
    rw [hread] at h
    cases h
  | ok bytes => exact ⟨bytes, rfl⟩

/-- **What can be read has a proper name**: other paths lead to directories. -/
theorem isProper_of_read (h : d.read path = .ok bytes) {front name : List Char}
    (hsplits : Splits path front name) : IsProper name := by
  obtain ⟨hslash, place, hplace, hfile, -⟩ := read_eq_ok_iff.mp h
  obtain ⟨hpath, -, hwalk⟩ := locate_eq_ok_iff.mp hplace
  have hname : name ≠ [] := by
    rintro rfl
    rcases hsplits.endsInSlash_of_nil with hempty | hends
    · exact hpath hempty
    · exact Bool.false_ne_true (hslash.symm.trans hends)
  rw [hsplits.parts_eq hname] at hwalk
  obtain ⟨directory, -, hlast⟩ := walk_append_eq_ok_iff.mp hwalk
  obtain ⟨hdir, mid, hstep, hmid⟩ := walk_cons_eq_ok_iff.mp hlast
  cases hmid
  -- One dot stays in the directory that was entered, and two go up to another.
  refine ⟨hname, ?_, ?_⟩
  · rintro rfl
    cases hstep
    exact Bool.false_ne_true (hfile.symm.trans hdir)
  · rintro rfl
    cases hstep
    exact Bool.false_ne_true (hfile.symm.trans (isDirectory_dropLast hdir))

theorem hasName_of_read (h : d.read path = .ok bytes) : HasName path := by
  obtain ⟨front, name, hsplits⟩ := exists_splits path
  have hname := isProper_of_read h hsplits
  exact (hsplits.trim hname).hasName_iff.mpr hname

theorem writeText_eq_ok_iff : d.writeText path text = .ok d' ↔ endsInSlash path = false ∧
    ∃ place, d.locate path = .ok place ∧ d.isDirectory place = false ∧ d' = d.set place text.toUTF8 := by
  rw [writeText]
  cases endsInSlash path with
  | true => cases d.enterParent path <;> exact iff_of_false nofun nofun
  | false =>
    cases d.locate path with
    | error e => exact iff_of_false nofun (by rintro ⟨-, _, h, -⟩; cases h)
    | ok place =>
      rw [Except.bind]
      cases hdir : d.isDirectory place with
      | true => simp [hdir]
      | false => simp [hdir, eq_comm (a := d')]

/-- **The frame of a write.**  A file at another place reads as before. -/
theorem read_writeText_of_ne {otherPath : String} (hwrite : d.writeText path text = .ok d')
    (hread : d.read otherPath = .ok bytes) (hne : d.locate path ≠ d.locate otherPath) :
    d'.read otherPath = .ok bytes := by
  obtain ⟨-, place, hplace, -, rfl⟩ := writeText_eq_ok_iff.mp hwrite
  obtain ⟨hslash, other, hother, hfile, hcontent⟩ := read_eq_ok_iff.mp hread
  have hparent := locate_parent hplace
  refine read_eq_ok_iff.mpr ⟨hslash, other, locate_set hparent hother, ?_, ?_⟩
  · rw [isDirectory_set hparent, hfile]
  · by_cases hnull : place = nullDevice
    · rwa [set, if_pos hnull]
    · rw [content?_set hnull, if_neg, hcontent]
      rintro rfl
      exact hne (hplace.trans hother.symm)

/-- Only the file at the path is another one. -/
theorem content?_writeText_of_ne (hwrite : d.writeText path text = .ok d')
    (hne : d'.content? other ≠ d.content? other) :
    d.locate path = .ok other ∧ d'.content? other = some text.toUTF8 := by
  obtain ⟨-, place, hplace, -, rfl⟩ := writeText_eq_ok_iff.mp hwrite
  by_cases hnull : place = nullDevice
  · rw [set, if_pos hnull] at hne
    exact absurd rfl hne
  · rw [content?_set hnull] at hne ⊢
    split at hne
    · next heq => exact ⟨heq ▸ hplace, if_pos heq⟩
    · exact absurd rfl hne

/-- What is written over a file is read from it, unless it is the null device. -/
theorem read_writeText_self (hwrite : d.writeText path text = .ok d')
    (hnull : d.locate path ≠ .ok nullDevice) : d'.read path = .ok text.toUTF8 := by
  obtain ⟨hslash, place, hplace, hfile, rfl⟩ := writeText_eq_ok_iff.mp hwrite
  have hparent := locate_parent hplace
  refine read_eq_ok_iff.mpr ⟨hslash, place, locate_set hparent hplace, ?_, ?_⟩
  · rw [isDirectory_set hparent, hfile]
  · rw [content?_set (fun heq => hnull (heq ▸ hplace)), if_pos rfl]

/-! ### Another extension -/

/-- The null device has no extension. -/
theorem locate_ne_nullDevice {extension : String} (h : HasExtension path extension)
    (hext : IsExtension extension) : d.locate path ≠ .ok nullDevice := by
  intro hnull
  obtain ⟨front, name, hsplits⟩ := exists_splits path
  obtain ⟨stem, hstem, rfl⟩ := (hsplits.hasExtension_iff hext).mp h
  obtain ⟨directory, -, hplace⟩ :=
    eq_concat_of_locate hsplits (isProper_append_dot hstem hext) hnull
  have hsame : ["dev"] ++ ["null"] = directory ++ [String.ofList (stem ++ '.' :: extension.toList)] := hplace
  have hlast := List.singleton_inj.mp (List.append_inj' hsame rfl).2
  have hdot : '.' ∈ "null".toList := by
    rw [hlast, String.toList_ofList]
    simp
  exact absurd hdot (by decide)

/-- **With another extension the file is at another place.** -/
theorem locate_withExtension_ne {extension : String} (h : d.read path = .ok bytes)
    (hext : IsExtension extension) (hother : ¬HasExtension path extension) :
    d.locate (withExtension path extension) ≠ d.locate path := by
  obtain ⟨front, name, hsplits⟩ := exists_splits path
  have hname := isProper_of_read h hsplits
  have hset := (hsplits.trim hname).withExtension hname hext
  have hne : stem name ++ '.' :: extension.toList ≠ name := by
    rw [Ne, stem_append_dot_eq_self_iff hname.1 hext.dot_notMem, ← hsplits.hasExtension_iff hext]
    exact hother
  intro hsame
  obtain ⟨-, place, hplace, -⟩ := read_eq_ok_iff.mp h
  obtain ⟨directory, hfront, hconcat⟩ := eq_concat_of_locate hsplits hname hplace
  obtain ⟨directory', hfront', hconcat'⟩ :=
    eq_concat_of_locate hset (isProper_append_dot (stem_ne_nil hname.1) hext) (hsame.trans hplace)
  cases hfront.symm.trans hfront'
  have hlast := List.append_cancel_left (hconcat'.symm.trans hconcat)
  exact hne (String.ofList_injective (List.singleton_inj.mp hlast))

end CalcBench.CommandLine.Disk
