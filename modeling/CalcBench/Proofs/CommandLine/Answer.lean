import CalcBench.CommandLine.Outcome
import CalcBench.Proofs.CommandLine.Disk

/-!
# CalcBench.Proofs.CommandLine.Answer — what the answer writer does to the files

The answer writer writes one file, which is named after its input if no name is given.  An input that
already has the name of an answer file is the one that is written over.

* `Tool.answer_writes_beside_input`: **the input and the answers**: which file is written, and when that
  is the input.
-/

namespace CalcBench.CommandLine

theorem Path.isExtension_golden : IsExtension "golden" := ⟨by decide, by decide, by decide⟩

namespace Answer

/-- The answers to an input that was read are written, or else nothing is. -/
theorem onDisk_cases {s : Settings} {d : Disk} {source : String}
    (hinput : d.readText s.input = .ok source) :
    (∃ d', d.writeText (outputPath s) (AnswerFile.text s.width source) = .ok d' ∧
      (onDisk s d).2 = d') ∨
    (onDisk s d).1.exit = 1 ∧ (onDisk s d).2 = d := by
  have hanswers : answers s (.ok source) = .ok (AnswerFile.text s.width source) := rfl
  cases hwrite : d.writeText (outputPath s) (AnswerFile.text s.width source) with
  | ok d' =>
    refine .inl ⟨d', rfl, ?_⟩
    simp only [onDisk, hinput, hanswers, hwrite]
  | error e =>
    refine .inr ?_
    simp only [onDisk, hinput, hanswers, hwrite]
    exact ⟨rfl, trivial⟩

end Answer

namespace Tool

theorem onDisk_answer {arguments : List String} {s : Settings}
    (hs : Tool.answer.settings arguments = .ok s) (d : Disk) :
    Tool.answer.onDisk arguments d = Answer.onDisk s d := by
  rw [onDisk, hs]

/-- **The input and the answers.**  Without a name for the answers, these go to the input with the
extension `golden`.  For every name of the input, read or not, that is the input itself exactly if its
last name has this extension or it has no last name at all.

If the input can be read, it has a last name.  No file but the output changes, so that the input stays
unless its name has the extension; and then, on success, it holds the answers. -/
theorem answer_writes_beside_input {arguments : List String} {s : Settings}
    (hs : Tool.answer.settings arguments = .ok s) (hfile : s.file = none) :
    let output := Answer.outputPath s
    (output = s.input ↔ Path.HasExtension s.input "golden" ∨ ¬Path.HasName s.input) ∧
    ∀ (d : Disk) (source : String), d.readText s.input = .ok source →
      let answers := AnswerFile.text s.width source
      let x := Tool.answer.onDisk arguments d
      (output = s.input ↔ Path.HasExtension s.input "golden") ∧
      (∀ place, x.2.content? place ≠ d.content? place →
        d.locate output = .ok place ∧ x.2.content? place = some answers.toUTF8) ∧
      (¬Path.HasExtension s.input "golden" →
        d.locate output ≠ d.locate s.input ∧ x.2.read s.input = d.read s.input) ∧
      (Path.HasExtension s.input "golden" → x.1.exit = 0 → x.2.read s.input = .ok answers.toUTF8) := by
  intro output
  have houtput : output = Path.withExtension s.input "golden" := by
    show Answer.outputPath s = _
    rw [Answer.outputPath, hfile]
  have hself : output = s.input ↔ Path.HasExtension s.input "golden" ∨ ¬Path.HasName s.input := by
    rw [houtput]
    exact Path.withExtension_eq_self_iff Path.isExtension_golden
  refine ⟨hself, fun d source hinput => ?_⟩
  intro answers x
  have hx : x = Answer.onDisk s d := onDisk_answer hs d
  obtain ⟨bytes, hread⟩ := Disk.exists_read_of_readText hinput
  -- what can be read has a last name, so only the extension decides
  rw [or_iff_left (not_not.mpr (Disk.hasName_of_read hread))] at hself
  have hplaces : ¬Path.HasExtension s.input "golden" → d.locate output ≠ d.locate s.input := by
    rw [houtput]
    exact Disk.locate_withExtension_ne hread Path.isExtension_golden
  rw [hx]
  rcases Answer.onDisk_cases hinput with ⟨d', hwrite, hd'⟩ | ⟨hexit, hd'⟩
  · rw [hd']
    refine ⟨hself, fun place => Disk.content?_writeText_of_ne hwrite, fun hother => ?_, fun hext _ => ?_⟩
    · exact ⟨hplaces hother,
        (Disk.read_writeText_of_ne hwrite hread (hplaces hother)).trans hread.symm⟩
    · rw [show Answer.outputPath s = s.input from hself.mpr hext] at hwrite
      exact Disk.read_writeText_self hwrite (Disk.locate_ne_nullDevice hext Path.isExtension_golden)
  · rw [hd', hexit]
    exact ⟨hself, fun place hne => absurd rfl hne, fun hother => ⟨hplaces hother, rfl⟩, nofun⟩

/-- An input beside the working directory. -/
theorem answer_writes_beside_text_file :
    let d : Disk := ⟨[(["home", "in", "a.b.txt"], "1+1\n".toUTF8)], ["home", "work"]⟩
    let x := Tool.answer.onDisk ["-w8", "../in/a.b.txt"] d
    x.2.read "../in/a.b.txt" = .ok "1+1\n".toUTF8 ∧
      ∀ place, x.2.content? place ≠ d.content? place → place = ["home", "in", "a.b.golden"] := by
  intro d x
  have hs : Tool.answer.settings ["-w8", "../in/a.b.txt"] =
      .ok ⟨"../in/a.b.txt", none, ⟨8, by decide, by decide⟩, .warn⟩ := rfl
  have hinput : d.readText "../in/a.b.txt" = .ok "1+1\n" := rfl
  obtain ⟨hself, honly, hkeeps, -⟩ := (answer_writes_beside_input hs rfl).2 d "1+1\n" hinput
  have hother : ¬Path.HasExtension "../in/a.b.txt" "golden" := fun h => absurd (hself.mpr h) (by decide)
  refine ⟨(hkeeps hother).2, fun place hne => ?_⟩
  have houtput : d.locate "../in/a.b.golden" = .ok ["home", "in", "a.b.golden"] := rfl
  cases houtput.symm.trans (honly place hne).1
  rfl

/-- An input with the name of an answer file is lost. -/
theorem answer_writes_over_golden_file :
    let d : Disk := ⟨[(["home", "x.golden"], "1+1\n".toUTF8)], ["home"]⟩
    let s : Settings := ⟨"x.golden", none, .standard, .warn⟩
    Tool.answer.settings ["x.golden"] = .ok s ∧ d.readText s.input = .ok "1+1\n" ∧
      Answer.outputPath s = s.input ∧
      (Tool.answer.onDisk ["x.golden"] d).2.readText s.input = .ok "2\n" :=
  ⟨rfl, rfl, rfl, rfl⟩

end Tool

end CalcBench.CommandLine
