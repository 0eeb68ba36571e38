import ScriptLens.Check.Report
import ScriptLens.Proofs.Lexer.Faults
import ScriptLens.Proofs.Source.Excerpt

namespace ScriptLens

open Text

theorem FileReport.diagnostics_ofInput (i : Input) :
    (FileReport.ofInput i).diagnostics = diagnose i.file.content := by
  rw [ofInput]
  dsimp only
  split
  · rename_i blank
    exact (diagnose_of_isBlank blank).symm
  · rfl

theorem SourceFile.exists_excerpt {f : SourceFile} {before middle after : List Char}
    (split : f.content.toList = before ++ middle ++ after) (position : Position) :
    ∃ text, f.excerpt ⟨byteLength before, byteLength before + byteLength middle, position⟩ =
      .ok text := by
  rw [excerpt, snippet_of_split split position]
  exact ⟨_, rfl⟩

theorem exists_report (name : String) {source : String} {d : Diagnostic}
    (found : d ∈ diagnose source) : ∃ text, d.report (.ofContent name source) = .ok text := by
  rw [diagnose_eq_sites] at found
  obtain ⟨x, member, reported⟩ := List.mem_filterMap.mp found
  obtain ⟨fault, _, rfl⟩ := Option.map_eq_some_iff.mp reported
  obtain ⟨_, _, after, _, split⟩ := exists_scan_of_mem_sites member
  obtain ⟨text, shown⟩ := SourceFile.exists_excerpt (f := .ofContent name source) split
    (Position.first.afterAll x.passed)
  have shown' : (SourceFile.ofContent name source).excerpt (fault.diagnostic x.span).span =
      .ok text := shown
  rw [Diagnostic.report, shown']
  exact ⟨_, rfl⟩

def Input.reports (i : Input) : List (Except SourceError String) :=
  (diagnose i.file.content).map (·.report i.file)

theorem Input.length_reports (i : Input) :
    i.reports.length = (errorTokens i.file.content).length := by
  rw [reports, List.length_map, length_diagnose]

theorem FileReport.exists_texts (i : Input) :
    ∃ texts, (FileReport.ofInput i).text = String.join texts ∧ texts.map .ok = i.reports := by
  refine ⟨_, rfl, ?_⟩
  rw [diagnostics_ofInput, Input.reports, List.map_map]
  apply List.map_congr_left
  intro d found
  obtain ⟨text, shown⟩ := exists_report i.name found
  have shown' : d.report i.file = .ok text := shown
  simp [ofInput, shown', Except.toOption]

end ScriptLens
