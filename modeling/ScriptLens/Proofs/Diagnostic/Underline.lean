import ScriptLens.Diagnostic.Report
import ScriptLens.Proofs.Diagnostic.Message
import ScriptLens.Proofs.Lexer.Place
import ScriptLens.Proofs.Source.Excerpt

namespace ScriptLens

open Text

theorem isBreak_eq_false_of_isWhitespace_eq_false {c : Char} (other : isWhitespace c = false) :
    SourceFile.isBreak c = false := by
  simp_all [isWhitespace, SourceFile.isBreak]

namespace Snippet

def gutter (s : Snippet) : String := alignRight s.gutterWidth (toString s.lineNumber)

def lead (s : Snippet) : String :=
  .ofList ((s.line.toList.take (s.startColumn - 1)).map fun c => if c = '\t' then '\t' else ' ')

theorem length_gutter (s : Snippet) : s.gutter.length = s.gutterWidth := by
  have fits : (toString s.lineNumber).length ≤ s.gutterWidth := Nat.le_max_left ..
  rw [gutter, alignRight, String.length_append, length_fill]
  omega

theorem format_eq {s : Snippet} (nonempty : s.startColumn < s.endColumn)
    (inside : s.endColumn ≤ s.line.length + 1) :
    s.format = s.gutter ++ " | " ++ s.line ++ "\n" ++
      (fill s.gutter.length ' ' ++ " | " ++ s.lead ++ fill (s.endColumn - s.startColumn) '^') := by
  have count : s.caretCount = s.endColumn - s.startColumn := Nat.max_eq_left (by omega)
  have room : s.startColumn - 1 - s.line.length = 0 := by omega
  rw [format, count, length_gutter, indentation, room]
  simp [gutter, lead, String.append_assoc]

end Snippet

def Diagnostic.headline (d : Diagnostic) (name : String) (code : Code) : String :=
  name ++ ":" ++ toString d.span.position.line.toNat ++ ":" ++
    toString d.span.position.column.toNat ++ ": error[" ++ code.text ++ "]: " ++ d.message

def Diagnostic.details (d : Diagnostic) (s : Snippet) : List String :=
  (s.gutter ++ " | " ++ s.line) ::
    (fill s.gutter.length ' ' ++ " | " ++ s.lead ++ fill (s.endColumn - s.startColumn) '^') ::
      d.helps.map ("    = help: " ++ ·)

/-- The snippet `s` underlines what of the lexeme stands on the line, and the report shows it. -/
structure PointsAt (f : SourceFile) (d : Diagnostic) (lexeme : String) (s : Snippet) : Prop where
  snippet : f.snippet d.span = .ok s
  line : f.line s.lineNumber = .ok s.line
  lineNumber : s.lineNumber = d.span.position.line.toNat
  startColumn : s.startColumn = d.span.position.column.toNat
  nonempty : s.startColumn < s.endColumn
  inside : s.endColumn ≤ s.line.length + 1
  underlined : (s.line.toList.drop (s.startColumn - 1)).take (s.endColumn - s.startColumn) =
    lexeme.toList.takeWhile fun c => !SourceFile.isBreak c
  report : ∃ code, d.code = some code ∧
    d.report f = .ok (unlines (d.headline f.name code :: d.details s)) ∧
    (unlines (d.headline f.name code :: d.details s)).toList.count '\n' =
      f.name.toList.count '\n' + 3 + d.helps.length

theorem Diagnostic.report_eq {f : SourceFile} {d : Diagnostic} {s : Snippet} {code : Code}
    (coded : d.code = some code) (snippet : f.snippet d.span = .ok s)
    (nonempty : s.startColumn < s.endColumn) (inside : s.endColumn ≤ s.line.length + 1) :
    d.report f = .ok (unlines (d.headline f.name code :: d.details s)) := by
  have excerpt : f.excerpt d.span = .ok (s.format ++ "\n") := by
    rw [SourceFile.excerpt, snippet]
  rw [report, excerpt]
  refine congrArg Except.ok (String.toList_inj.mp ?_)
  simp [unlines, headline, details, Diagnostic.text, coded, Position.text,
    Snippet.format_eq nonempty inside]
  rfl

theorem Snippet.isLine_lead (s : Snippet) : IsLine s.lead := by
  rw [lead, isLine_ofList, List.mem_map]
  rintro ⟨c, _, same⟩
  split at same <;> cases same

theorem LexFault.isLine_details (fault : LexFault) (span : Span) {s : Snippet}
    (shown : IsLine s.line) : ∀ l ∈ (fault.diagnostic span).details s, IsLine l := by
  have bar : IsLine " | " := by decide
  have help : IsLine "    = help: " := by decide
  have blanks := isLine_fill s.gutter.length (by decide : ' ' ≠ '\n')
  have carets := isLine_fill (s.endColumn - s.startColumn) (by decide : '^' ≠ '\n')
  have gutter : IsLine s.gutter := isLine_alignRight.mpr (isLine_repr s.lineNumber)
  intro l member
  simp only [Diagnostic.details, List.mem_cons, List.mem_map] at member
  obtain rfl | rfl | ⟨text, given, rfl⟩ := member
  · simp only [isLine_append, gutter, bar, shown, and_self]
  · simp only [isLine_append, blanks, bar, s.isLine_lead, carets, and_self]
  · exact isLine_append.mpr ⟨help, fault.isLine_help text given⟩

theorem LexFault.count_lineFeed_report {fault : LexFault} (line : IsLine fault.message)
    (span : Span) (name : String) {s : Snippet} (shown : IsLine s.line) :
    (unlines ((fault.diagnostic span).headline name fault.code ::
        (fault.diagnostic span).details s)).toList.count '\n' =
      name.toList.count '\n' + 3 + (fault.diagnostic span).helps.length := by
  have colon : IsLine ":" := by decide
  have bracket : IsLine ": error[" := by decide
  have bracket' : IsLine "]: " := by decide
  have headline : ((fault.diagnostic span).headline name fault.code).toList.count '\n' =
      name.toList.count '\n' := by
    simp only [Diagnostic.headline, diagnostic, count_lineFeed_append, colon, bracket, bracket',
      Nat.toString_eq_repr, isLine_repr, fault.isLine_code, line]
  rw [toList_unlines_cons, List.count_append, headline, List.count_cons_self,
    count_lineFeed_unlines (fault.isLine_details span shown)]
  simp only [Diagnostic.details, List.length_cons, List.length_map]
  omega

theorem withoutBreaks_line (before : List Char) {marked : List Char} (after : List Char)
    (nonempty : marked ≠ []) (solid : ∀ c ∈ marked, SourceFile.isBreak c = false) :
    SourceFile.withoutBreaks (lastLine before ++ firstLine (marked ++ after)) =
      lastLine before ++ marked ++ SourceFile.withoutBreaks (firstLine after) := by
  have plain : ∀ c ∈ marked, decide (c ≠ '\n') = true := by
    intro c member
    rw [decide_eq_true_iff]
    rintro rfl
    cases solid _ member
  have last : ∀ c ∈ (lastLine before ++ marked).getLast?, SourceFile.isBreak c = false := by
    intro c ends
    rw [List.getLast?_append, List.getLast?_eq_some_getLast nonempty, Option.some_or] at ends
    obtain rfl := Option.some.inj ends
    exact solid _ (List.getLast_mem nonempty)
  rw [firstLine, List.takeWhile_append_of_pos plain, ← List.append_assoc,
    SourceFile.withoutBreaks_append last]
  rfl

theorem SourceFile.snippet_of_solid {f : SourceFile} {before lexeme after : List Char}
    (split : f.content.toList = before ++ lexeme ++ after) (position : Position)
    (nonempty : lexeme.takeWhile (fun c => !isBreak c) ≠ []) :
    let marked := lexeme.takeWhile fun c => !isBreak c
    ∃ more, '\n' ∉ lastLine before ++ marked ++ more ∧
      f.line (before.count '\n' + 1) = .ok (String.ofList (lastLine before ++ marked ++ more)) ∧
      f.snippet ⟨byteLength before, byteLength before + byteLength lexeme, position⟩ =
        .ok ⟨String.ofList (lastLine before ++ marked ++ more), before.count '\n' + 1,
          (lastLine before).length + 1, (lastLine before).length + 1 + marked.length⟩ := by
  intro marked
  have whole : lexeme = marked ++ lexeme.dropWhile fun c => !isBreak c :=
    List.takeWhile_append_dropWhile.symm
  have solid : ∀ c ∈ marked, isBreak c = false := by
    intro c member
    simpa using List.all_eq_true.mp List.all_takeWhile c member
  have shown := withoutBreaks_line before ((lexeme.dropWhile fun c => !isBreak c) ++ after)
    nonempty solid
  rw [← List.append_assoc, ← whole] at shown
  have line := line_of_split (f := f) (split.trans (List.append_assoc ..))
  have snippet := snippet_of_split split position
  rw [shown] at line
  simp only [shown] at snippet
  refine ⟨_, ?_, line, ?_⟩
  · rw [← shown]
    intro member
    cases List.mem_append.mp (mem_of_mem_withoutBreaks member) with
    | inl first => exact lineFeed_not_mem_lastLine before first
    | inr later => exact lineFeed_not_mem_firstLine _ later
  · rw [snippet]
    congr 2
    apply Nat.min_eq_left
    simp only [List.length_append]
    omega

namespace Site

variable {f : SourceFile} {x : Site} {after : List Char} {d : Diagnostic}

theorem exists_fault (reported : x.diagnostic? = some d) :
    ∃ fault, x.found.finding = .error fault ∧ d = fault.diagnostic x.span := by
  obtain ⟨fault, faulty, same⟩ := Option.map_eq_some_iff.mp reported
  refine ⟨fault, ?_, same.symm⟩
  cases outcome : x.found.finding with
  | ok kind => simp [Scan.fault?, outcome] at faulty
  | error fault' =>
    simp only [Scan.fault?, outcome, Option.some.injEq] at faulty
    rw [faulty]

theorem marked_ne_nil {c : Char} {cs : List Char} (found : x.found = scan c cs)
    {fault : LexFault} (faulty : x.found.finding = .error fault) :
    (x.found.lexeme.takeWhile fun c => !SourceFile.isBreak c) ≠ [] := by
  have malformed : (scan c cs).kind ≠ .whitespace := by
    rw [← found, Scan.kind, faulty]
    simp
  have solid := isBreak_eq_false_of_isWhitespace_eq_false
    (isWhitespace_eq_false_of_kind_ne malformed)
  obtain ⟨more, lexeme⟩ := lexeme_scan c cs
  simp [found, lexeme, solid]

theorem exists_pointsAt (split : f.content.toList = x.passed ++ x.found.lexeme ++ after)
    (small : f.content.length < UInt32.size - 1) {c : Char} {cs : List Char}
    (found : x.found = scan c cs) (reported : x.diagnostic? = some d) :
    ∃ s, PointsAt f d x.token.lexeme s := by
  obtain ⟨fault, faulty, rfl⟩ := exists_fault reported
  have nonempty := marked_ne_nil found faulty
  have message : IsLine fault.message := tellsLine_scan c cs fault (by rw [← found, faulty])
  have split' := split.trans (List.append_assoc ..)
  have place := (Site.agrees split').unreduced small
  obtain ⟨more, single, line, snippet⟩ :=
    SourceFile.snippet_of_solid split x.span.position nonempty
  have columns := List.length_pos_iff.mpr nonempty
  have shown := isLine_ofList.mpr single
  rw [Site.span, f.lineColumn_of_split split'] at place
  obtain ⟨row, column⟩ := Prod.mk.inj place
  refine ⟨_, snippet, line, row.symm, column.symm, ?_, ?_, ?_, fault.code, rfl, ?_, ?_⟩
  · dsimp only
    omega
  · simp only [String.length_ofList, List.length_append]
    omega
  · simp [Site.token]
  · apply Diagnostic.report_eq rfl snippet
    · dsimp only
      omega
    · simp only [String.length_ofList, List.length_append]
      omega
  · exact LexFault.count_lineFeed_report message x.span f.name shown

end Site

theorem report_points_at (name : String) {source : String}
    (small : source.length < UInt32.size - 1) {n : Nat} {d : Diagnostic}
    (recorded : d ∈
      ((Session.ofSource source .empty true).afterCalls n).handler.diagnostics) :
    ∃ t ∈ tokenize source, t.kind = .error ∧ t.span = d.span ∧
      ∃ s, PointsAt (.ofContent name source) d t.lexeme s := by
  obtain ⟨found, added, known⟩ := exists_recorded_afterCalls source .empty true n
  rw [added, Handler.diagnostics_empty, List.nil_append] at recorded
  have reported := known recorded
  rw [diagnose_eq_sites] at reported
  obtain ⟨x, member, reported⟩ := List.mem_filterMap.mp reported
  obtain ⟨c, cs, after, same, split⟩ := exists_scan_of_mem_sites member
  obtain ⟨fault, faulty, place⟩ := Site.exists_fault reported
  refine ⟨x.token, ?_, ?_, ?_, ?_⟩
  · rw [tokenize_eq_sites]
    exact List.mem_map_of_mem member
  · rw [Site.token, Scan.kind, faulty]
  · rw [place]
    rfl
  · exact Site.exists_pointsAt (f := .ofContent name source) split small same reported

theorem report_points_at_string :
    "a;\n\t'é\r@".length < UInt32.size - 1 ∧
      LexFault.unterminatedString.diagnostic ⟨4, 7, ⟨2, 2⟩⟩ ∈
        ((Session.ofSource "a;\n\t'é\r@" .empty true).afterCalls 4).handler.diagnostics ∧
      ∃ t ∈ tokenize "a;\n\t'é\r@", t.kind = .error ∧ t.span = ⟨4, 7, ⟨2, 2⟩⟩ ∧
        ∃ s, PointsAt (.ofContent "a.js" "a;\n\t'é\r@")
          (LexFault.unterminatedString.diagnostic ⟨4, 7, ⟨2, 2⟩⟩) t.lexeme s := by
  have small : "a;\n\t'é\r@".length < UInt32.size - 1 := by decide
  have recorded : LexFault.unterminatedString.diagnostic ⟨4, 7, ⟨2, 2⟩⟩ ∈
      ((Session.ofSource "a;\n\t'é\r@" .empty true).afterCalls 4).handler.diagnostics := by
    rw [Session.diagnostics_afterCalls_ofSource, ← scansUpTo_eq_scans (Nat.le_refl _)]
    decide
  exact ⟨small, recorded, report_points_at "a.js" small recorded⟩

end ScriptLens
