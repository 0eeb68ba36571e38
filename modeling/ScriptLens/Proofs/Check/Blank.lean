import ScriptLens.Proofs.Check.Report
import ScriptLens.Proofs.Highlight.Pieces
import ScriptLens.Proofs.Lexer.Trivia

namespace ScriptLens

open Text

variable {source : String}

theorem isWhitespace_of_mem_lexeme {t : Token} {c : Char} (member : t ∈ tokenize source)
    (white : t.kind = .whitespace) (inside : c ∈ t.lexeme.toList) : isWhitespace c = true := by
  obtain ⟨i, at_i⟩ := List.getElem?_of_mem member
  obtain ⟨_, d, ds, _, _, rfl⟩ := exists_scan_of_getElem?_tokenize at_i
  have first := (Scan.reveals d ds).whitespace white
  rw [Site.token, String.toList_ofList, scan_whitespace first, List.mem_cons] at inside
  obtain rfl | later := inside
  · exact first
  · exact List.mem_takeWhile_imp later

theorem tokenize_of_isBlank (blank : isBlank source = true) :
    tokenize source = [] ∨
      ∃ t, tokenize source = [t] ∧ t.kind = .whitespace ∧ t.lexeme = source := by
  cases text : source.toList with
  | nil =>
    have empty : source = "" := String.toList_eq_nil_iff.mp text
    exact .inl (empty ▸ tokenize_empty)
  | cons c cs =>
    obtain ⟨white, more⟩ := List.forall_mem_cons.mp (text ▸ List.all_eq_true.mp blank)
    have taken : cs.takeWhile isWhitespace = cs := List.takeWhile_eq_self_iff.mpr more
    have left : cs.dropWhile isWhitespace = [] := List.dropWhile_eq_nil_iff.mpr more
    have found : scan c cs = ⟨.ok .whitespace, c :: cs, []⟩ := by
      rw [scan_whitespace white, taken, left]
    refine .inr ⟨Site.token ⟨[], ⟨.ok .whitespace, c :: cs, []⟩⟩, ?_, rfl, ?_⟩
    · rw [tokenize_cons text, found, String.ofList_nil, tokenize_empty, List.map_nil]
    · rw [Site.token, ← text, String.ofList_toList]

theorem isBlank_iff_kinds :
    isBlank source = true ↔ ∀ t ∈ tokenize source, t.kind = .whitespace := by
  constructor
  · intro blank t member
    obtain none | ⟨u, single, white, _⟩ := tokenize_of_isBlank blank
    · rw [none] at member
      cases member
    · rw [single, List.mem_singleton] at member
      rw [member, white]
  · intro white
    rw [isBlank, List.all_eq_true, ← flatMap_lexeme_tokenize]
    intro c inside
    obtain ⟨t, member, inside⟩ := List.mem_flatMap.mp inside
    exact isWhitespace_of_mem_lexeme member (white t member) inside

theorem isBlank_iff_single :
    isBlank source = true ↔ tokenize source = [] ∨
      ∃ t, tokenize source = [t] ∧ t.kind = .whitespace ∧ t.lexeme = source := by
  constructor
  · exact tokenize_of_isBlank
  · rw [isBlank_iff_kinds]
    rintro (none | ⟨t, single, white, _⟩)
    · simp [none]
    · simp [single, white]

theorem Session.diagnostics_count (s : Session) :
    s.count.2.handler.diagnostics = s.handler.diagnostics ++
      if s.records then s.lexer.steps.filterMap (·.diagnostic?) else [] := by
  fun_induction count s with
  | case1 s ended => simp [Lexer.steps_of_none ended]
  | case2 s step stepped n last counted ih =>
    rw [counted] at ih
    rw [Lexer.steps_of_some stepped]
    dsimp only [pass] at ih ⊢
    cases records : s.records with
    | false => simpa [records] using ih
    | true => cases found : step.diagnostic? <;> simpa [records, found] using ih

theorem Handler.diagnostics_lex (h : Handler) (source : String) :
    (h.lex source).2.diagnostics = h.diagnostics ++ diagnose source :=
  Session.diagnostics_count _

/-- Blank texts are those of whitespace tokens alone, and whether an input is blank or not, its
diagnostics are those that a fresh handler takes from all of it, one for each error token. -/
theorem blank_checked :
    (∀ source,
      (isBlank source = true ↔ ∀ t ∈ tokenize source, t.kind = .whitespace) ∧
      (isBlank source = true ↔ tokenize source = [] ∨
        ∃ t, tokenize source = [t] ∧ t.kind = .whitespace ∧ t.lexeme = source)) ∧
    (∀ (host : Host) (path : String), host.checkFile path = (host.input path).map fun i =>
      let file := SourceFile.ofContent i.name (Utf8.decodeLossy i.bytes)
      ⟨file, (Handler.empty.lex file.content).2.take.1⟩) ∧
    ∀ source, (Handler.empty.lex source).2.take.1.map (·.span) =
      (errorTokens source).map (·.span) := by
  have recorded (source : String) : (Handler.empty.lex source).2.take.1 = diagnose source :=
    Handler.diagnostics_lex .empty source
  refine ⟨fun source => ⟨isBlank_iff_kinds, isBlank_iff_single⟩, ?_, ?_⟩
  · intro host path
    rw [Host.checkFile]
    congr 1
    funext i
    dsimp only
    rw [recorded]
    exact congrArg (FileReport.mk i.file) (FileReport.diagnostics_ofInput i)
  · intro source
    rw [recorded, map_span_diagnose]

end ScriptLens
