import ScriptLens.Proofs.Diagnostic.Underline
import ScriptLens.Proofs.Source.Columns

namespace ScriptLens

open Text

theorem partitionPoint_le {below : Nat → Bool} {low high : Nat} (inOrder : low ≤ high) :
    partitionPoint below low high ≤ high := by
  fun_induction partitionPoint below low high with
  | case1 low high more middle holds ih => exact ih (by omega)
  | case2 low high more middle fails ih => exact Nat.le_trans (ih (by omega)) (by omega)
  | case3 => exact inOrder

namespace SourceFile

variable {f : SourceFile} {span : Span}

theorem lineIndexAt_lt (f : SourceFile) (offset : Nat) : f.lineIndexAt offset < f.lineCount := by
  have listed : partitionPoint (fun i => decide (f.lineStart i ≤ offset)) 0 f.lineCount ≤
      f.lineCount := partitionPoint_le (Nat.zero_le _)
  have positive : 0 < f.lineCount := by
    rw [lineCount_eq]
    exact Nat.succ_pos _
  rw [lineIndexAt]
  omega

theorem exists_line_at (f : SourceFile) (offset : Nat) :
    ∃ text, f.line (f.lineColumn offset).1 = .ok text := by
  have listed := f.lineIndexAt_lt (min offset f.content.utf8ByteSize)
  rw [lineColumn, line, if_neg (by dsimp only; omega)]
  exact ⟨_, rfl⟩

theorem snippet_cases (f : SourceFile) (span : Span) :
    (span.stop < span.start ∧
      f.snippet span = .error (.invertedSpan span.start span.stop)) ∨
    (span.start ≤ span.stop ∧ f.content.utf8ByteSize < span.stop ∧
      f.snippet span =
        .error (.outOfBounds f.content.utf8ByteSize span.start span.stop)) ∨
    (span.start ≤ span.stop ∧ span.stop ≤ f.content.utf8ByteSize ∧
      (f.snippet span = .error (.insideCharacter span.start span.stop) ∨
        ∃ s, f.snippet span = .ok s)) := by
  by_cases inverted : span.stop < span.start
  · refine .inl ⟨inverted, ?_⟩
    rw [snippet, if_pos inverted]
    rfl
  have inOrder := Nat.not_lt.mp inverted
  by_cases beyond : f.content.utf8ByteSize < span.stop
  · refine .inr (.inl ⟨inOrder, beyond, ?_⟩)
    rw [snippet, if_neg inverted, if_pos beyond]
    rfl
  · -- The line is there, so only the slice can still fail.
    refine .inr (.inr ⟨inOrder, Nat.not_lt.mp beyond, ?_⟩)
    obtain ⟨text, line⟩ := f.exists_line_at span.start
    rw [snippet, if_neg inverted, if_neg beyond]
    dsimp only
    rw [line]
    cases slice? f.content.toList span.start span.stop with
    | none => exact .inl rfl
    | some => exact .inr ⟨_, rfl⟩

end SourceFile

namespace Snippet

/-- On its last line the snippet has a row of carets of this length, which begins below the start
column. -/
def HasCarets (s : Snippet) (n : Nat) : Prop :=
  ∃ lead, s.format = s.gutter ++ " | " ++ s.line ++ "\n" ++ (lead ++ fill n '^') ∧
    lead.length = (s.gutter ++ " | ").length + (s.startColumn - 1) ∧
    '^' ∉ lead.toList ∧ '\n' ∉ lead.toList

theorem length_indentation (s : Snippet) : s.indentation.length = s.startColumn - 1 := by
  rw [indentation, List.length_append, List.length_map, List.length_take, List.length_replicate,
    String.length_toList]
  omega

theorem mem_indentation {s : Snippet} {c : Char} (member : c ∈ s.indentation) :
    c = '\t' ∨ c = ' ' := by
  rw [indentation, List.mem_append, List.mem_map, List.mem_replicate] at member
  obtain ⟨d, _, rfl⟩ | ⟨_, blank⟩ := member
  · split
    · exact .inl rfl
    · exact .inr rfl
  · exact .inr blank

theorem hasCarets (s : Snippet) : s.HasCarets s.caretCount := by
  have lead {x : Char} (tab : x ≠ '\t') (blank : x ≠ ' ') (bar : x ≠ '|') :
      x ∉ (fill s.gutter.length ' ' ++ " | " ++ String.ofList s.indentation).toList := by
    have other : x ∉ s.indentation := fun member => (mem_indentation member).elim tab blank
    simp [blank, bar, other]
  refine ⟨fill s.gutter.length ' ' ++ " | " ++ .ofList s.indentation, ?_, ?_, ?_, ?_⟩
  · rw [format, length_gutter]
    simp [gutter, String.append_assoc]
  · simp only [String.length_append, length_fill, String.length_ofList, length_indentation]
  · exact lead (by decide) (by decide) (by decide)
  · exact lead (by decide) (by decide) (by decide)

theorem hasCarets_of_covered {s : Snippet} {covered : Nat} (positive : 1 ≤ s.startColumn)
    (clamped : s.endColumn = min (s.startColumn + covered) (s.line.length + 1)) :
    s.HasCarets (max 1 (min covered (s.line.toList.drop (s.startColumn - 1)).length)) := by
  have count : s.caretCount =
      max 1 (min covered (s.line.toList.drop (s.startColumn - 1)).length) := by
    rw [caretCount, clamped, List.length_drop, String.length_toList]
    omega
  rw [← count]
  exact s.hasCarets

end Snippet

namespace SourceFile

variable {f : SourceFile} {span : Span}

theorem exists_carets (inOrder : span.start ≤ span.stop)
    (starts : IsBoundary f.content span.start) (stops : IsBoundary f.content span.stop) :
    ∃ s text, f.snippet span = .ok s ∧ (s.lineNumber, s.startColumn) = f.lineColumn span.start ∧
      f.line s.lineNumber = .ok s.line ∧
      slice? f.content.toList span.start span.stop = some text ∧
      s.HasCarets (max 1 (min (text.takeWhile fun c => !isBreak c).length
        (s.line.toList.drop (s.startColumn - 1)).length)) := by
  obtain ⟨s, text, snippet, place, line, slice, clamped⟩ := exists_snippet inOrder starts stops
  have startColumn : s.startColumn = (f.lineColumn span.start).2 := congrArg Prod.snd place
  have positive : 1 ≤ s.startColumn := startColumn ▸ f.one_le_column _
  exact ⟨s, text, snippet, place, line, slice, Snippet.hasCarets_of_covered positive clamped⟩

theorem snippet_refused_iff (f : SourceFile) (span : Span) :
    (∀ start stop, f.snippet span = .error (.invertedSpan start stop) ↔
      span.stop < span.start ∧ start = span.start ∧ stop = span.stop) ∧
    (∀ size start stop, f.snippet span = .error (.outOfBounds size start stop) ↔
      span.start ≤ span.stop ∧ f.content.utf8ByteSize < span.stop ∧
        size = f.content.utf8ByteSize ∧ start = span.start ∧ stop = span.stop) ∧
    ∀ line count, f.snippet span ≠ .error (.noSuchLine line count) := by
  obtain ⟨inverted, snippet⟩ | ⟨inOrder, beyond, snippet⟩ |
      ⟨inOrder, inside, snippet | ⟨s, snippet⟩⟩ := f.snippet_cases span
  · simp [snippet, inverted, Nat.not_le.mpr inverted, eq_comm]
  · simp [snippet, inOrder, beyond, Nat.not_lt.mpr inOrder, eq_comm]
  · simp [snippet, Nat.not_lt.mpr inOrder, Nat.not_lt.mpr inside]
  · simp [snippet, Nat.not_lt.mpr inOrder, Nat.not_lt.mpr inside]

/-- A snippet is refused for an inverted span and for one that is out of bounds, and never for its
line.  Between two characters it has carets below the first line of the span, as far as that is
shown, and at least one. -/
theorem snippet_outcome (f : SourceFile) (span : Span) :
    (∀ start stop, f.snippet span = .error (.invertedSpan start stop) ↔
      span.stop < span.start ∧ start = span.start ∧ stop = span.stop) ∧
    (∀ size start stop, f.snippet span = .error (.outOfBounds size start stop) ↔
      span.start ≤ span.stop ∧ f.content.utf8ByteSize < span.stop ∧
        size = f.content.utf8ByteSize ∧ start = span.start ∧ stop = span.stop) ∧
    (∀ line count, f.snippet span ≠ .error (.noSuchLine line count)) ∧
    (span.start ≤ span.stop → IsBoundary f.content span.start → IsBoundary f.content span.stop →
      ∃ s text, f.snippet span = .ok s ∧
        (s.lineNumber, s.startColumn) = f.lineColumn span.start ∧
        f.line s.lineNumber = .ok s.line ∧
        slice? f.content.toList span.start span.stop = some text ∧
        s.HasCarets (max 1 (min (text.takeWhile fun c => !isBreak c).length
          (s.line.toList.drop (s.startColumn - 1)).length))) := by
  obtain ⟨inverted, beyond, line⟩ := f.snippet_refused_iff span
  exact ⟨inverted, beyond, line, exists_carets⟩

theorem snippet_outcome_behind_return :
    let f := ofContent "a.js" "é\r\n\tb"
    IsBoundary f.content 3 ∧ IsBoundary f.content 6 ∧
      ∃ s text, f.snippet ⟨3, 6, ⟨1, 3⟩⟩ = .ok s ∧
        (s.lineNumber, s.startColumn) = f.lineColumn 3 ∧ f.line s.lineNumber = .ok s.line ∧
        slice? f.content.toList 3 6 = some text ∧
        s.HasCarets (max 1 (min (text.takeWhile fun c => !isBreak c).length
          (s.line.toList.drop (s.startColumn - 1)).length)) := by
  intro f
  have split : f.content.toList = ['é', '\r'] ++ ['\n', '\t', 'b'] := by decide
  have split' : f.content.toList = ['é', '\r', '\n', '\t', 'b'] ++ [] := by decide
  have starts : IsBoundary f.content 3 := isBoundary_of_split split
  have stops : IsBoundary f.content 6 := isBoundary_of_split split'
  exact ⟨starts, stops,
    (f.snippet_outcome ⟨3, 6, ⟨1, 3⟩⟩).2.2.2 (by decide) starts stops⟩

end SourceFile

end ScriptLens
