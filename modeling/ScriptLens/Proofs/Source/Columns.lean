import ScriptLens.Proofs.Source.Excerpt

namespace ScriptLens

open Text

namespace Text

theorem getLast?_lastLine {cs : List Char} {c : Char} (other : c ≠ '\n') :
    (lastLine cs).getLast? = some c ↔ cs.getLast? = some c := by
  induction cs using List.reverseRecOn with
  | nil => rfl
  | append_singleton cs d _ =>
    rw [lastLine_concat]
    split
    · rename_i feed
      simp [feed, other.symm]
    · simp

end Text

namespace SourceFile

variable {f : SourceFile}

theorem length_withoutBreaks_le (cs : List Char) : (withoutBreaks cs).length ≤ cs.length := by
  have shorter := (List.dropWhile_sublist isBreak (l := cs.reverse)).length_le
  rwa [List.length_reverse, ← List.length_reverse, ← withoutBreaks] at shorter

theorem withoutBreaks_append_of_breaks {bs : List Char} (breaks : ∀ c ∈ bs, isBreak c = true)
    (as : List Char) : withoutBreaks (as ++ bs) = withoutBreaks as := by
  rw [withoutBreaks, withoutBreaks, List.reverse_append,
    List.dropWhile_append_of_pos (by simpa using breaks)]

/-- The breaks at the end of a text begin within its first part exactly if that part ends with a
break and the other part is nothing else. -/
theorem length_withoutBreaks_lt_iff (as bs : List Char) :
    (withoutBreaks (as ++ bs)).length < as.length ↔
      (∃ c ∈ as.getLast?, isBreak c = true) ∧ ∀ c ∈ bs, isBreak c = true := by
  by_cases breaks : ∀ c ∈ bs, isBreak c = true
  · rw [withoutBreaks_append_of_breaks breaks, and_iff_left breaks]
    cases as using List.reverseRecOn with
    | nil => simp [withoutBreaks]
    | append_singleton as d =>
      rw [List.getLast?_concat, List.length_append, List.length_singleton]
      cases last : isBreak d with
      | true =>
        have shorter := length_withoutBreaks_le as
        rw [withoutBreaks_concat last]
        simp [last, Nat.lt_succ_of_le shorter]
      | false =>
        have solid : ∀ c ∈ (as ++ [d]).getLast?, isBreak c = false := by simp [last]
        have whole := withoutBreaks_append solid []
        rw [List.append_nil] at whole
        simp [whole, last]
  · obtain ⟨c, member, solid⟩ : ∃ c ∈ bs, isBreak c = false := by simpa using breaks
    obtain ⟨front, back, rfl⟩ := List.append_of_mem member
    have last : ∀ d ∈ (as ++ front ++ [c]).getLast?, isBreak d = false := by simp [solid]
    have kept := withoutBreaks_append last back
    rw [List.append_assoc, List.append_assoc, List.singleton_append] at kept
    rw [kept]
    apply iff_of_false
    · simp only [List.length_append, List.length_singleton]
      omega
    · exact fun both => breaks both.2

def BehindReturn (f : SourceFile) (offset : Nat) : Prop :=
  ∃ before after, f.content.toList = before ++ after ∧ byteLength before = offset ∧
    before.getLast? = some '\r' ∧ ∀ c ∈ firstLine after, c = '\r'

theorem isBreak_iff_of_ne {c : Char} (other : c ≠ '\n') : isBreak c = true ↔ c = '\r' := by
  simp [isBreak, other]

theorem behindReturn_iff {before after : List Char} (split : f.content.toList = before ++ after) :
    f.BehindReturn (byteLength before) ↔
      (withoutBreaks (lastLine before ++ firstLine after)).length < (lastLine before).length := by
  have ends : (∃ c ∈ (lastLine before).getLast?, isBreak c = true) ↔
      before.getLast? = some '\r' := by
    constructor
    · rintro ⟨c, last, breaks⟩
      have other : c ≠ '\n' := by
        rintro rfl
        exact lineFeed_not_mem_lastLine before (List.mem_of_getLast? last)
      rw [← (isBreak_iff_of_ne other).mp breaks]
      exact (getLast?_lastLine other).mp last
    · intro last
      exact ⟨'\r', (getLast?_lastLine (by decide)).mpr last, rfl⟩
  have returns : (∀ c ∈ firstLine after, isBreak c = true) ↔ ∀ c ∈ firstLine after, c = '\r' := by
    apply forall₂_congr
    intro c member
    apply isBreak_iff_of_ne
    rintro rfl
    exact lineFeed_not_mem_firstLine after member
  rw [length_withoutBreaks_lt_iff, ends, returns]
  constructor
  · rintro ⟨before', after', split', size, behind⟩
    obtain ⟨rfl, rfl⟩ := append_inj_of_byteLength (split'.symm.trans split) size
    exact behind
  · intro behind
    exact ⟨before, after, split, rfl, behind⟩

theorem one_le_column (f : SourceFile) (offset : Nat) : 1 ≤ (f.lineColumn offset).2 :=
  Nat.le_add_left ..

theorem exists_snippet {span : Span} (inOrder : span.start ≤ span.stop)
    (starts : IsBoundary f.content span.start) (stops : IsBoundary f.content span.stop) :
    ∃ s text, f.snippet span = .ok s ∧ (s.lineNumber, s.startColumn) = f.lineColumn span.start ∧
      f.line s.lineNumber = .ok s.line ∧
      slice? f.content.toList span.start span.stop = some text ∧
      s.endColumn = min (s.startColumn + (text.takeWhile fun c => !isBreak c).length)
        (s.line.length + 1) := by
  obtain ⟨before, middle, after, split, start, stop⟩ :=
    exists_split_of_boundaries inOrder starts stops
  have split' := split.trans (List.append_assoc ..)
  have snippet := f.snippet_of_split split span.position
  have place := f.lineColumn_of_split split'
  have text := slice?_append before middle after
  rw [stop, start] at snippet
  rw [start] at place
  rw [stop, start, ← split] at text
  exact ⟨_, middle, snippet, place.symm, f.line_of_split split', text,
    by rw [String.length_ofList]⟩

/-- A snippet starts in the column that its span has in the source and ends inside the line it
shows.  Its columns are a range, for each span that does not start behind a carriage return at the
end of its line. -/
theorem columns_inside {span : Span} (inOrder : span.start ≤ span.stop)
    (starts : IsBoundary f.content span.start) (stops : IsBoundary f.content span.stop) :
    ∃ s, f.snippet span = .ok s ∧ 1 ≤ s.startColumn ∧
      s.startColumn = (f.lineColumn span.start).2 ∧ s.endColumn ≤ s.line.length + 1 ∧
      (¬f.BehindReturn span.start → s.startColumn ≤ s.endColumn) ∧
      (f.BehindReturn span.start → s.line.length + 1 < s.startColumn) := by
  obtain ⟨s, text, snippet, place, line, _, clamped⟩ := exists_snippet inOrder starts stops
  have startColumn : s.startColumn = (f.lineColumn span.start).2 := congrArg Prod.snd place
  obtain ⟨before, after, split, start⟩ := exists_split_of_isBoundary starts
  rw [← start, lineColumn_of_split split] at place
  obtain ⟨number, column⟩ := Prod.mk.inj place
  rw [number, line_of_split split] at line
  have shown : s.line.length = (withoutBreaks (lastLine before ++ firstLine after)).length := by
    rw [← Except.ok.inj line, String.length_ofList]
  have behind := behindReturn_iff split
  rw [start, ← shown] at behind
  refine ⟨s, snippet, startColumn ▸ f.one_le_column _, startColumn, ?_, ?_, ?_⟩
  · rw [clamped]
    exact Nat.min_le_right ..
  · intro other
    rw [behind] at other
    omega
  · intro late
    rw [behind] at late
    omega

theorem columns_inside_middle :
    let f := ofContent "a.js" "é\r\rb\r\n"
    IsBoundary f.content 3 ∧ IsBoundary f.content 6 ∧ ¬f.BehindReturn 3 ∧
      ∃ s, f.snippet ⟨3, 6, ⟨1, 3⟩⟩ = .ok s ∧ 1 ≤ s.startColumn ∧
        s.startColumn ≤ s.endColumn ∧ s.endColumn ≤ s.line.length + 1 := by
  intro f
  have split : f.content.toList = ['é', '\r'] ++ ['\r', 'b', '\r', '\n'] := by decide
  have split' : f.content.toList = ['é', '\r', '\r', 'b', '\r'] ++ ['\n'] := by decide
  have starts : IsBoundary f.content 3 := isBoundary_of_split split
  have stops : IsBoundary f.content 6 := isBoundary_of_split split'
  have other : ¬f.BehindReturn 3 := mt (behindReturn_iff split).mp (by decide)
  have inOrder : (⟨3, 6, ⟨1, 3⟩⟩ : Span).start ≤ (⟨3, 6, ⟨1, 3⟩⟩ : Span).stop := by decide
  obtain ⟨s, snippet, positive, _, inside, range, _⟩ := columns_inside inOrder starts stops
  exact ⟨starts, stops, other, s, snippet, positive, range other, inside⟩

theorem columns_behind_return :
    let f := ofContent "a.js" "a\r\n"
    let s : Snippet := ⟨"a", 1, 3, 2⟩
    IsBoundary f.content 2 ∧ IsBoundary f.content 3 ∧ f.snippet ⟨2, 3, ⟨1, 3⟩⟩ = .ok s ∧
      ¬(1 ≤ s.startColumn ∧ s.startColumn ≤ s.endColumn ∧ s.endColumn ≤ s.line.length + 1) := by
  intro f s
  have split : f.content.toList = ['a', '\r'] ++ ['\n'] ++ [] := by decide
  have starts : IsBoundary f.content 2 := isBoundary_of_split (split.trans (List.append_assoc ..))
  have stops : IsBoundary f.content 3 := isBoundary_of_split split
  exact ⟨starts, stops, f.snippet_of_split split _, by decide⟩

end SourceFile

end ScriptLens
