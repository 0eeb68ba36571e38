import Mathlib.Data.List.DropRight
import Mathlib.Data.Prod.Lex
import Mathlib.Order.Monotone.Basic
import ScriptLens.Proofs.Source.Excerpt

namespace ScriptLens

open Text

namespace Text

theorem splitOn_eq_firstLine_cons (cs : List Char) :
    cs.splitOn '\n' = firstLine cs :: (cs.splitOn '\n').tail := by
  induction cs with
  | nil => rfl
  | cons c cs ih =>
    rw [List.splitOn_cons_eq_if_modifyHead, firstLine_cons]
    by_cases feed : c = '\n'
    · simp [feed]
    · rw [ih]
      simp [feed]

/-- Where a text is cut in two, the line across the cut has as many lines before it as there are
line feeds, and those have all the characters in front of it. -/
theorem splitOn_append (before after : List Char) :
    ∃ earlier, (before ++ after).splitOn '\n' =
        earlier ++ (lastLine before ++ firstLine after) :: (after.splitOn '\n').tail ∧
      earlier.length = before.count '\n' ∧
      earlier.flatMap (· ++ ['\n']) = earlierLines before := by
  induction before using List.reverseRecOn generalizing after with
  | nil => exact ⟨[], splitOn_eq_firstLine_cons after, rfl, rfl⟩
  | append_singleton before c ih =>
    obtain ⟨earlier, split, count, flat⟩ := ih (c :: after)
    rw [List.append_assoc, List.singleton_append]
    by_cases feed : c = '\n'
    · refine ⟨earlier ++ [lastLine before], ?_, ?_, ?_⟩
      · rw [split, List.splitOn_cons_eq_if_modifyHead, splitOn_eq_firstLine_cons after]
        simp [feed, lastLine_concat]
      · simp [feed, count]
      · rw [List.flatMap_append, flat, earlierLines_concat, if_pos feed]
        simp [feed, ← List.append_assoc, earlierLines_append_lastLine]
    · refine ⟨earlier, ?_, ?_, ?_⟩
      · rw [split, List.splitOn_cons_eq_if_modifyHead, splitOn_eq_firstLine_cons after]
        simp [feed, lastLine_concat]
      · simp [count, feed]
      · rw [flat, earlierLines_concat, if_neg feed]

theorem lastLine_append {more : List Char} (inside : '\n' ∉ more) (cs : List Char) :
    lastLine (cs ++ more) = lastLine cs ++ more := by
  have plain : ∀ c ∈ more.reverse, decide (c ≠ '\n') = true := by
    intro c member
    rw [decide_eq_true_eq]
    rintro rfl
    exact inside (List.mem_reverse.mp member)
  rw [lastLine, lastLine, List.reverse_append, List.takeWhile_append_of_pos plain,
    List.reverse_append, List.reverse_reverse]

theorem exists_split_of_le_count {cs : List Char} {n : Nat} (listed : n ≤ cs.count '\n') :
    ∃ before after, cs = before ++ after ∧ before.count '\n' = n := by
  induction cs generalizing n with
  | nil => exact ⟨[], [], rfl, (Nat.le_zero.mp listed).symm⟩
  | cons c cs ih =>
    cases n with
    | zero => exact ⟨[], c :: cs, rfl, rfl⟩
    | succ n =>
      by_cases feed : c = '\n'
      · rw [feed, List.count_cons_self] at listed
        obtain ⟨before, after, rfl, count⟩ := ih (Nat.le_of_succ_le_succ listed)
        exact ⟨c :: before, after, rfl, by rw [feed, List.count_cons_self, count]⟩
      · rw [List.count_cons_of_ne feed] at listed
        obtain ⟨before, after, rfl, count⟩ := ih listed
        exact ⟨c :: before, after, rfl, by rw [List.count_cons_of_ne feed, count]⟩

theorem withoutBreaks_of_not_mem {cs : List Char} (plain : '\n' ∉ cs) :
    SourceFile.withoutBreaks cs = cs.rdropWhile (· = '\r') := by
  induction cs using List.reverseRecOn with
  | nil => rfl
  | append_singleton cs c ih =>
    rw [List.mem_append, not_or, List.mem_singleton] at plain
    obtain ⟨front, other⟩ := plain
    by_cases strip : c = '\r'
    · have breaks : SourceFile.isBreak c = true := by simp [SourceFile.isBreak, strip]
      rw [SourceFile.withoutBreaks_concat breaks, ih front, List.rdropWhile_concat,
        if_pos (decide_eq_true strip)]
    · have solid : SourceFile.isBreak c = false := by
        simp [SourceFile.isBreak, strip, Ne.symm other]
      rw [List.rdropWhile_concat, if_neg (by simpa using strip)]
      simp [SourceFile.withoutBreaks, solid]

end Text

namespace SourceFile

variable {f : SourceFile} {before after : List Char}

structure IsMapped (f : SourceFile) : Prop where
  place : ∀ before after, f.content.toList = before ++ after →
    f.lineColumn (byteLength before) = (1 + before.count '\n', 1 + (lastLine before).length)
  clamped : ∀ offset, f.content.utf8ByteSize ≤ offset →
    f.lineColumn offset = f.lineColumn f.content.utf8ByteSize
  increasing :
    StrictMonoOn (fun offset => toLex (f.lineColumn offset)) {offset | IsBoundary f.content offset}
  injective : Set.InjOn f.lineColumn {offset | IsBoundary f.content offset}
  count : f.lineCount = 1 + f.content.toList.count '\n'
  outside : ∀ n, (∃ e, f.line n = .error e) ↔ n = 0 ∨ f.lineCount < n
  inside : ∀ n, 0 < n → n ≤ f.lineCount →
    ∃ raw, (f.content.toList.splitOn '\n')[n - 1]? = some raw ∧
      f.line n = .ok (String.ofList (raw.rdropWhile (· = '\r')))
  back : ∀ offset, IsBoundary f.content offset →
    let (line, column) := f.lineColumn offset
    let lines := f.content.toList.splitOn '\n'
    ∃ raw, lines[line - 1]? = some raw ∧ column - 1 ≤ raw.length ∧
      byteLength ((lines.take (line - 1)).flatMap (· ++ ['\n'])) +
        byteLength (raw.take (column - 1)) = offset

theorem lineColumn_of_le {offset : Nat} (past : f.content.utf8ByteSize ≤ offset) :
    f.lineColumn offset = f.lineColumn f.content.utf8ByteSize := by
  simp only [lineColumn, Nat.min_eq_right past, Nat.min_self]

theorem lineColumn_lt {more : List Char} (split : f.content.toList = before ++ more ++ after)
    (further : more ≠ []) :
    toLex (f.lineColumn (byteLength before)) <
      toLex (f.lineColumn (byteLength (before ++ more))) := by
  rw [lineColumn_of_split split, lineColumn_of_split (split.trans (List.append_assoc _ _ _)),
    Prod.Lex.toLex_lt_toLex]
  by_cases feed : '\n' ∈ more
  · have counted := List.count_pos_iff.mpr feed
    left
    simp only [List.count_append]
    omega
  · have longer := List.length_pos_iff.mpr further
    right
    constructor
    · rw [List.count_append, List.count_eq_zero.mpr feed, Nat.add_zero]
    · simp only [lastLine_append feed, List.length_append]
      omega

theorem strictMonoOn_lineColumn (f : SourceFile) :
    StrictMonoOn (fun offset => toLex (f.lineColumn offset))
      {offset | IsBoundary f.content offset} := by
  intro offset boundary later boundary' lt
  obtain ⟨before, after, split, rfl⟩ := exists_split_of_isBoundary boundary
  obtain ⟨before', after', split', rfl⟩ := exists_split_of_isBoundary boundary'
  rw [split] at split'
  obtain ⟨more, rfl, rest⟩ | ⟨more, rfl, -⟩ := List.append_eq_append_iff.mp split'
  · apply lineColumn_lt
    · rw [split, rest, List.append_assoc]
    · rintro rfl
      simp at lt
  · rw [byteLength_append] at lt
    omega

theorem line_error_iff (n : Nat) :
    (∃ e, f.line n = .error e) ↔ n = 0 ∨ f.lineCount < n := by
  by_cases outside : n = 0 ∨ f.lineCount < n <;> simp [line, outside]

theorem line_eq {n : Nat} (positive : 0 < n) (listed : n ≤ f.lineCount) :
    ∃ raw, (f.content.toList.splitOn '\n')[n - 1]? = some raw ∧
      f.line n = .ok (String.ofList (raw.rdropWhile (· = '\r'))) := by
  have counted : n - 1 ≤ f.content.toList.count '\n' := by
    rw [lineCount_eq] at listed
    omega
  obtain ⟨before, after, split, count⟩ := exists_split_of_le_count counted
  obtain ⟨earlier, lines, length, _⟩ := splitOn_append before after
  have number : before.count '\n' + 1 = n := by omega
  have plain : '\n' ∉ lastLine before ++ firstLine after := by
    simp [lineFeed_not_mem_lastLine, lineFeed_not_mem_firstLine]
  refine ⟨lastLine before ++ firstLine after, ?_, ?_⟩
  · rw [split, lines, ← count, ← length]
    simp
  · rw [← withoutBreaks_of_not_mem plain, ← number]
    exact line_of_split split

theorem offset_of_lineColumn {offset : Nat} (boundary : IsBoundary f.content offset) :
    let (line, column) := f.lineColumn offset
    let lines := f.content.toList.splitOn '\n'
    ∃ raw, lines[line - 1]? = some raw ∧ column - 1 ≤ raw.length ∧
      byteLength ((lines.take (line - 1)).flatMap (· ++ ['\n'])) +
        byteLength (raw.take (column - 1)) = offset := by
  obtain ⟨before, after, split, rfl⟩ := exists_split_of_isBoundary boundary
  obtain ⟨earlier, lines, length, whole⟩ := splitOn_append before after
  rw [lineColumn_of_split split]
  simp only [Nat.add_sub_cancel]
  refine ⟨lastLine before ++ firstLine after, ?_, ?_, ?_⟩
  · rw [split, lines, ← length]
    simp
  · simp
  · rw [split, lines, ← length, List.take_left, whole, List.take_left, ← byteLength_append,
      earlierLines_append_lastLine]

theorem isMapped (f : SourceFile) : f.IsMapped where
  place before after split := by
    rw [lineColumn_of_split split, Nat.add_comm, Nat.add_comm (lastLine before).length]
  clamped _ past := lineColumn_of_le past
  increasing := strictMonoOn_lineColumn f
  injective offset boundary offset' boundary' same :=
    (strictMonoOn_lineColumn f).injOn boundary boundary' (congrArg toLex same)
  count := by rw [lineCount_eq, Nat.add_comm]
  outside := line_error_iff
  inside _ := line_eq
  back _ := offset_of_lineColumn

end SourceFile

end ScriptLens
