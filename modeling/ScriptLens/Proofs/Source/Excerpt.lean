import ScriptLens.Proofs.Source.LineTable

namespace ScriptLens

open Text

namespace SourceFile

theorem withoutBreaks_concat {c : Char} (breaks : isBreak c = true) (cs : List Char) :
    withoutBreaks (cs ++ [c]) = withoutBreaks cs := by
  simp [withoutBreaks, breaks]

theorem withoutBreaks_append {as : List Char} (solid : ∀ c ∈ as.getLast?, isBreak c = false)
    (bs : List Char) : withoutBreaks (as ++ bs) = as ++ withoutBreaks bs := by
  have kept : as.reverse.dropWhile isBreak = as.reverse := by
    rw [← List.head?_reverse] at solid
    cases reversed : as.reverse with
    | nil => rfl
    | cons c more => simp [solid c (by simp [reversed])]
  rw [withoutBreaks, withoutBreaks, List.reverse_append, List.dropWhile_append]
  split
  · rename_i empty
    rw [kept, List.isEmpty_iff.mp empty]
    simp
  · simp

theorem mem_of_mem_withoutBreaks {c : Char} {cs : List Char} (member : c ∈ withoutBreaks cs) :
    c ∈ cs := by
  rw [withoutBreaks, List.mem_reverse] at member
  simpa using List.dropWhile_subset _ member

variable {f : SourceFile} {before middle after : List Char}

theorem getD_lineStarts {i : Nat} (listed : i < f.lineCount) (n : Nat) :
    f.lineStarts.getD i n = f.lineStart i := by
  rw [lineStart, Array.getD_eq_getD_getElem?, Array.getD_eq_getD_getElem?,
    Array.getElem?_eq_getElem listed]
  rfl

theorem slice?_line_of_last (split : f.content.toList = before ++ after)
    (last : after = firstLine after) :
    slice? f.content.toList (f.lineStart (before.count '\n'))
        (f.lineStarts.getD (before.count '\n' + 1) f.content.utf8ByteSize) =
      some (lastLine before ++ firstLine after) := by
  have whole := earlierLines_append_lastLine before
  have lines : f.lineCount = before.count '\n' + 1 := by
    rw [lineCount_eq, split, List.count_append, last,
      List.count_eq_zero.mpr (lineFeed_not_mem_firstLine after), Nat.add_zero]
  have size : f.content.utf8ByteSize =
      byteLength (earlierLines before) + byteLength (lastLine before ++ firstLine after) := by
    rw [← byteLength_toList, split, ← byteLength_append, ← List.append_assoc, whole, ← last]
  have all : f.content.toList =
      earlierLines before ++ (lastLine before ++ firstLine after) ++ [] := by
    rw [List.append_nil, ← List.append_assoc, whole, ← last, split]
  rw [lineStart_of_split split, ← lines, lineCount, Array.getD_eq_getD_getElem?,
    Array.getElem?_eq_none (Nat.le_refl _), Option.getD_none, size, all]
  exact slice?_append _ _ _

theorem slice?_line_of_next (split : f.content.toList = before ++ after) {more : List Char}
    (next : after = firstLine after ++ '\n' :: more) :
    slice? f.content.toList (f.lineStart (before.count '\n'))
        (f.lineStarts.getD (before.count '\n' + 1) f.content.utf8ByteSize) =
      some (lastLine before ++ firstLine after ++ ['\n']) := by
  have whole := earlierLines_append_lastLine before
  have later : f.content.toList = (before ++ firstLine after ++ ['\n']) ++ more := by
    calc
      f.content.toList = before ++ (firstLine after ++ '\n' :: more) := by rw [← next, split]
      _ = (before ++ firstLine after ++ ['\n']) ++ more := by simp
  have count : (before ++ firstLine after ++ ['\n']).count '\n' = before.count '\n' + 1 := by
    simp [List.count_eq_zero.mpr (lineFeed_not_mem_firstLine after)]
  have listed : before.count '\n' + 1 < f.lineCount := by
    rw [lineCount_eq, later, List.count_append, count]
    omega
  have start := lineStart_of_split later
  rw [count, earlierLines_concat, if_pos rfl] at start
  have stop : byteLength (before ++ firstLine after ++ ['\n']) =
      byteLength (earlierLines before) +
        byteLength (lastLine before ++ firstLine after ++ ['\n']) := by
    rw [← byteLength_append, ← List.append_assoc, ← List.append_assoc, whole]
  have all : f.content.toList =
      earlierLines before ++ (lastLine before ++ firstLine after ++ ['\n']) ++ more := by
    rw [later, ← List.append_assoc, ← List.append_assoc, whole]
  rw [lineStart_of_split split, getD_lineStarts listed, start, stop, all]
  exact slice?_append _ _ _

theorem line_of_split (split : f.content.toList = before ++ after) :
    f.line (before.count '\n' + 1) =
      .ok (String.ofList (withoutBreaks (lastLine before ++ firstLine after))) := by
  have inside : ¬(before.count '\n' + 1 = 0 ∨ f.lineCount < before.count '\n' + 1) := by
    rw [lineCount_eq, split, List.count_append]
    omega
  obtain last | ⟨more, next⟩ := firstLine_cases after
  · simp only [line, if_neg inside, Nat.add_sub_cancel, slice?_line_of_last split last,
      Option.getD_some]
  · simp only [line, if_neg inside, Nat.add_sub_cancel, slice?_line_of_next split next,
      Option.getD_some, withoutBreaks_concat (c := '\n') rfl]

theorem snippet_of_split (split : f.content.toList = before ++ middle ++ after)
    (position : Position) :
    f.snippet ⟨byteLength before, byteLength before + byteLength middle, position⟩ =
      let shown := withoutBreaks (lastLine before ++ firstLine (middle ++ after))
      let column := (lastLine before).length + 1
      .ok ⟨String.ofList shown, before.count '\n' + 1, column,
        min (column + (middle.takeWhile fun c => !isBreak c).length) (shown.length + 1)⟩ := by
  have inOrder : ¬byteLength before + byteLength middle < byteLength before := by omega
  have inside : ¬f.content.utf8ByteSize < byteLength before + byteLength middle := by
    rw [← byteLength_toList, split, byteLength_append, byteLength_append]
    omega
  have text : slice? f.content.toList (byteLength before)
      (byteLength before + byteLength middle) = some middle := by
    rw [split]
    exact slice?_append before middle after
  rw [List.append_assoc] at split
  simp [snippet, inOrder, inside, lineColumn_of_split split, line_of_split split, text]

end SourceFile

end ScriptLens
