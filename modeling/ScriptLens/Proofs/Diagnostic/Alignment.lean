import ScriptLens.Proofs.Diagnostic.Carets
import ScriptLens.Proofs.Text.Tabs

namespace ScriptLens

open Text

namespace Snippet

variable {s : Snippet} {stop : Nat}

def margin (s : Snippet) : String := s.gutter ++ " | "

def blankMargin (s : Snippet) : String := fill s.gutter.length ' ' ++ " | "

def numberedLine (s : Snippet) : String := s.margin ++ s.line

def caretRow (s : Snippet) : String :=
  s.blankMargin ++ .ofList (s.indentation ++ List.replicate s.caretCount '^')

/-- The cell in which a column of the line is seen, behind the cells of all that stands in front of
it.  Past the end of the line each column has one cell. -/
def columnCell (s : Snippet) (stop column : Nat) : Nat :=
  if column ≤ s.line.length then
    (display stop (s.margin ++ .ofList (s.line.toList.take (column - 1)))).length
  else (display stop s.numberedLine).length + (column - s.line.length - 1)

/-- Two lines.  On the second the first caret is in the cell of the start column, and nothing is
behind the last, however far the tab stops are apart. -/
def IsAligned (s : Snippet) (text : String) : Prop :=
  ∃ below, text = s.numberedLine ++ "\n" ++ below ∧ IsLine s.numberedLine ∧ IsLine below ∧
    ∀ stop, 0 < stop → ∃ lead,
      display stop below =
        lead ++ List.replicate (max 1 (s.endColumn - s.startColumn)) '^' ∧
      '^' ∉ lead ∧ lead.length = s.columnCell stop s.startColumn

theorem format_eq_rows (s : Snippet) : s.format = s.numberedLine ++ "\n" ++ s.caretRow := by
  have carets : fill s.caretCount '^' = .ofList (List.replicate s.caretCount '^') := rfl
  rw [format, caretRow, blankMargin, length_gutter, carets, String.ofList_append]
  simp [numberedLine, margin, gutter, String.append_assoc]

theorem mem_margin {c : Char} (member : c ∈ s.margin.toList) :
    c = ' ' ∨ c = '|' ∨ c.isDigit = true := by
  simp only [margin, gutter, alignRight, Nat.toString_eq_repr, String.toList_append, toList_fill,
    Nat.toList_repr, List.mem_append, List.mem_replicate] at member
  obtain (⟨_, blank⟩ | digit) | bar := member
  · exact .inl blank
  · exact .inr (.inr (Nat.isDigit_of_mem_toDigits (by decide) (by decide) digit))
  · have listed : c ∈ [' ', '|', ' '] := bar
    grind

theorem tab_not_mem_margin (s : Snippet) : '\t' ∉ s.margin.toList := by
  intro member
  obtain tab | tab | tab := mem_margin member <;> cases tab

theorem tab_not_mem_blankMargin (s : Snippet) : '\t' ∉ s.blankMargin.toList := by
  simp [blankMargin]

theorem length_blankMargin (s : Snippet) : s.blankMargin.length = s.margin.length := by
  simp [blankMargin, margin]

theorem mem_caretRow {c : Char} (member : c ∈ s.caretRow.toList) :
    c = ' ' ∨ c = '|' ∨ c = '\t' ∨ c = '^' := by
  simp only [caretRow, blankMargin, String.toList_append, toList_fill, String.toList_ofList,
    List.mem_append, List.mem_replicate] at member
  obtain (⟨_, blank⟩ | bar) | lead | ⟨_, caret⟩ := member
  · exact .inl blank
  · have listed : c ∈ [' ', '|', ' '] := bar
    grind
  · have below := mem_indentation lead
    grind
  · exact .inr (.inr (.inr caret))

theorem isLine_numberedLine (single : IsLine s.line) : IsLine s.numberedLine := by
  have margin : IsLine s.margin := by
    intro member
    obtain feed | feed | feed := mem_margin member <;> cases feed
  exact isLine_append.mpr ⟨margin, single⟩

theorem isLine_caretRow (s : Snippet) : IsLine s.caretRow := by
  intro member
  obtain feed | feed | feed | feed := mem_caretRow member <;> cases feed

theorem display_margin (apart : 0 < stop) (s : Snippet) (cs : List Char) :
    display stop (s.margin ++ .ofList cs) =
      s.margin.toList ++ displayFrom stop s.margin.length cs :=
  display_append s.tab_not_mem_margin apart cs

def blankCells (s : Snippet) (stop : Nat) : Nat :=
  (displayFrom stop s.margin.length (s.line.toList.take (s.startColumn - 1))).length +
    (s.startColumn - 1 - s.line.length)

theorem columnCell_startColumn (apart : 0 < stop) (s : Snippet) :
    s.columnCell stop s.startColumn = s.margin.length + s.blankCells stop := by
  rw [columnCell, blankCells]
  split
  · rename_i inside
    have room : s.startColumn - 1 - s.line.length = 0 := by omega
    rw [display_margin apart, List.length_append, String.length_toList, room, Nat.add_zero]
  · rename_i beyond
    have whole : s.line.toList.take (s.startColumn - 1) = s.line.toList :=
      List.take_of_length_le (by rw [String.length_toList]; omega)
    have row := display_margin apart s s.line.toList
    rw [String.ofList_toList, ← numberedLine] at row
    rw [row, whole, List.length_append, String.length_toList]
    omega

theorem display_caretRow (apart : 0 < stop) (s : Snippet) :
    display stop s.caretRow =
      s.blankMargin.toList ++ List.replicate (s.blankCells stop) ' ' ++
        List.replicate s.caretCount '^' := by
  have solid (n cell : Nat) {c : Char} (other : '\t' ≠ c) :
      displayFrom stop cell (List.replicate n c) = List.replicate n c := by
    apply displayFrom_of_not_mem
    simp [other]
  -- The first part of the indentation reaches as far as the line does up to the column, and the
  -- rest of it is there where the line is shorter.
  rw [caretRow, display_append s.tab_not_mem_blankMargin apart, length_blankMargin,
    displayFrom_append apart, indentation, displayFrom_append apart, displayFrom_below,
    solid _ _ (by decide), solid _ _ (by decide), List.replicate_append_replicate, blankCells,
    List.append_assoc]

theorem isAligned_format (single : IsLine s.line) : s.IsAligned s.format := by
  refine ⟨s.caretRow, s.format_eq_rows, isLine_numberedLine single, s.isLine_caretRow, ?_⟩
  intro stop apart
  refine ⟨s.blankMargin.toList ++ List.replicate (s.blankCells stop) ' ', ?_, ?_, ?_⟩
  · rw [display_caretRow apart, caretCount, Nat.max_comm]
  · simp [blankMargin]
  · rw [columnCell_startColumn apart, List.length_append, List.length_replicate,
      String.length_toList, length_blankMargin]

theorem caretCount_le_utf8ByteSize (s : Snippet) : s.caretCount ≤ s.format.utf8ByteSize := by
  have row : s.caretCount ≤ s.caretRow.length := by
    simp only [caretRow, String.length_append, String.length_ofList, List.length_append,
      List.length_replicate]
    omega
  have bytes : s.caretRow.length ≤ s.caretRow.utf8ByteSize := length_le_utf8ByteSize _
  rw [format_eq_rows, String.utf8ByteSize_append]
  omega

theorem format?_eq_some_iff {text : String} :
    s.format? = some text ↔ s.caretCount ≤ maxCarets ∧ text = s.format := by
  rw [format?, Option.ite_none_right_eq_some, Option.some_inj, eq_comm (a := text)]

/-- Whenever a snippet of one line is formatted, its carets are seen below the start column wherever
the tab stops are.  It is formatted at least where both rows have no more than 2^62 bytes. -/
theorem carets_aligned (single : IsLine s.line) :
    (∀ text, s.format? = some text → s.IsAligned text) ∧
      (s.format.utf8ByteSize ≤ 1 <<< 62 → ∃ text, s.format? = some text) := by
  constructor
  · intro text formatted
    obtain ⟨_, rfl⟩ := format?_eq_some_iff.mp formatted
    exact isAligned_format single
  · intro small
    have room : s.caretCount ≤ maxCarets := by
      calc s.caretCount
        _ ≤ s.format.utf8ByteSize := s.caretCount_le_utf8ByteSize
        _ ≤ 1 <<< 62 := small
        _ ≤ maxCarets := by decide
    exact ⟨s.format, format?_eq_some_iff.mpr ⟨room, rfl⟩⟩

theorem carets_aligned_tabs :
    let s : Snippet := ⟨"\té\tx", 1000, 4, 6⟩
    IsLine s.line ∧ s.format.utf8ByteSize ≤ 1 <<< 62 ∧
      ∃ text, s.format? = some text ∧ s.IsAligned text := by
  intro s
  have single : IsLine s.line := by decide
  have small : s.format.utf8ByteSize ≤ 1 <<< 62 := by decide
  obtain ⟨aligned, formatted⟩ := carets_aligned single
  obtain ⟨text, formatted⟩ := formatted small
  exact ⟨single, small, text, formatted, aligned text formatted⟩

theorem not_exists_aligned :
    let s : Snippet := ⟨"abc", 1, 1, 18446744073709551615⟩
    IsLine s.line ∧ 1 ≤ s.startColumn ∧ ¬∃ text, s.format? = some text ∧ s.IsAligned text := by
  intro s
  refine ⟨by decide, by decide, ?_⟩
  rintro ⟨text, formatted, _⟩
  exact absurd (format?_eq_some_iff.mp formatted).1 (by decide)

end Snippet

end ScriptLens
