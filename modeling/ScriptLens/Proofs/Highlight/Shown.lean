import ScriptLens.Proofs.Highlight.Gutter
import ScriptLens.Proofs.Highlight.Terminal

namespace ScriptLens

open Text

namespace Cell

def isLineFeed (cell : Cell) : Bool := Text.isLineFeed cell.char

theorem linesBy_map_char (cells : List Cell) :
    linesBy Text.isLineFeed (cells.map char) = (linesBy isLineFeed cells).map (·.map char) :=
  linesBy_map (fun _ => rfl) cells

end Cell

def TokenKind.cell (kind : TokenKind) (c : Char) : Cell :=
  ⟨c, if c = '\n' then .plain else kind.style⟩

def Token.cells (t : Token) : List Cell := t.lexeme.toList.map t.kind.cell

namespace Canvas

def colored (lineCount : Option Nat) : Canvas := ⟨true, lineCount⟩

def frontCells (lineCount : Option Nat) (line : Nat) : List Cell :=
  ((uncolored lineCount).front line).map (⟨·, { TokenKind.comment.style with italic := false }⟩)

def cells (lineCount : Option Nat) (source : String) : List Cell :=
  numbered (frontCells lineCount) 1
    (linesBy Cell.isLineFeed ((tokenize source).flatMap Token.cells))

end Canvas

namespace KindPiece

def cells (p : KindPiece) : List Cell := p.2.chars.map p.1.cell

variable {p : KindPiece} {source : String}

theorem flatMap_cells_sourcePieces (source : String) :
    (sourcePieces source).flatMap cells = (tokenize source).flatMap Token.cells := by
  rw [sourcePieces, List.flatMap_assoc]
  congr 1
  funext t
  rw [Token.cells, ← t.flatMap_chars_pieces, List.map_flatMap, Token.pieces, List.flatMap_map,
    List.flatMap_map]
  rfl

theorem map_cell {kind : TokenKind} {cs : List Char} (inside : '\n' ∉ cs) :
    cs.map kind.cell = cs.map (⟨·, kind.style⟩) := by
  apply List.map_congr_left
  intro c member
  rw [TokenKind.cell, if_neg]
  rintro rfl
  exact inside member

theorem linePart_cells (proper : p.2.Proper) : LinePart Cell.isLineFeed p.ended p.cells :=
  (proper.linePart (isLineFeed_of_notMem proper.inside) rfl id).map fun _ => rfl

theorem linePart_ink (lineCount : Option Nat) (proper : p.2.Proper) :
    LinePart isLineFeed p.ended ((Canvas.colored lineCount).ink p) := by
  refine proper.linePart (isLineFeed_of_notMem ?_) rfl ?_
  · exact Style.isLine_paint _ (isLine_ofList.mpr proper.inside)
  · intro text
    rw [Style.paint]
    split <;> simp [text, Style.offSequence, Style.escape]

theorem shows_ink (lineCount : Option Nat) (proper : p.2.Proper) (plain : '\x1b' ∉ p.2.text) :
    Terminal.Shows ((Canvas.colored lineCount).ink p) p.cells := by
  have text := Terminal.Shows.paint p.1.style plain
  rw [← map_cell proper.inside] at text
  rw [cells, LinePiece.chars, List.map_append]
  refine text.append ?_
  rw [LinePiece.feed]
  cases p.2.ended with
  | false => exact .nil
  | true => exact .lineFeed

end KindPiece

namespace Canvas

theorem front_colored (count line : Nat) :
    (colored (some count)).front line =
      (Style.gutter.paint
        (alignRight (toString count).length (toString line) ++ " | ")).toList := by
  simp [front, gutter, colored]

theorem lineFeed_not_mem_front (lineCount : Option Nat) (line : Nat) :
    '\n' ∉ (colored lineCount).front line := by
  cases lineCount with
  | none => exact List.not_mem_nil
  | some count =>
    rw [front_colored]
    exact Style.isLine_paint .gutter (not_mem_front (c := '\n') (by decide) (some count) line)

theorem shows_front (lineCount : Option Nat) (line : Nat) :
    Terminal.Shows ((colored lineCount).front line) (frontCells lineCount line) := by
  cases lineCount with
  | none => exact .nil
  | some count =>
    have text := Terminal.Shows.paint .gutter
      (not_mem_front (c := '\x1b') (by decide) (some count) line)
    rw [front_some, String.ofList_toList] at text
    rw [front_colored, frontCells, front_some]
    exact text

theorem isLineFeed_of_mem_frontCells (lineCount : Option Nat) (line : Nat) :
    ∀ cell ∈ frontCells lineCount line, cell.isLineFeed = false :=
  List.forall_mem_map.mpr
    (isLineFeed_of_notMem (not_mem_front (c := '\n') (by decide) lineCount line))

theorem map_char_cells (lineCount : Option Nat) (source : String) :
    (cells lineCount source).map Cell.char = (render (.uncolored lineCount) source).toList := by
  have front : (fun line => (frontCells lineCount line).map Cell.char) =
      (uncolored lineCount).front := by
    funext line
    rw [frontCells, List.map_map]
    exact List.map_id _
  have text : ((tokenize source).flatMap Token.cells).map Cell.char = source.toList := by
    rw [List.map_flatMap, ← flatMap_lexeme_tokenize]
    congr 1
    funext t
    rw [Token.cells, List.map_map]
    exact List.map_id _
  rw [cells, map_numbered, front, ← Cell.linesBy_map_char, text,
    toList_render_uncolored]

theorem style_of_lineFeed {lineCount : Option Nat} {source : String} {cell : Cell}
    (member : cell ∈ cells lineCount source) (feed : cell.char = '\n') : cell.style = .plain := by
  obtain ⟨line, ahead⟩ | here := mem_numbered member
  · have other := isLineFeed_of_mem_frontCells lineCount line cell ahead
    rw [Cell.isLineFeed, feed] at other
    cases other
  · rw [flatten_linesBy] at here
    obtain ⟨t, _, found⟩ := List.mem_flatMap.mp here
    obtain ⟨c, _, rfl⟩ := List.mem_map.mp found
    exact if_pos feed

theorem linesBy_cells (lineCount : Option Nat) (source : String) :
    linesBy Cell.isLineFeed (cells lineCount source) =
      ((linesBy KindPiece.ended (sourcePieces source)).map (·.flatMap KindPiece.cells)).mapIdx
        fun i line => frontCells lineCount (1 + i) ++ line := by
  have rows : linesBy Cell.isLineFeed ((sourcePieces source).flatMap KindPiece.cells) =
      (linesBy KindPiece.ended (sourcePieces source)).map (·.flatMap KindPiece.cells) :=
    linesBy_flatMap fun p member => KindPiece.linePart_cells (proper_of_mem_sourcePieces member)
  rw [cells, linesBy_numbered (isLineFeed_of_mem_frontCells lineCount),
    ← KindPiece.flatMap_cells_sourcePieces, rows]

theorem linesBy_render_colored (lineCount : Option Nat) (source : String) :
    linesBy isLineFeed (render (colored lineCount) source).toList =
      ((linesBy KindPiece.ended (sourcePieces source)).map
        (·.flatMap (colored lineCount).ink)).mapIdx
          fun i line => (colored lineCount).front (1 + i) ++ line := by
  have rows : linesBy isLineFeed ((sourcePieces source).flatMap (colored lineCount).ink) =
      (linesBy KindPiece.ended (sourcePieces source)).map (·.flatMap (colored lineCount).ink) :=
    linesBy_flatMap fun p member =>
      KindPiece.linePart_ink lineCount (proper_of_mem_sourcePieces member)
  have inside := fun line => isLineFeed_of_notMem (lineFeed_not_mem_front lineCount line)
  rw [toList_render, ← rows, linesBy_numbered inside]

/-- Every line that is drawn shows a line, from one plain state to the next. -/
theorem forall₂_shows (lineCount : Option Nat) {source : String}
    (plain : '\x1b' ∉ source.toList) :
    List.Forall₂ Terminal.Shows (linesBy isLineFeed (render (colored lineCount) source).toList)
      (linesBy Cell.isLineFeed (cells lineCount source)) := by
  have pieces : ∀ p ∈ sourcePieces source,
      Terminal.Shows ((colored lineCount).ink p) p.cells := by
    intro p member
    refine KindPiece.shows_ink lineCount (proper_of_mem_sourcePieces member) fun found => plain ?_
    rw [← flatMap_chars_sourcePieces]
    exact List.mem_flatMap_of_mem member (List.mem_append_left _ found)
  rw [linesBy_render_colored, linesBy_cells, List.forall₂_iff_get]
  refine ⟨by simp, ?_⟩
  intro i drawn shown
  simp only [List.get_eq_getElem, List.getElem_mapIdx, List.getElem_map]
  refine (shows_front lineCount (1 + i)).append (.flatMap fun p member => pieces p ?_)
  exact mem_of_mem_linesBy (List.getElem_mem _) member

end Canvas

theorem terminal_render (lineCount : Option Nat) {source : String}
    (plain : '\x1b' ∉ source.toList) :
    let cells := Canvas.cells lineCount source
    Terminal.feed {} (render ⟨true, lineCount⟩ source).toList = .idle cells ∧
      cells.map Cell.char = (render ⟨false, lineCount⟩ source).toList ∧
      (∀ cell ∈ cells, cell.char = '\n' → cell.style = .plain) ∧
      (lines (render ⟨true, lineCount⟩ source)).map (fun line => Terminal.feed {} line.toList) =
        (linesBy Cell.isLineFeed cells).map .idle := by
  have each := Canvas.forall₂_shows lineCount plain
  have whole := Terminal.Shows.flatten each []
  rw [flatten_linesBy, flatten_linesBy] at whole
  refine ⟨whole, Canvas.map_char_cells lineCount source, ?_, ?_⟩
  · intro cell member
    exact Canvas.style_of_lineFeed member
  · rw [lines, List.map_map, ← List.forall₂_eq_eq_eq, List.forall₂_map_left_iff,
      List.forall₂_map_right_iff]
    refine each.imp fun cs row row_shown => ?_
    rw [Function.comp_apply, String.toList_ofList]
    exact row_shown []

theorem terminal_render_template :
    '\x1b' ∉ "`a\n\n` @".toList ∧
      let front : Style := { foreground := some ⟨128, 128, 128⟩ }
      let cells : List Cell :=
        "1 | ".toList.map (⟨·, front⟩) ++ "`a".toList.map (⟨·, TokenKind.string.style⟩) ++
        [⟨'\n', .plain⟩] ++
        "2 | ".toList.map (⟨·, front⟩) ++ [⟨'\n', .plain⟩] ++
        "3 | ".toList.map (⟨·, front⟩) ++
        [⟨'`', TokenKind.string.style⟩, ⟨' ', .plain⟩, ⟨'@', TokenKind.error.style⟩]
      Terminal.feed {} (render ⟨true, some 3⟩ "`a\n\n` @").toList = .idle cells ∧
        cells.map Cell.char = (render ⟨false, some 3⟩ "`a\n\n` @").toList ∧
        (∀ cell ∈ cells, cell.char = '\n' → cell.style = .plain) ∧
        (lines (render ⟨true, some 3⟩ "`a\n\n` @")).map
            (fun line => Terminal.feed {} line.toList) =
          (linesBy Cell.isLineFeed cells).map .idle := by
  have plain : '\x1b' ∉ "`a\n\n` @".toList := by decide
  refine ⟨plain, ?_⟩
  intro front cells
  have same : Canvas.cells (some 3) "`a\n\n` @" = cells := by
    rw [Canvas.cells, tokenize_eq_scansUpTo]
    decide
  rw [← same]
  exact terminal_render (some 3) plain

end ScriptLens
