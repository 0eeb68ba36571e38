import ScriptLens.Proofs.Highlight.Pieces
import ScriptLens.Proofs.Source.LineTable
import ScriptLens.Proofs.Text.Lines
import ScriptLens.Source.File

namespace ScriptLens

open Text

namespace Canvas

def uncolored (lineCount : Option Nat) : Canvas := ⟨false, lineCount⟩

theorem front_some (count line : Nat) :
    (uncolored (some count)).front line =
      (alignRight (toString count).length (toString line) ++ " | ").toList := rfl

theorem front_none : (uncolored none).front = fun _ => [] := rfl

theorem mem_front {lineCount : Option Nat} {line : Nat} {c : Char}
    (member : c ∈ (uncolored lineCount).front line) : c = ' ' ∨ c = '|' ∨ c.isDigit = true := by
  cases lineCount with
  | none => simp [front_none] at member
  | some count =>
    rw [front_some, alignRight, String.toList_append, String.toList_append, List.mem_append,
      List.mem_append, toList_fill, Nat.toString_eq_repr, Nat.toString_eq_repr,
      Nat.toList_repr] at member
    obtain (blank | digit) | bar := member
    · exact .inl (List.eq_of_mem_replicate blank)
    · exact .inr (.inr (Nat.isDigit_of_mem_toDigits (by decide) (by decide) digit))
    · have bars : " | ".toList = [' ', '|', ' '] := rfl
      rw [bars, List.mem_cons, List.mem_cons, List.mem_singleton] at bar
      obtain blank | upright | blank := bar
      · exact .inl blank
      · exact .inr (.inl upright)
      · exact .inl blank

theorem not_mem_front {c : Char} (other : ¬(c = ' ' ∨ c = '|' ∨ c.isDigit = true))
    (lineCount : Option Nat) (line : Nat) : c ∉ (uncolored lineCount).front line :=
  fun member => other (mem_front member)

end Canvas

theorem paint_plain (text : String) : Style.plain.paint text = text := by
  simp [Style.paint, Style.isPlain]

theorem ink_uncolored (lineCount : Option Nat) :
    (Canvas.uncolored lineCount).ink = fun p => p.2.chars := by
  funext p
  have plain : (Canvas.uncolored lineCount).styleFor p.1 = .plain := rfl
  rw [Canvas.ink, plain, paint_plain, LinePiece.chars, String.toList_ofList]

theorem linesBy_toList (source : String) :
    linesBy isLineFeed source.toList =
      (linesBy KindPiece.ended (sourcePieces source)).map (·.flatMap fun p => p.2.chars) := by
  rw [← linesBy_flatMap, flatMap_chars_sourcePieces]
  intro p member
  have proper := proper_of_mem_sourcePieces member
  exact proper.linePart (isLineFeed_of_notMem proper.inside) rfl id

theorem toList_render_uncolored (lineCount : Option Nat) (source : String) :
    (render (.uncolored lineCount) source).toList =
      numbered (Canvas.uncolored lineCount).front 1 (linesBy isLineFeed source.toList) := by
  rw [toList_render, ink_uncolored, linesBy_toList]

end ScriptLens
