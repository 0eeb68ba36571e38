import ScriptLens.Highlight.Style
import ScriptLens.Lexer.Basic
import ScriptLens.Text.Align

namespace ScriptLens

structure LinePiece where
  text : List Char
  ended : Bool
  deriving DecidableEq

/-- A text cut after each of its line feeds.  There is no empty piece at the end. -/
def LinePiece.ofText : List Char → List LinePiece
  | [] => []
  | c :: cs =>
    if c = '\n' then ⟨[], true⟩ :: ofText cs
    else
      match ofText cs with
      | [] => [⟨[c], false⟩]
      | piece :: pieces => { piece with text := c :: piece.text } :: pieces

structure Canvas where
  color : Bool
  lineCount : Option Nat

namespace Canvas

def styleFor (v : Canvas) (kind : TokenKind) : Style := if v.color then kind.style else .plain

/-- What stands in front of a line: its number, to the right of a column as wide as the number of
lines. -/
def gutter (v : Canvas) (line : Nat) : String :=
  match v.lineCount with
  | none => ""
  | some count =>
    let text := Text.alignRight (toString count).length (toString line) ++ " | "
    if v.color then Style.gutter.paint text else text

end Canvas

structure Drawing where
  out : String := ""
  line : Nat := 1
  atLineStart : Bool := true

namespace Drawing

def piece (canvas : Canvas) (style : Style) (d : Drawing) (p : LinePiece) : Drawing :=
  let out := d.out ++ (if d.atLineStart then canvas.gutter d.line else "") ++
    style.paint (String.ofList p.text)
  if p.ended then ⟨out ++ "\n", d.line + 1, true⟩ else ⟨out, d.line, false⟩

def token (canvas : Canvas) (d : Drawing) (t : Token) : Drawing :=
  (LinePiece.ofText t.lexeme.toList).foldl (piece canvas (canvas.styleFor t.kind)) d

end Drawing

def render (canvas : Canvas) (source : String) : String :=
  ((tokenize source).foldl (Drawing.token canvas) {}).out

end ScriptLens
