import ScriptLens.Highlight.Render
import ScriptLens.Proofs.Lexer.Partition
import ScriptLens.Proofs.Text.Numbering

namespace ScriptLens

open Text

namespace LinePiece

def feed (p : LinePiece) : List Char := if p.ended then ['\n'] else []

def chars (p : LinePiece) : List Char := p.text ++ p.feed

structure Proper (p : LinePiece) : Prop where
  inside : '\n' ∉ p.text
  nonempty : p.ended = false → p.text ≠ []

theorem Proper.linePart {α : Type} {ends : α → Bool} {p : LinePiece} {body : List α} {a : α}
    (proper : p.Proper) (inside : ∀ b ∈ body, ends b = false) (last : ends a = true)
    (some : p.text ≠ [] → body ≠ []) :
    LinePart ends p.ended (body ++ if p.ended then [a] else []) := by
  cases ended : p.ended with
  | false => simpa using LinePart.inner (some (proper.nonempty ended)) inside
  | true => exact .closing inside last

theorem flatMap_chars_ofText (cs : List Char) : (ofText cs).flatMap chars = cs := by
  induction cs with
  | nil => rfl
  | cons c cs ih =>
    rw [ofText]
    split
    · rename_i feed
      rw [List.flatMap_cons, ih, feed]
      rfl
    · cases later : ofText cs with
      | nil =>
        rw [later] at ih
        rw [← ih]
        rfl
      | cons p ps =>
        rw [later, List.flatMap_cons] at ih
        rw [← ih]
        rfl

theorem proper_of_mem_ofText {cs : List Char} : ∀ p ∈ ofText cs, p.Proper := by
  induction cs with
  | nil => simp [ofText]
  | cons c cs ih =>
    rw [ofText]
    split
    · exact List.forall_mem_cons.mpr ⟨⟨by simp, by simp⟩, ih⟩
    · rename_i other
      cases later : ofText cs with
      | nil => simpa using Proper.mk (p := ⟨[c], false⟩) (by simpa using Ne.symm other) (by simp)
      | cons p ps =>
        rw [later] at ih
        obtain ⟨first, more⟩ := List.forall_mem_cons.mp ih
        refine List.forall_mem_cons.mpr ⟨⟨?_, by simp⟩, more⟩
        simpa using ⟨Ne.symm other, first.inside⟩

end LinePiece

abbrev KindPiece := TokenKind × LinePiece

namespace Token

def pieces (t : Token) : List KindPiece := (LinePiece.ofText t.lexeme.toList).map (t.kind, ·)

theorem flatMap_chars_pieces (t : Token) :
    t.pieces.flatMap (fun p => p.2.chars) = t.lexeme.toList := by
  rw [pieces, List.flatMap_map]
  exact LinePiece.flatMap_chars_ofText _

theorem proper_of_mem_pieces {t : Token} {p : KindPiece} (member : p ∈ t.pieces) :
    p.2.Proper := by
  obtain ⟨piece, found, rfl⟩ := List.mem_map.mp member
  exact LinePiece.proper_of_mem_ofText piece found

end Token

def KindPiece.ended (p : KindPiece) : Bool := p.2.ended

namespace Canvas

variable (canvas : Canvas)

def front (line : Nat) : List Char := (canvas.gutter line).toList

def ink (p : KindPiece) : List Char :=
  ((canvas.styleFor p.1).paint (String.ofList p.2.text)).toList ++ p.2.feed

end Canvas

namespace Drawing

def stroke (canvas : Canvas) (d : Drawing) (p : KindPiece) : Drawing :=
  d.piece canvas (canvas.styleFor p.1) p.2

/-- What is drawn before the next piece: the line number too, if that piece begins a line. -/
def due (canvas : Canvas) (d : Drawing) : List Char :=
  d.out.toList ++ if d.atLineStart then canvas.front d.line else []

variable {canvas : Canvas} {d : Drawing} {p : KindPiece}

theorem out_stroke : (d.stroke canvas p).out.toList = d.due canvas ++ canvas.ink p := by
  rw [stroke, piece, due, Canvas.ink, LinePiece.feed]
  cases d.atLineStart <;> cases p.2.ended <;> simp [Canvas.front]

theorem line_stroke :
    (d.stroke canvas p).line = if p.ended then d.line + 1 else d.line := by
  rw [stroke, piece, KindPiece.ended]
  cases p.2.ended <;> rfl

theorem atLineStart_stroke : (d.stroke canvas p).atLineStart = p.ended := by
  rw [stroke, piece, KindPiece.ended]
  cases p.2.ended <;> rfl

theorem token_eq_foldl (canvas : Canvas) (d : Drawing) (t : Token) :
    d.token canvas t = t.pieces.foldl (stroke canvas) d := by
  rw [token, Token.pieces, List.foldl_map]
  rfl

theorem due_foldl_stroke (canvas : Canvas) (d : Drawing) {ps : List KindPiece}
    (inside : ∀ p ∈ ps, p.ended = false) :
    (ps.foldl (stroke canvas) d).due canvas = d.due canvas ++ ps.flatMap canvas.ink ∧
      (ps.foldl (stroke canvas) d).line = d.line := by
  induction ps generalizing d with
  | nil => simp
  | cons p ps ih =>
    obtain ⟨here, later⟩ := List.forall_mem_cons.mp inside
    obtain ⟨drawn, line⟩ := ih (d.stroke canvas p) later
    have first : (d.stroke canvas p).due canvas = d.due canvas ++ canvas.ink p := by
      rw [due, atLineStart_stroke, here, out_stroke]
      exact List.append_nil _
    rw [line_stroke, here] at line
    rw [List.foldl_cons, drawn, first, List.flatMap_cons, List.append_assoc]
    exact ⟨rfl, line⟩

theorem out_foldl_stroke {ps : List KindPiece} (fresh : d.atLineStart = true) :
    (ps.foldl (stroke canvas) d).out.toList =
      d.out.toList ++ numbered canvas.front d.line
        ((linesBy KindPiece.ended ps).map (·.flatMap canvas.ink)) := by
  have numbering : d.due canvas = d.out.toList ++ canvas.front d.line := by rw [due, fresh]; rfl
  -- Within a line `due` says all there is to know; between lines, `line` and `atLineStart` do.
  induction ps using linesBy_induction KindPiece.ended generalizing d with
  | nil => simp
  | last body nonempty inside =>
    obtain ⟨before, p, rfl⟩ := (List.eq_nil_or_concat' body).resolve_left nonempty
    obtain ⟨drawn, _⟩ := due_foldl_stroke canvas d (List.forall_mem_append.mp inside).1
    rw [linesBy_of_forall nonempty inside, List.foldl_concat, out_stroke, drawn, numbering]
    simp
  | next body p rest inside last ih =>
    obtain ⟨drawn, line⟩ := due_foldl_stroke canvas d inside
    have again : ((body.foldl (stroke canvas) d).stroke canvas p).atLineStart = true := by
      rw [atLineStart_stroke, last]
    rw [linesBy_append_cons inside last, List.foldl_append, List.foldl_cons,
      ih again (by rw [due, again]; rfl), out_stroke, line_stroke, drawn, line, last, numbering]
    simp

end Drawing

def sourcePieces (source : String) : List KindPiece := (tokenize source).flatMap Token.pieces

variable {source : String}

theorem proper_of_mem_sourcePieces {p : KindPiece} (member : p ∈ sourcePieces source) :
    p.2.Proper := by
  obtain ⟨t, _, found⟩ := List.mem_flatMap.mp member
  exact Token.proper_of_mem_pieces found

theorem flatMap_lexeme_tokenize (source : String) :
    (tokenize source).flatMap (fun t => t.lexeme.toList) = source.toList := by
  have joined := congrArg String.toList (partition_tokenize source).joined
  rwa [String.toList_join, List.flatMap_map] at joined

theorem flatMap_chars_sourcePieces (source : String) :
    (sourcePieces source).flatMap (fun p => p.2.chars) = source.toList := by
  rw [sourcePieces, List.flatMap_assoc]
  simp only [Token.flatMap_chars_pieces, flatMap_lexeme_tokenize]

theorem toList_render (canvas : Canvas) (source : String) :
    (render canvas source).toList =
      numbered canvas.front 1
        ((linesBy KindPiece.ended (sourcePieces source)).map (·.flatMap canvas.ink)) := by
  have strokes : Drawing.token canvas = fun d t => t.pieces.foldl (Drawing.stroke canvas) d := by
    funext d t
    exact d.token_eq_foldl canvas t
  rw [render, strokes, ← List.foldl_flatMap]
  exact Drawing.out_foldl_stroke rfl

end ScriptLens
