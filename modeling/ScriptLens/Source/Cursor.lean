import ScriptLens.Source.Position
import ScriptLens.Text.Slice

/-! # Cursors

A cursor walks through a text one character at a time and keeps count of bytes, lines and columns
as it goes.  Beyond the end it shows the character NUL, so only `atEnd` tells the end of the text
from a NUL in it. -/

namespace ScriptLens

structure Cursor where
  source : String
  rest : List Char
  offset : Nat
  position : Position

namespace Cursor

def ofSource (source : String) : Cursor := ⟨source, source.toList, 0, .first⟩

def beyond : Char := '\x00'

def peek (c : Cursor) (n : Nat) : Char := c.rest[n]?.getD beyond

def current (c : Cursor) : Char := c.peek 0

def atEnd (c : Cursor) : Bool := c.rest.isEmpty

def advance (c : Cursor) : Cursor :=
  match c.rest with
  | [] => c
  | x :: xs =>
    { c with rest := xs, offset := c.offset + x.utf8Size, position := c.position.after x }

def advanceMany : Nat → Cursor → Cursor
  | 0, c => c
  | n + 1, c => if c.atEnd then c else advanceMany n c.advance

def eatWhile (p : Char → Bool) (c : Cursor) : Cursor :=
  advanceMany (c.rest.takeWhile p).length c

def accept (x : Char) (c : Cursor) : Bool × Cursor :=
  if c.rest.head? = some x then (true, c.advance) else (false, c)

/-- The text from a byte offset up to the cursor, if a character begins there. -/
def sliceFrom (c : Cursor) (start : Nat) : Option String :=
  (Text.slice? c.source.toList start c.offset).map String.ofList

def remaining (c : Cursor) : String := String.ofList c.rest

def spanTo (c later : Cursor) : Span := ⟨c.offset, later.offset, c.position⟩

@[simp] theorem rest_ofSource (s : String) : (ofSource s).rest = s.toList := rfl

@[simp] theorem rest_advance (c : Cursor) : c.advance.rest = c.rest.tail := by
  unfold advance
  split <;> simp_all

@[simp] theorem source_advance (c : Cursor) : c.advance.source = c.source := by
  unfold advance
  split <;> rfl

@[simp] theorem advanceMany_zero (c : Cursor) : advanceMany 0 c = c := rfl

theorem advanceMany_length {c : Cursor} {run rest : List Char} (ahead : c.rest = run ++ rest) :
    advanceMany run.length c =
      { c with rest := rest, offset := c.offset + Text.byteLength run,
               position := c.position.afterAll run } := by
  induction run generalizing c with
  | nil =>
    cases c
    simp_all
  | cons x xs ih =>
    have step : c.advance =
        { c with rest := xs ++ rest, offset := c.offset + x.utf8Size,
                 position := c.position.after x } := by
      unfold advance
      rw [ahead]
      rfl
    have more : c.atEnd = false := by simp [atEnd, ahead]
    rw [List.length_cons, advanceMany, more, step, if_neg (by simp), ih rfl]
    simp [Nat.add_assoc]

end Cursor

end ScriptLens
