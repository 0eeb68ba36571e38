/-! # Positions and spans

A position is a line and a column as a reader counts them: both from one, the column in
characters.  They are 32-bit words and wrap.  A span is a range of bytes with the position of its
first character. -/

namespace ScriptLens

structure Position where
  line : UInt32
  column : UInt32
  deriving DecidableEq, Inhabited

namespace Position

def first : Position := ⟨1, 1⟩

def after (p : Position) (c : Char) : Position :=
  if c = '\n' then ⟨p.line + 1, 1⟩ else ⟨p.line, p.column + 1⟩

def afterAll (p : Position) (cs : List Char) : Position := cs.foldl after p

@[simp] theorem afterAll_nil (p : Position) : p.afterAll [] = p := rfl

@[simp] theorem afterAll_cons (p : Position) (c : Char) (cs : List Char) :
    p.afterAll (c :: cs) = (p.after c).afterAll cs := rfl

@[simp] theorem afterAll_append (p : Position) (as bs : List Char) :
    p.afterAll (as ++ bs) = (p.afterAll as).afterAll bs := by simp [afterAll]

def text (p : Position) : String := toString p.line.toNat ++ ":" ++ toString p.column.toNat

end Position

structure Span where
  start : Nat
  stop : Nat
  position : Position
  deriving DecidableEq, Inhabited

namespace Span

def nowhere : Span := ⟨0, 0, ⟨0, 0⟩⟩

def length (s : Span) : Nat := s.stop - s.start

def isEmpty (s : Span) : Bool := s.length == 0

end Span

end ScriptLens
