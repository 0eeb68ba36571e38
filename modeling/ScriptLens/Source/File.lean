import ScriptLens.Source.Position
import ScriptLens.Source.Snippet
import ScriptLens.Text.Slice

namespace ScriptLens

/-- The least index from `low` up to `high` at which `below` fails, where it fails from some index
on; `high` if there is none. -/
def partitionPoint (below : Nat → Bool) (low high : Nat) : Nat :=
  if low < high then
    let middle := (low + high) / 2
    if below middle then partitionPoint below (middle + 1) high
    else partitionPoint below low middle
  else low
termination_by high - low

def lineStartsFrom (offset : Nat) : List Char → List Nat
  | [] => []
  | c :: cs =>
    if c = '\n' then (offset + c.utf8Size) :: lineStartsFrom (offset + c.utf8Size) cs
    else lineStartsFrom (offset + c.utf8Size) cs

def lineStartsOf (content : String) : Array Nat :=
  (0 :: lineStartsFrom 0 content.toList).toArray

structure SourceFile where
  name : String
  content : String
  lineStarts : Array Nat := lineStartsOf content
  lineStarts_eq : lineStarts = lineStartsOf content := by rfl

inductive SourceError
  | invertedSpan (start stop : Nat)
  | outOfBounds (size start stop : Nat)
  | noSuchLine (line count : Nat)
  | insideCharacter (start stop : Nat)
  deriving DecidableEq

def SourceError.message : SourceError → String
  | .invertedSpan start stop => s!"Invalid span: start {start} > end {stop}"
  | .outOfBounds size start stop =>
    s!"Span out of bounds: file has {size} bytes, span is {start}..{stop}"
  | .noSuchLine line count => s!"Invalid line number: {line} (file has {count} lines)"
  | .insideCharacter start stop => s!"Span {start}..{stop} ends inside a character"

namespace SourceFile

def ofContent (name content : String) : SourceFile := { name, content }

def lineCount (f : SourceFile) : Nat := f.lineStarts.size

def lineStart (f : SourceFile) (i : Nat) : Nat := f.lineStarts.getD i 0

def lineIndexAt (f : SourceFile) (offset : Nat) : Nat :=
  partitionPoint (fun i => decide (f.lineStart i ≤ offset)) 0 f.lineCount - 1

/-- Line and column of an offset, both from one.  An offset past the end counts as the end, and
inside a character the column counts bytes. -/
def lineColumn (f : SourceFile) (offset : Nat) : Nat × Nat :=
  let offset := min offset f.content.utf8ByteSize
  let index := f.lineIndexAt offset
  let start := f.lineStart index
  let before :=
    match Text.slice? f.content.toList start offset with
    | some cs => cs.length
    | none => offset - start
  (index + 1, before + 1)

def isBreak (c : Char) : Bool := c = '\n' || c = '\r'

def withoutBreaks (cs : List Char) : List Char := (cs.reverse.dropWhile isBreak).reverse

def line (f : SourceFile) (number : Nat) : Except SourceError String :=
  if number = 0 ∨ f.lineCount < number then .error (.noSuchLine number f.lineCount)
  else
    let start := f.lineStart (number - 1)
    let stop := f.lineStarts.getD number f.content.utf8ByteSize
    let text := (Text.slice? f.content.toList start stop).getD []
    .ok (String.ofList (withoutBreaks text))

def snippet (f : SourceFile) (span : Span) : Except SourceError Snippet := do
  if span.stop < span.start then throw (.invertedSpan span.start span.stop)
  if f.content.utf8ByteSize < span.stop then
    throw (.outOfBounds f.content.utf8ByteSize span.start span.stop)
  let (number, startColumn) := f.lineColumn span.start
  let line ← f.line number
  match Text.slice? f.content.toList span.start span.stop with
  | none => throw (.insideCharacter span.start span.stop)
  | some text =>
    let covered := (text.takeWhile fun c => !isBreak c).length
    return ⟨line, number, startColumn, min (startColumn + covered) (line.length + 1)⟩

end SourceFile

end ScriptLens
