import ScriptLens.Token.CharClass
import ScriptLens.Token.Numeral

/-! # Numeric runs

Where a text begins like a number, all that could belong to it is taken at once, well formed or
not, so that one mistake gives one malformed token.  The run leaves alone what follows a complete
literal on purpose: a member access, an operator. -/

namespace ScriptLens

structure NumericRun where
  hasRadix : Bool
  previous : Option Char := none
  seenDot : Bool := false
  seenLetter : Bool := false

namespace NumericRun

def startsWithRadix : List Char → Bool
  | '0' :: c :: _ => (Numeral.radixOf? c).isSome
  | _ => false

/-- The run goes on with `c` when the text after it is `next`.  A dot joins a run of digits once,
and later only before a digit; a sign joins only right after an exponent mark. -/
def accepts (r : NumericRun) (c : Char) (next : List Char) : Bool :=
  if c = '.' then (!r.seenDot && !r.seenLetter) || startsWithDigit next
  else if c = '+' || c = '-' then !r.hasRadix && (r.previous == some 'e' || r.previous == some 'E')
  else isIdentContinue c

def push (r : NumericRun) (c : Char) : NumericRun :=
  { r with
    previous := some c
    seenDot := r.seenDot || c = '.'
    seenLetter := r.seenLetter || (c ≠ '_' && !c.isDigit && isIdentContinue c) }

def span (r : NumericRun) : List Char → List Char × List Char
  | [] => ([], [])
  | c :: cs =>
    if r.accepts c cs then
      let (taken, rest) := (r.push c).span cs
      (c :: taken, rest)
    else ([], c :: cs)

def ofText (cs : List Char) : List Char × List Char :=
  span ⟨startsWithRadix cs, none, false, false⟩ cs

theorem accepts_digit (r : NumericRun) {c : Char} (digit : c.isDigit = true)
    (next : List Char) : r.accepts c next = true := by
  have dot : c ≠ '.' := by rintro rfl; cases digit
  have plus : c ≠ '+' := by rintro rfl; cases digit
  have minus : c ≠ '-' := by rintro rfl; cases digit
  simp [accepts, dot, plus, minus, isIdentContinue_of_isDigit digit]

theorem span_append (r : NumericRun) (cs : List Char) : (r.span cs).1 ++ (r.span cs).2 = cs := by
  induction cs generalizing r with
  | nil => rfl
  | cons c cs ih =>
    rw [span]
    split
    · simp [ih]
    · rfl

theorem ofText_append (cs : List Char) : (ofText cs).1 ++ (ofText cs).2 = cs := span_append ..

end NumericRun

end ScriptLens
