import ScriptLens.Unicode.Identifier

/-! # Character classes of the language

Identifiers follow the Unicode identifier properties, with the dollar sign and the underscore added
to both classes and the two zero width joiners to the second.  Digits are the ASCII digits. -/

namespace ScriptLens

/-- The characters of a whitespace run.  Line breaks and the byte order mark belong to it; no other
character beyond ASCII does. -/
def isWhitespace (c : Char) : Bool :=
  c = ' ' || c = '\t' || c = '\n' || c = '\r' || c = '\x0B' || c = '\x0C' || c = '\uFEFF'

def isLineTerminator (c : Char) : Bool := c = '\n' || c = '\r'

def isIdentStart (c : Char) : Bool :=
  if c.toNat < 0x80 then c.isAlpha || c = '$' || c = '_' else Unicode.isXidStart c

def isIdentContinue (c : Char) : Bool :=
  if c.toNat < 0x80 then c.isAlphanum || c = '$' || c = '_'
  else c = '\u200C' || c = '\u200D' || Unicode.isXidContinue c

def isPunctuation (c : Char) : Bool :=
  c = '(' || c = ')' || c = '\x7b' || c = '\x7d' || c = '[' || c = ']' || c = ';' || c = ',' ||
    c = '.' || c = ':'

def isBlank (s : String) : Bool := s.toList.all isWhitespace

def startsWithDigit : List Char → Bool
  | [] => false
  | c :: _ => c.isDigit

theorem isIdentContinue_of_isIdentStart {c : Char} (start : isIdentStart c = true) :
    isIdentContinue c = true := by
  unfold isIdentStart at start
  unfold isIdentContinue
  split at start
  · rename_i ascii
    simp only [ascii, if_true, Bool.or_eq_true] at start ⊢
    rcases start with (alpha | dollar) | underscore
    · exact .inl (.inl (by simp [Char.isAlphanum, alpha]))
    · exact .inl (.inr dollar)
    · exact .inr underscore
  · rename_i ascii
    simp [ascii, Unicode.isXidContinue_of_isXidStart start]

theorem toNat_lt_of_isDigit {c : Char} (digit : c.isDigit = true) : c.toNat < 0x80 := by
  simp only [Char.isDigit, Bool.and_eq_true, decide_eq_true_eq] at digit
  have small := UInt32.le_iff_toNat_le.mp digit.2
  exact Nat.lt_of_le_of_lt small (by decide)

theorem isIdentContinue_of_isDigit {c : Char} (digit : c.isDigit = true) :
    isIdentContinue c = true := by
  simp [isIdentContinue, toNat_lt_of_isDigit digit, Char.isAlphanum, digit]

end ScriptLens
