import ScriptLens.Text.Align

namespace ScriptLens

structure Snippet where
  line : String
  lineNumber : Nat
  startColumn : Nat
  endColumn : Nat
  deriving DecidableEq

namespace Snippet

def gutterWidth (s : Snippet) : Nat := max (toString s.lineNumber).length 3

/-- What stands in front of the carets: a tab for a tab, a blank for any other character, and
blanks for columns past the end of the line. -/
def indentation (s : Snippet) : List Char :=
  let columns := s.startColumn - 1
  ((s.line.toList.take columns).map fun c => if c = '\t' then '\t' else ' ') ++
    List.replicate (columns - s.line.length) ' '

def caretCount (s : Snippet) : Nat := max (s.endColumn - s.startColumn) 1

def format (s : Snippet) : String :=
  Text.alignRight s.gutterWidth (toString s.lineNumber) ++ " | " ++ s.line ++ "\n" ++
    Text.fill s.gutterWidth ' ' ++ " | " ++ String.ofList s.indentation ++
    Text.fill s.caretCount '^'

def maxCarets : Nat := 1 <<< 63 - 1

def format? (s : Snippet) : Option String :=
  if s.caretCount ≤ maxCarets then some s.format else none

end Snippet

end ScriptLens
