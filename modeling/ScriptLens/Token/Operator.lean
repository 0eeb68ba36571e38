import ScriptLens.Token.CharClass

namespace ScriptLens.Operator

def optional (x : Char) (cs : List Char) : Nat := if cs.head? = some x then 1 else 0

def doubledThenEquals (x : Char) (cs : List Char) : Nat :=
  optional x cs + optional '=' (cs.drop (optional x cs))

/-- The number of characters that belong to the operator after its first character `c`, where `cs`
is the text after `c`; nothing if `c` begins no operator.  A question mark takes a dot only if no
digit follows, so that a conditional may have a number without a leading zero as its branch. -/
def tailLength? (c : Char) (cs : List Char) : Option Nat :=
  match c with
  | '+' => some (max (optional '+' cs) (optional '=' cs))
  | '-' => some (max (optional '-' cs) (optional '=' cs))
  | '*' => some (doubledThenEquals '*' cs)
  | '/' => some (optional '=' cs)
  | '%' => some (optional '=' cs)
  | '=' =>
    if cs.head? = some '=' then some (1 + optional '=' (cs.drop 1)) else some (optional '>' cs)
  | '!' => if cs.head? = some '=' then some (1 + optional '=' (cs.drop 1)) else some 0
  | '<' => some (doubledThenEquals '<' cs)
  | '>' =>
    if cs.head? = some '>' then some (1 + doubledThenEquals '>' (cs.drop 1))
    else some (optional '=' cs)
  | '&' => some (doubledThenEquals '&' cs)
  | '|' => some (doubledThenEquals '|' cs)
  | '^' => some (optional '=' cs)
  | '?' =>
    if cs.head? = some '?' then some (1 + optional '=' (cs.drop 1))
    else if cs.head? = some '.' && !startsWithDigit (cs.drop 1) then some 1
    else some 0
  | '~' => some 0
  | _ => none

end ScriptLens.Operator
