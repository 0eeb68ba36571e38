import ScriptLens.Token.CharClass

namespace ScriptLens

structure Delimited where
  closed : Bool
  taken : List Char
  rest : List Char

namespace Delimited

def prepend (cs : List Char) (d : Delimited) : Delimited := { d with taken := cs ++ d.taken }

/-- A text in quotation marks `mark`.  A backslash takes the next character with it, and a carriage
return with its line feed.  Without `multiline` an unescaped line break ends the text before it. -/
def quotation (mark : Char) (multiline : Bool) : List Char → Delimited
  | [] => ⟨false, [], []⟩
  | ['\\'] => ⟨false, ['\\'], []⟩
  | '\\' :: '\r' :: '\n' :: cs => (quotation mark multiline cs).prepend ['\\', '\r', '\n']
  | '\\' :: c :: cs => (quotation mark multiline cs).prepend ['\\', c]
  | c :: cs =>
    if c = mark then ⟨true, [c], cs⟩
    else if !multiline && isLineTerminator c then ⟨false, [], c :: cs⟩
    else (quotation mark multiline cs).prepend [c]

def blockComment : List Char → Delimited
  | [] => ⟨false, [], []⟩
  | '*' :: '/' :: cs => ⟨true, ['*', '/'], cs⟩
  | c :: cs => (blockComment cs).prepend [c]

theorem quotation_append (mark : Char) (multiline : Bool) (cs : List Char) :
    (quotation mark multiline cs).taken ++ (quotation mark multiline cs).rest = cs := by
  fun_induction quotation mark multiline cs <;> simp_all [prepend]

theorem blockComment_append (cs : List Char) :
    (blockComment cs).taken ++ (blockComment cs).rest = cs := by
  fun_induction blockComment cs <;> simp_all [prepend]

end Delimited

end ScriptLens
