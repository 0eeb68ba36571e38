import ScriptLens.Diagnostic.Basic
import ScriptLens.Text.Quoted

namespace ScriptLens

inductive LexFault
  | unexpectedChar (c : Char)
  | unterminatedString
  | invalidNumber (text : String)
  | unterminatedComment
  | unterminatedTemplate
  deriving DecidableEq

namespace LexFault

def code : LexFault → Code
  | unexpectedChar _ => ⟨"E", 1001⟩
  | unterminatedString => ⟨"E", 1002⟩
  | invalidNumber _ => ⟨"E", 1003⟩
  | unterminatedComment => ⟨"E", 1004⟩
  | unterminatedTemplate => ⟨"E", 1005⟩

def message : LexFault → String
  | unexpectedChar c => "unexpected character " ++ Text.quotedChar c
  | unterminatedString => "unterminated string literal"
  | invalidNumber text => "invalid numeric literal '" ++ text ++ "'"
  | unterminatedComment => "unterminated block comment"
  | unterminatedTemplate => "unterminated template literal"

def help? : LexFault → Option String
  | unexpectedChar _ => none
  | unterminatedString => some "close the string on the same line, or use a template literal"
  | invalidNumber _ => none
  | unterminatedComment => some "add \x60*/\x60 to close the comment"
  | unterminatedTemplate => some "add a closing '\x60'"

def diagnostic (f : LexFault) (span : Span) : Diagnostic :=
  { message := f.message, span, code := some f.code, helps := f.help?.toList }

end LexFault

end ScriptLens
