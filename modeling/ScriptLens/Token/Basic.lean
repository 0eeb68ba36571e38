import ScriptLens.Source.Position
import ScriptLens.Text.Quoted
import ScriptLens.Token.Kind

namespace ScriptLens

structure Token where
  kind : TokenKind
  lexeme : String
  span : Span
  deriving DecidableEq

namespace Token

def length (t : Token) : Nat := t.lexeme.utf8ByteSize

def isEmpty (t : Token) : Bool := t.lexeme.isEmpty

def isTrivia (t : Token) : Bool := t.kind.isTrivia

def isError (t : Token) : Bool := t.kind.isError

def text (t : Token) : String := t.kind.name ++ " " ++ Text.quoted t.lexeme

end Token

end ScriptLens
