import ScriptLens.Failure
import ScriptLens.Json
import ScriptLens.Lexer.Basic
import ScriptLens.Text.Align
import ScriptLens.Unicode.Lowercase

namespace ScriptLens

inductive DumpFormat
  | text
  | json
  deriving DecidableEq

namespace DumpFormat

def name : DumpFormat → String
  | text => "text"
  | json => "json"

def ofName (s : String) : Except Failure DumpFormat :=
  let lower := Unicode.lowercase s
  if lower = "text" ∨ lower = "txt" then .ok text
  else if lower = "json" then .ok json
  else .error (.validation ("unknown token format: " ++ lower ++ " (expected text or json)"))

end DumpFormat

namespace Token

def dumpLine (t : Token) : String :=
  t.span.position.text ++ "  " ++ Text.alignLeft 11 t.kind.name ++ "  " ++
    Text.quoted t.lexeme ++ "\n"

def record (t : Token) : Json.Record :=
  [("kind", .text t.kind.name), ("lexeme", .text t.lexeme), ("start", .number t.span.start),
   ("end", .number t.span.stop), ("line", .number t.span.position.line.toNat),
   ("column", .number t.span.position.column.toNat)]

end Token

def DumpFormat.write (format : DumpFormat) (ts : List Token) : String :=
  match format with
  | text => String.join (ts.map Token.dumpLine)
  | json => Json.records (ts.map Token.record) ++ "\n"

def collectTokens (source : String) (skipTrivia : Bool) : List Token :=
  (tokenize source).filter fun t => !(skipTrivia && t.isTrivia)

end ScriptLens
