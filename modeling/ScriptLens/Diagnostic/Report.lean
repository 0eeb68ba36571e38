import ScriptLens.Diagnostic.Basic
import ScriptLens.Source.File

namespace ScriptLens

def SourceFile.excerpt (f : SourceFile) (span : Span) : Except SourceError String :=
  match f.snippet span with
  | .ok snippet => .ok (snippet.format ++ "\n")
  | .error (.insideCharacter start stop) => .error (.insideCharacter start stop)
  | .error _ => .ok ""

/-- One line for the message, the snippet, and one line for each suggestion.  There is no report
for a span that ends inside a character. -/
def Diagnostic.report (d : Diagnostic) (f : SourceFile) : Except SourceError String := do
  let excerpt ← f.excerpt d.span
  return f.name ++ ":" ++ d.span.position.text ++ ": " ++ d.text ++ "\n" ++ excerpt ++
    String.join (d.helps.map fun help => "    = help: " ++ help ++ "\n")

end ScriptLens
