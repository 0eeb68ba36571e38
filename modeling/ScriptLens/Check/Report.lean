import ScriptLens.Diagnostic.Report
import ScriptLens.Input
import ScriptLens.Lexer.Basic

namespace ScriptLens

structure FileReport where
  file : SourceFile
  diagnostics : List Diagnostic

namespace FileReport

def ofInput (i : Input) : FileReport :=
  ⟨i.file, if i.isBlank then [] else diagnose i.file.content⟩

/-- The reports of all diagnostics.  The lexer finds none that has no report. -/
def text (r : FileReport) : String :=
  String.join (r.diagnostics.map fun d => (d.report r.file).toOption.getD "")

end FileReport

def Input.checkEvents (i : Input) : List Event :=
  i.events ++
    if i.isBlank then []
    else
      let found := diagnose i.file.content
      found.map Event.fault ++ [.lexed i.name (tokenize i.file.content).length found.length]

abbrev CheckResult := Except Failure FileReport

def Host.checkFile (host : Host) (path : String) : CheckResult :=
  (host.input path).map .ofInput

def Host.checkEvents (host : Host) (path : String) : List Event :=
  match host.input path with
  | .ok input => input.checkEvents
  | .error _ => []

end ScriptLens
