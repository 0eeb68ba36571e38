import ScriptLens.Diagnostic.Basic
import ScriptLens.Text.Quoted

namespace ScriptLens

inductive LogLevel
  | error
  | warn
  | info
  | debug
  | trace
  deriving DecidableEq

namespace LogLevel

def name : LogLevel → String
  | error => "ERROR"
  | warn => "WARN"
  | info => "INFO"
  | debug => "DEBUG"
  | trace => "TRACE"

def rank : LogLevel → Nat
  | error => 1
  | warn => 2
  | info => 3
  | debug => 4
  | trace => 5

end LogLevel

inductive Event
  | settingsFound (path : String)
  | executing (command : String)
  | loaded (input : String) (bytes : Nat)
  | illFormed (input : String) (offset : Nat)
  | blank (input : String)
  | fault (diagnostic : Diagnostic)
  | lexed (input : String) (tokens errors : Nat)
  | checked (files errors : Nat)

namespace Event

def level : Event → LogLevel
  | settingsFound _ => .debug
  | executing _ => .debug
  | loaded _ _ => .debug
  | illFormed _ _ => .warn
  | blank _ => .warn
  | fault _ => .trace
  | lexed _ _ _ => .debug
  | checked _ _ => .info

def part : Event → String
  | settingsFound _ => "jshl::config"
  | executing _ => "jshl::commands::traits"
  | loaded _ _ | illFormed _ _ | blank _ => "jshl::commands::common"
  | lexed _ _ _ | checked _ _ => "jshl::commands::check"
  | fault _ => "jslex_lex::lexer::core"

def message : Event → String
  | settingsFound _ => "using configuration file"
  | executing _ => "executing command"
  | loaded _ _ => "loaded source"
  | illFormed _ _ => "input is not valid UTF-8; invalid bytes were replaced with U+FFFD"
  | blank _ => "no JavaScript code to analyze"
  | fault d => d.message
  | lexed _ _ _ => "lexed"
  | checked _ _ => "check finished"

def values : Event → List (String × String)
  | settingsFound path => [("path", path)]
  | executing command => [("command", Text.quoted command)]
  | loaded input bytes => [("input", input), ("bytes", toString bytes)]
  | illFormed input offset => [("input", input), ("offset", toString offset)]
  | blank input => [("input", input)]
  | fault d =>
    (d.code.map fun code => ("code", code.text)).toList ++
      [("start", toString d.span.start), ("end", toString d.span.stop)]
  | lexed input tokens errors =>
    [("input", input), ("tokens", toString tokens), ("errors", toString errors)]
  | checked files errors => [("files", toString files), ("errors", toString errors)]

/-- An event has a value of this name.  The message is one, and so is the time that the check of
all inputs took, though that is not told. -/
def hasValue (e : Event) (name : String) : Bool :=
  name = "message" || e.values.any (·.1 = name) ||
    match e with
    | checked _ _ => name = "elapsed_ms"
    | _ => false

def text (e : Event) : String :=
  e.message ++ String.join (e.values.map fun (name, value) => " " ++ name ++ "=" ++ value)

def line (e : Event) : String := e.level.name ++ " " ++ e.text

end Event

end ScriptLens
