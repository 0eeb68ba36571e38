import ScriptLens.Failure
import ScriptLens.Host.Basic
import ScriptLens.Host.Path
import ScriptLens.Log.Event
import ScriptLens.Source.File
import ScriptLens.Text.Utf8
import ScriptLens.Token.CharClass

namespace ScriptLens

def stdinName : String := "<stdin>"

structure Input where
  name : String
  bytes : List UInt8

namespace Input

def file (i : Input) : SourceFile := .ofContent i.name (Text.Utf8.decodeLossy i.bytes)

def isBlank (i : Input) : Bool := ScriptLens.isBlank i.file.content

def events (i : Input) : List Event :=
  .loaded i.name i.bytes.length ::
    ((Text.Utf8.firstIllFormed? i.bytes).map (Event.illFormed i.name)).toList ++
    (if i.isBlank then [.blank i.name] else [])

end Input

abbrev Reading := Except Failure Input

namespace Host

def standardInput (host : Host) : Reading :=
  match host.stdin with
  | .ok bytes => .ok ⟨stdinName, bytes⟩
  | .error e => .error (.fileOperation ("cannot read standard input: " ++ e.message))

def input (host : Host) (path : String) : Reading :=
  if isStandardInput path then host.standardInput
  else
    match host.readFile path with
    | .ok bytes => .ok ⟨path, bytes⟩
    | .error e => .error (.fileOperation ("cannot read " ++ path ++ ": " ++ e.message))

/-- The host with nothing left on standard input.  If that cannot be read, it stays so. -/
def drained (host : Host) : Host := { host with stdin := host.stdin.map fun _ => [] }

def after (host : Host) (path : String) : Host :=
  if isStandardInput path then host.drained else host

end Host

end ScriptLens
