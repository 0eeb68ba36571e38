import ScriptLens.Host.Basic
import ScriptLens.Host.Path
import ScriptLens.Settings.Document
import ScriptLens.Text.Utf8

namespace ScriptLens

def settingsName : String := "jshl.toml"

namespace Host

def home? (host : Host) : Option String := (host.environment "HOME").filter (· ≠ "")

/-- The directory for settings of programs: the one the environment gives by an absolute path, or
else one below the home directory. -/
def settingsHome? (host : Host) : Option String :=
  ((host.environment "XDG_CONFIG_HOME").filter fun path => path.toList.head? = some '/') <|>
    host.home?.map (joinPath · ".config")

def settingsPlaces (host : Host) : List String :=
  [some settingsName,
    host.home?.map fun home => joinPath home (".config/jshl/" ++ settingsName),
    host.settingsHome?.map fun home => joinPath home ("jshl/" ++ settingsName)].filterMap id

def findSettings (host : Host) : Option String := host.settingsPlaces.find? host.hasPath

end Host

def Settings.load (host : Host) (path : String) : Except Failure Settings :=
  if host.hasPath path then
    match host.readFile path with
    | .error e => .error (.io e.message)
    | .ok bytes =>
      match Text.Utf8.decode? bytes with
      | none => .error (.io "stream did not contain valid UTF-8")
      | some text => Settings.ofToml text
  else .error (.configuration ("Configuration file not found: " ++ path))

end ScriptLens
