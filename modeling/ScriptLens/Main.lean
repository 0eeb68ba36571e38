import ScriptLens.Run

/-! # The program on a real machine

The machine is looked at once, at the places that a run may ask for; the run itself is then a
function of what was seen. -/

namespace ScriptLens

open CommandLine (Command Options Opt Request)

def environmentNames : List String :=
  ["HOME", "XDG_CONFIG_HOME", "RUST_LOG"] ++
    CommandLine.Level.main.options.filterMap Opt.environmentName?

namespace CommandLine

def Request.paths (host : Host) : Request → List String
  | .version _ => []
  | .invocation options command =>
    (options.config.elim host.settingsPlaces fun path => [path]) ++ command.inputs

def Request.readsStdin : Request → Bool
  | .version _ => false
  | .invocation _ command => command.inputs.any isStandardInput

end CommandLine

def AccessError.ofSystem (e : IO.Error) : AccessError :=
  match e with
  | .noFileOrDirectory .. => .notFound
  | .permissionDenied _ code _ => if hasNumber 13 code then .permissionDenied else .other e.toString
  | .inappropriateType _ code _ =>
    if hasNumber 20 code then .notDirectory
    else if hasNumber 21 code then .isDirectory
    else .other e.toString
  | _ => .other e.toString
where
  /-- The system may give the number of an error with either sign. -/
  hasNumber (n code : UInt32) : Bool := code = n || code + n = 0

/-- Looks at one path.  One that can be followed to its end leads to something. -/
def look (path : String) : IO (Except AccessError FileEntry) := do
  match ← (IO.FS.readBinFile path).toBaseIO with
  | .ok bytes => return .ok (.file bytes.toList)
  | .error e =>
    match AccessError.ofSystem e with
    | .isDirectory => return .ok .directory
    | reason =>
      match ← (IO.FS.realPath path).toBaseIO with
      | .ok _ => return .ok (.unreadable reason)
      | .error _ => return .error reason

partial def readAll (stream : IO.FS.Stream) (read : ByteArray) : IO ByteArray := do
  let chunk ← stream.read 65536
  if chunk.isEmpty then return read
  readAll stream (read ++ chunk)

def readStdin : IO (Except AccessError (List UInt8)) := do
  match ← (readAll (← IO.getStdin) .empty).toBaseIO with
  | .ok bytes => return .ok bytes.toList
  | .error e => return .error (.ofSystem e)

def seen (words : List String) : IO Host := do
  let values ← environmentNames.filterMapM fun name => do return (← IO.getEnv name).map (name, ·)
  let host : Host :=
    { lookup := fun _ => .error .notFound, environment := fun name => values.lookup name }
  match Request.read host.environment words with
  | none => return host
  | some request =>
    let entries ← (request.paths host).mapM fun path => do return (path, ← look path)
    return { host with
      lookup := fun path => (entries.lookup path).getD (.error .notFound)
      stdin := ← if request.readsStdin then readStdin else pure (.ok []) }

end ScriptLens

def main (words : List String) : IO UInt32 := do
  let outcome := ScriptLens.run (← ScriptLens.seen words) words
  IO.print outcome.stdout
  IO.eprint outcome.stderr
  return outcome.status
