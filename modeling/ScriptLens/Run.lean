import ScriptLens.Check.Verdict
import ScriptLens.CommandLine.Request
import ScriptLens.Highlight.Render
import ScriptLens.Settings.Location

namespace ScriptLens

open CommandLine (Command Options Request Verb)

def Host.present (host : Host) (path : String) (output : SourceFile → String) : Transcript :=
  match host.input path with
  | .error f => .failed f
  | .ok input =>
    if input.isBlank then Transcript.following {} input.events
    else
      Transcript.following { stdout := output input.file }
        (input.events ++ (diagnose input.file.content).map Event.fault)

def Host.highlight (host : Host) (path : String) (color lineNumbers : Bool) : Transcript :=
  host.present path fun file =>
    render ⟨color, if lineNumbers then some file.lineCount else none⟩ file.content

def Host.dump (host : Host) (path : String) (format : DumpFormat) (skipTrivia : Bool) :
    Transcript :=
  host.present path fun file => format.write (collectTokens file.content skipTrivia)

def Host.checkIn (host : Host) (inputs : List String) (order : List Nat) : Transcript :=
  let pool := Pool.run host inputs order
  (conclude pool.results).following pool.events

def Host.check (host : Host) (inputs : List String) (workers : Nat) : Transcript :=
  host.checkIn inputs (host.schedule.order workers inputs.length)

def CommandLine.Command.execute (host : Host) (options : Options) (settings : Settings) :
    Command → Transcript
  | .highlight input lineNumbers =>
    (host.highlight input (!options.noColor && settings.highlight.color)
      (lineNumbers || settings.highlight.lineNumbers)).following [.executing "highlight"]
  | .tokens input format skipTrivia =>
    match DumpFormat.ofName (format.getD settings.tokens.format) with
    | .error f => .failed f
    | .ok format =>
      (host.dump input format (skipTrivia || settings.tokens.skipTrivia)).following
        [.executing "tokens"]
  | .check inputs jobs =>
    (host.check inputs (jobs.getD (settings.check.jobs.getD host.processors))).following
      [.executing "check"]

def CommandLine.Command.executeWith (host : Host) (options : Options) (command : Command)
    (settings : Except Failure Settings) : Transcript :=
  match settings with
  | .error f => .failed f
  | .ok settings =>
    match settings.validate with
    | .error f => .failed f
    | .ok () => command.execute host options settings

def CommandLine.Command.run (host : Host) (options : Options) (command : Command) : Transcript :=
  match options.config with
  | some path => command.executeWith host options (Settings.load host path)
  | none =>
    match host.findSettings with
    | some path =>
      (command.executeWith host options (Settings.load host path)).following [.settingsFound path]
    | none => command.executeWith host options (.ok {})

def programName : String := "jshl"

def versionLine (verb : Option Verb) : String :=
  programName ++ (verb.elim "" fun v => "-" ++ v.name) ++ " 0.1.0\n"

def Outcome.rejected : Outcome :=
  { status := 2
    stdout := ""
    notes := [.error ("usage: " ++ programName ++ " (highlight | tokens | check) OPTIONS INPUTS")] }

def run (host : Host) (words : List String) : Outcome :=
  match Request.read host.environment words with
  | none => .rejected
  | some (.version verb) =>
    { status := 0, stdout := versionLine verb, notes := [] }
  | some (.invocation options command) =>
    (command.run host options).outcome
      (.choose (host.environment "RUST_LOG") options.verbose)

end ScriptLens
