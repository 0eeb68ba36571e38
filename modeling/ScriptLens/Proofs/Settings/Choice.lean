import ScriptLens.Proofs.Check.Verdict

namespace ScriptLens

open CommandLine (Command Options Request)

namespace Host

def settings (host : Host) (options : Options) : Except Failure Settings :=
  match options.config with
  | some path => Settings.load host path
  | none => host.findSettings.elim (.ok {}) (Settings.load host)

def settingsEvents (host : Host) (options : Options) : List Event :=
  match options.config with
  | some _ => []
  | none => host.findSettings.elim [] fun path => [.settingsFound path]

end Host

variable {host : Host} {words : List String} {options : Options} {command : Command}
  {settings : Settings}

theorem CommandLine.Command.run_eq (host : Host) (options : Options) (command : Command) :
    command.run host options =
      (command.executeWith host options (host.settings options)).following
        (host.settingsEvents options) := by
  rw [Command.run, Host.settings, Host.settingsEvents]
  cases options.config with
  | some path => rfl
  | none => cases host.findSettings <;> rfl

theorem run_of_request
    (request : Request.read host.environment words = some (.invocation options command)) :
    run host words = (command.run host options).outcome
      (.choose (host.environment "RUST_LOG") options.verbose) := by
  rw [run, request]

theorem CommandLine.Command.run_of_valid (given : host.settings options = .ok settings)
    (valid : settings.validate = .ok ()) :
    command.run host options =
      (command.execute host options settings).following (host.settingsEvents options) := by
  rw [run_eq, given, executeWith, valid]

structure Refuses (f : Failure) (t : Transcript) (o : Outcome) : Prop where
  failure : t.failure = some f
  status : o.status = 1
  stdout : o.stdout = ""
  errors : o.errorLines = [f.line]

theorem refuses_failed (f : Failure) (events : List Event) (filter : LogFilter) :
    Refuses f ((Transcript.failed f).following events)
      (((Transcript.failed f).following events).outcome filter) where
  failure := rfl
  status := rfl
  stdout := rfl
  errors := by
    rw [Transcript.errorLines_outcome, Transcript.errorLines_following]
    rfl

end ScriptLens
