import ScriptLens.Dump

namespace ScriptLens

structure HighlightSettings where
  color : Bool := true
  lineNumbers : Bool := false
  deriving DecidableEq

structure TokenSettings where
  format : String := "text"
  skipTrivia : Bool := false
  deriving DecidableEq

/-- How many inputs are read at a time: as many as there are processors, if nothing is set. -/
structure CheckSettings where
  jobs : Option Nat := none
  deriving DecidableEq

structure Settings where
  highlight : HighlightSettings := {}
  tokens : TokenSettings := {}
  check : CheckSettings := {}
  deriving DecidableEq

def Settings.validate (s : Settings) : Except Failure Unit := do
  let _ ← DumpFormat.ofName s.tokens.format
  if s.check.jobs = some 0 then throw (.validation "check.jobs must be at least 1")

end ScriptLens
