import ScriptLens.Check.Pool
import ScriptLens.Transcript

namespace ScriptLens

namespace CheckResult

def report? : CheckResult → Option FileReport
  | .ok report => some report
  | .error _ => none

def failure? : CheckResult → Option Failure
  | .ok _ => none
  | .error f => some f

end CheckResult

def errorCount (reports : List FileReport) : Nat := (reports.flatMap (·.diagnostics)).length

def faultyCount (reports : List FileReport) : Nat :=
  (reports.filter fun r => !r.diagnostics.isEmpty).length

/-- Lexical errors outweigh inputs that could not be read. -/
def verdict (reports : List FileReport) (unreadable : List Failure) : Option Failure :=
  if 0 < errorCount reports then some (.lexicalErrors (errorCount reports) (faultyCount reports))
  else if 0 < unreadable.length then
    some (.fileOperation s!"{unreadable.length} file(s) could not be read")
  else none

def conclude (results : List CheckResult) : Transcript :=
  let reports := results.filterMap CheckResult.report?
  let unreadable := results.filterMap CheckResult.failure?
  let failure := verdict reports unreadable
  { stdout := String.join (reports.map FileReport.text) ++
      if failure.isNone then s!"checked {reports.length} file(s): no lexical errors\n" else ""
    notes := unreadable.map Failure.note ++ [.event (.checked reports.length (errorCount reports))]
    failure }

end ScriptLens
