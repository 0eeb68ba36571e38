import ScriptLens.Failure
import ScriptLens.Log.Filter

namespace ScriptLens

inductive Note
  | event (e : Event)
  | error (message : String)

def Note.line : Note → String
  | event e => e.line
  | error message => "error: " ++ message

structure Transcript where
  stdout : String := ""
  notes : List Note := []
  failure : Option Failure := none

namespace Transcript

def failed (f : Failure) : Transcript := { failure := some f }

def following (t : Transcript) (events : List Event) : Transcript :=
  { t with notes := events.map Note.event ++ t.notes }

end Transcript

def Failure.note (f : Failure) : Note := .error f.message

def LogFilter.admitsNote (f : LogFilter) : Note → Bool
  | .event e => f.admits e
  | .error _ => true

structure Outcome where
  status : UInt32
  stdout : String
  notes : List Note

namespace Outcome

def stderr (o : Outcome) : String := String.join (o.notes.map fun n => n.line ++ "\n")

end Outcome

def Transcript.outcome (t : Transcript) (filter : LogFilter) : Outcome where
  status := if t.failure.isSome then 1 else 0
  stdout := t.stdout
  notes := t.notes.filter filter.admitsNote ++ (t.failure.map Failure.note).toList

end ScriptLens
