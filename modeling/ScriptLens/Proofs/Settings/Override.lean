import ScriptLens.Proofs.Check.Order
import ScriptLens.Proofs.Settings.Choice

namespace ScriptLens

open CommandLine (Command Options Request)

structure Host.Alike (paths : List String) (a b : Host) : Prop where
  stdin : a.stdin = b.stdin
  lookup : ∀ path ∈ paths, a.lookup path = b.lookup path

structure Pool.Alike (inputs : List String) (p q : Pool) : Prop where
  host : p.host.Alike inputs q.host
  reports : p.reports = q.reports
  events : p.events = q.events

namespace Host.Alike

variable {paths : List String} {path : String} {a b : Host}

theorem input (alike : Alike paths a b) (member : path ∈ paths) : a.input path = b.input path := by
  rw [Host.input, Host.input, standardInput, standardInput, alike.stdin, readFile, readFile,
    alike.lookup path member]

theorem after (alike : Alike paths a b) (path : String) :
    Alike paths (a.after path) (b.after path) := by
  rw [Host.after, Host.after]
  cases isStandardInput path with
  | true => exact ⟨congrArg (Except.map fun _ => []) alike.stdin, alike.lookup⟩
  | false => exact alike

theorem present (alike : Alike paths a b) (member : path ∈ paths) (output : SourceFile → String) :
    a.present path output = b.present path output := by
  rw [Host.present, Host.present, alike.input member]

end Host.Alike

namespace Pool.Alike

variable {inputs : List String} {p q : Pool}

theorem check (alike : Alike inputs p q) (place : Nat) :
    Alike inputs (p.check inputs place) (q.check inputs place) := by
  rw [Pool.check, Pool.check]
  cases found : inputs[place]? with
  | none => exact alike
  | some path =>
    have same := alike.host.input (List.mem_of_getElem? found)
    constructor
    · exact alike.host.after path
    · dsimp only
      rw [alike.reports, Host.checkFile, Host.checkFile, same]
    · dsimp only
      rw [alike.events, Host.checkEvents, Host.checkEvents, same]

theorem run {a b : Host} (alike : a.Alike inputs b) (order : List Nat) :
    Alike inputs (Pool.run a inputs order) (Pool.run b inputs order) := by
  have start : Alike inputs (Pool.start a inputs) (Pool.start b inputs) := ⟨alike, rfl, rfl⟩
  rw [Pool.run, Pool.run]
  generalize Pool.start a inputs = p at start ⊢
  generalize Pool.start b inputs = q at start ⊢
  induction order generalizing p q with
  | nil => exact start
  | cons place order ih => exact ih _ _ (start.check place)

end Pool.Alike

theorem Host.Alike.checkIn {inputs : List String} {a b : Host} (alike : a.Alike inputs b)
    (order : List Nat) : a.checkIn inputs order = b.checkIn inputs order := by
  have pools := Pool.Alike.run alike order
  simp only [Host.checkIn, Pool.results, pools.reports, pools.events]

namespace CommandLine.Command

def lineNumbers : Command → Bool
  | .highlight _ lineNumbers => lineNumbers
  | _ => false

def format? : Command → Option String
  | .tokens _ format _ => format
  | _ => none

def skipTrivia : Command → Bool
  | .tokens _ _ skipTrivia => skipTrivia
  | _ => false

def jobs? : Command → Option Nat
  | .check _ jobs => jobs
  | _ => none

end CommandLine.Command

end ScriptLens
