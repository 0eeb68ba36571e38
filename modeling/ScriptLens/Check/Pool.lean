import ScriptLens.Check.Report

namespace ScriptLens

structure Pool where
  host : Host
  reports : List (Option CheckResult)
  events : List Event := []

namespace Pool

def start (host : Host) (inputs : List String) : Pool := ⟨host, inputs.map fun _ => none, []⟩

def check (inputs : List String) (pool : Pool) (place : Nat) : Pool :=
  match inputs[place]? with
  | none => pool
  | some path =>
    { host := pool.host.after path
      reports := pool.reports.set place (some (pool.host.checkFile path))
      events := pool.events ++ pool.host.checkEvents path }

def run (host : Host) (inputs : List String) (order : List Nat) : Pool :=
  order.foldl (check inputs) (start host inputs)

def results (pool : Pool) : List CheckResult := pool.reports.filterMap id

end Pool

end ScriptLens
