import ScriptLens.Check.Pool

namespace ScriptLens

namespace Reading

def input? : Reading → Option Input
  | .ok i => some i
  | .error _ => none

def failure? : Reading → Option Failure
  | .ok _ => none
  | .error f => some f

@[simp] theorem input?_ok (i : Input) : input? (.ok i) = some i := rfl

@[simp] theorem input?_error (f : Failure) : input? (.error f) = none := rfl

@[simp] theorem failure?_ok (i : Input) : failure? (.ok i) = none := rfl

@[simp] theorem failure?_error (f : Failure) : failure? (.error f) = some f := rfl

def result (r : Reading) : CheckResult := r.map .ofInput

end Reading

namespace Host

/-- What the input at a place gives if standard input goes to the place `reader?`. -/
def readingAt (host : Host) (reader? : Option Nat) (place : Nat) (path : String) : Reading :=
  (if reader? = some place then host else host.drained).input path

def readingsFor (host : Host) (reader? : Option Nat) (inputs : List String) : List Reading :=
  inputs.mapIdx (host.readingAt reader?)

@[simp] theorem length_readingsFor (host : Host) (reader? : Option Nat) (inputs : List String) :
    (host.readingsFor reader? inputs).length = inputs.length := List.length_mapIdx

end Host

def firstReader? (inputs : List String) (order : List Nat) : Option Nat :=
  order.find? fun place => inputs[place]?.any isStandardInput

section readers

variable {host : Host} {path : String}

theorem Host.input_of_isStandardInput (standard : isStandardInput path = true) :
    host.input path = host.standardInput := if_pos standard

theorem Host.input_drained_of_file (file : isStandardInput path = false) :
    host.drained.input path = host.input path := by
  rw [input, input, if_neg (by simp [file]), if_neg (by simp [file])]
  rfl

theorem Host.after_of_isStandardInput (standard : isStandardInput path = true) :
    host.after path = host.drained := if_pos standard

theorem Host.after_of_file (file : isStandardInput path = false) : host.after path = host :=
  if_neg (by simp [file])

theorem Host.readingAt_of_file (file : isStandardInput path = false) (reader? : Option Nat)
    (place : Nat) : host.readingAt reader? place path = host.input path := by
  rw [readingAt]
  split
  · rfl
  · exact input_drained_of_file file

@[simp] theorem Host.drained_drained (host : Host) : host.drained.drained = host.drained := by
  rw [drained, drained]
  cases host.stdin <;> rfl

theorem Host.readingAt_drained (host : Host) (reader? : Option Nat) (place : Nat) (path : String) :
    host.drained.readingAt reader? place path = host.drained.input path := by
  rw [readingAt, drained_drained, ite_self]

theorem Host.readingAt_of_ne {reader? : Option Nat} {place : Nat} (ne : reader? ≠ some place)
    (path : String) : host.readingAt reader? place path = host.drained.input path := by
  rw [readingAt, if_neg ne]

theorem Host.readingAt_self (host : Host) (place : Nat) (path : String) :
    host.readingAt (some place) place path = host.input path := by
  rw [readingAt, if_pos rfl]

variable {inputs : List String} {order : List Nat} {place other : Nat}

theorem firstReader?_cons_of_reader (here : inputs[place]? = some path)
    (standard : isStandardInput path = true) :
    firstReader? inputs (place :: order) = some place :=
  List.find?_cons_of_pos (by simp [here, standard])

theorem firstReader?_cons_of_file (here : inputs[place]? = some path)
    (file : isStandardInput path = false) :
    firstReader? inputs (place :: order) = firstReader? inputs order :=
  List.find?_cons_of_neg (by simp [here, file])

theorem firstReader?_cons_of_none (here : inputs[place]? = none) :
    firstReader? inputs (place :: order) = firstReader? inputs order :=
  List.find?_cons_of_neg (by simp [here])

theorem reader_of_firstReader? (first : firstReader? inputs order = some place) :
    inputs[place]?.any isStandardInput = true := by
  rw [firstReader?] at first
  have found := List.find?_some first
  exact found

theorem Host.readingAt_head (here : inputs[place]? = some path) :
    host.readingAt (firstReader? inputs (place :: order)) place path = host.input path := by
  cases standard : isStandardInput path with
  | true => rw [firstReader?_cons_of_reader here standard, readingAt_self]
  | false => exact readingAt_of_file standard _ place

theorem Host.readingAt_tail {path' : String} (here : inputs[place]? = some path)
    (ne : place ≠ other) :
    (host.after path).readingAt (firstReader? inputs order) other path' =
      host.readingAt (firstReader? inputs (place :: order)) other path' := by
  cases standard : isStandardInput path with
  | true =>
    have elsewhere : some place ≠ some other := by simpa using ne
    rw [firstReader?_cons_of_reader here standard, after_of_isStandardInput standard,
      readingAt_drained, readingAt_of_ne elsewhere]
  | false => rw [firstReader?_cons_of_file here standard, after_of_file standard]

@[simp] theorem Pool.length_reports_check (pool : Pool) (place : Nat) :
    (pool.check inputs place).reports.length = pool.reports.length := by
  rw [check]
  split <;> simp

theorem Pool.getElem?_reports_foldl_check (nodup : order.Nodup) (pool : Pool)
    (length : pool.reports.length = inputs.length) {path : String}
    (here : inputs[place]? = some path) :
    (order.foldl (check inputs) pool).reports[place]? =
      if place ∈ order then
        some (some (pool.host.readingAt (firstReader? inputs order) place path).result)
      else pool.reports[place]? := by
  induction order generalizing pool with
  | nil => rfl
  | cons taken order ih =>
    obtain ⟨fresh, nodup⟩ := List.nodup_cons.mp nodup
    rw [List.foldl_cons]
    cases there : inputs[taken]? with
    | none =>
      have ne : taken ≠ place := by
        rintro rfl
        cases there.symm.trans here
      have same : pool.check inputs taken = pool := by rw [check, there]
      rw [same, ih nodup pool length, firstReader?_cons_of_none there]
      simp [ne.symm]
    | some path' =>
      rw [ih nodup _ (by rw [length_reports_check, length]), check, there]
      dsimp only
      by_cases eq : taken = place
      · subst eq
        obtain rfl := Option.some.inj (there.symm.trans here)
        have inside : taken < pool.reports.length := by
          rw [length]
          exact (List.getElem?_eq_some_iff.mp here).1
        rw [if_neg fresh, if_pos List.mem_cons_self, List.getElem?_set_self inside,
          Host.readingAt_head here]
        rfl
      · rw [Host.readingAt_tail there eq, List.getElem?_set_ne eq]
        simp [Ne.symm eq]

@[simp] theorem Pool.length_reports_run (host : Host) (inputs : List String) (order : List Nat) :
    (run host inputs order).reports.length = inputs.length := by
  rw [run]
  have start : (start host inputs).reports.length = inputs.length := List.length_map _
  generalize Pool.start host inputs = pool at start ⊢
  induction order generalizing pool with
  | nil => exact start
  | cons place order ih => exact ih _ (by rw [length_reports_check, start])

theorem Pool.results_run_of_perm (perm : order.Perm (List.range inputs.length)) :
    (Pool.run host inputs order).results =
      (host.readingsFor (firstReader? inputs order) inputs).map (·.result) := by
  have nodup : order.Nodup := perm.nodup_iff.mpr List.nodup_range
  have reports : (Pool.run host inputs order).reports =
      ((host.readingsFor (firstReader? inputs order) inputs).map (·.result)).map some := by
    apply List.ext_getElem?
    intro place
    cases here : inputs[place]? with
    | none =>
      have outside : inputs.length ≤ place := List.getElem?_eq_none_iff.mp here
      rw [List.getElem?_eq_none (by simpa), List.getElem?_eq_none (by simpa [Host.readingsFor])]
    | some path =>
      have inside : place < inputs.length := (List.getElem?_eq_some_iff.mp here).1
      have taken : place ∈ order := perm.mem_iff.mpr (List.mem_range.mpr inside)
      rw [run, getElem?_reports_foldl_check nodup (start host inputs) (by simp [start]) here,
        if_pos taken]
      simp [Host.readingsFor, here, start]
  rw [results, reports, List.filterMap_map]
  exact List.filterMap_some

end readers

end ScriptLens
