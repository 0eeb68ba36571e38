import ScriptLens.Proofs.Check.Pool
import ScriptLens.Proofs.Check.Report
import ScriptLens.Run

namespace ScriptLens

def Reading.Clean (r : Reading) : Prop :=
  ∃ i, r = .ok i ∧ ∀ t ∈ tokenize i.file.content, t.kind ≠ .error

def errorTotal (rs : List Reading) : Nat :=
  ((rs.filterMap Reading.input?).flatMap fun i => errorTokens i.file.content).length

def faultyTotal (rs : List Reading) : Nat :=
  ((rs.filterMap Reading.input?).filter fun i => !(errorTokens i.file.content).isEmpty).length

def reasonToFail (rs : List Reading) : Failure :=
  if 0 < errorTotal rs then .lexicalErrors (errorTotal rs) (faultyTotal rs)
  else .fileOperation s!"{(rs.filterMap Reading.failure?).length} file(s) could not be read"

def Note.errorLine? : Note → Option String
  | .event _ => none
  | .error message => some ("error: " ++ message)

@[simp] theorem Note.errorLine?_event (e : Event) : (event e).errorLine? = none := rfl

def Failure.line (f : Failure) : String := "error: " ++ f.message

def Outcome.errorLines (o : Outcome) : List String := o.notes.filterMap Note.errorLine?

def Transcript.errorLines (t : Transcript) : List String := t.notes.filterMap Note.errorLine?

structure Passes (rs : List Reading) (t : Transcript) (o : Outcome) : Prop where
  failure : t.failure = none
  status : o.status = 0
  stdout : o.stdout = s!"checked {rs.length} file(s): no lexical errors\n"
  errors : o.errorLines = []

structure Fails (rs : List Reading) (t : Transcript) (o : Outcome) : Prop where
  failure : t.failure = some (reasonToFail rs)
  status : o.status = 1
  stdout : ∃ texts, o.stdout = String.join texts ∧
    texts.map .ok = (rs.filterMap Reading.input?).flatMap (·.reports)
  errors : o.errorLines =
    (rs.filterMap Reading.failure?).map (·.line) ++ [(reasonToFail rs).line]

inductive Judged (rs : List Reading) (t : Transcript) (o : Outcome) : Prop
  | clean : (∀ r ∈ rs, r.Clean) → Passes rs t o → Judged rs t o
  | faulty : (¬∀ r ∈ rs, r.Clean) → Fails rs t o → Judged rs t o

section counts

theorem errorTokens_eq_nil_iff {source : String} :
    errorTokens source = [] ↔ ∀ t ∈ tokenize source, t.kind ≠ .error := by
  rw [errorTokens, List.filter_eq_nil_iff]
  apply forall₂_congr
  intro t _
  cases kind : t.kind <;> simp [Token.isError, kind, TokenKind.isError]

theorem filterMap_report? (rs : List Reading) :
    (rs.map (·.result)).filterMap CheckResult.report? =
      (rs.filterMap Reading.input?).map FileReport.ofInput := by
  rw [List.filterMap_map, List.map_filterMap]
  congr 1
  funext r
  cases r with
  | ok i => rfl
  | error f => rfl

theorem filterMap_failure? (rs : List Reading) :
    (rs.map (·.result)).filterMap CheckResult.failure? = rs.filterMap Reading.failure? := by
  rw [List.filterMap_map]
  congr 1
  funext r
  cases r with
  | ok i => rfl
  | error f => rfl

theorem errorCount_ofInput (is : List Input) :
    errorCount (is.map FileReport.ofInput) =
      (is.flatMap fun i => errorTokens i.file.content).length := by
  rw [errorCount, List.flatMap_map]
  simp only [List.length_flatMap, FileReport.diagnostics_ofInput, length_diagnose]

theorem faultyCount_ofInput (is : List Input) :
    faultyCount (is.map FileReport.ofInput) =
      (is.filter fun i => !(errorTokens i.file.content).isEmpty).length := by
  rw [faultyCount, List.filter_map, List.length_map]
  congr 2
  funext i
  rw [Function.comp_apply, FileReport.diagnostics_ofInput, isEmpty_diagnose]

theorem length_flatMap_reports (rs : List Reading) :
    ((rs.filterMap Reading.input?).flatMap (·.reports)).length = errorTotal rs := by
  simp only [errorTotal, List.length_flatMap, Input.length_reports]

theorem clean_iff {rs : List Reading} :
    (∀ r ∈ rs, r.Clean) ↔ errorTotal rs = 0 ∧ (rs.filterMap Reading.failure?).length = 0 := by
  simp only [errorTotal, List.length_eq_zero_iff]
  induction rs with
  | nil => simp
  | cons r rs ih =>
    rw [List.forall_mem_cons, ih]
    cases r with
    | ok i => simp [Reading.Clean, errorTokens_eq_nil_iff, and_assoc]
    | error f => simp [Reading.Clean]

end counts

theorem verdict_result (rs : List Reading) :
    verdict ((rs.filterMap Reading.input?).map FileReport.ofInput) (rs.filterMap Reading.failure?) =
      if errorTotal rs = 0 ∧ (rs.filterMap Reading.failure?).length = 0 then none
      else some (reasonToFail rs) := by
  rw [verdict, errorCount_ofInput, faultyCount_ofInput, ← errorTotal, ← faultyTotal, reasonToFail]
  split
  · rename_i some
    rw [if_neg (by omega)]
  split
  · rename_i some
    rw [if_neg (by omega)]
  · rw [if_pos (by omega)]

theorem length_filterMap_input?_add (rs : List Reading) :
    (rs.filterMap Reading.input?).length + (rs.filterMap Reading.failure?).length = rs.length := by
  induction rs with
  | nil => rfl
  | cons r rs ih =>
    cases r with
    | ok i =>
      simp only [List.filterMap_cons, Reading.input?_ok, Reading.failure?_ok, List.length_cons]
      omega
    | error f =>
      simp only [List.filterMap_cons, Reading.input?_error, Reading.failure?_error,
        List.length_cons]
      omega

theorem exists_texts (is : List Input) :
    ∃ texts, String.join ((is.map FileReport.ofInput).map FileReport.text) = String.join texts ∧
      texts.map .ok = is.flatMap (·.reports) := by
  induction is with
  | nil => exact ⟨[], rfl, rfl⟩
  | cons i is ih =>
    obtain ⟨texts, printed, reports⟩ := ih
    obtain ⟨first, text, report⟩ := FileReport.exists_texts i
    refine ⟨first ++ texts, ?_, ?_⟩
    · rw [List.map_cons, List.map_cons, String.join_cons, text, printed, String.join_append]
    · rw [List.map_append, report, reports, List.flatMap_cons]

theorem filterMap_errorLine?_filter (filter : LogFilter) (notes : List Note) :
    (notes.filter filter.admitsNote).filterMap Note.errorLine? =
      notes.filterMap Note.errorLine? := by
  rw [List.filterMap_filter]
  congr 1
  funext n
  cases n with
  | event e => exact ite_self none
  | error message => rfl

theorem filterMap_errorLine?_event (events : List Event) :
    (events.map Note.event).filterMap Note.errorLine? = [] := by
  rw [List.filterMap_map]
  exact List.filterMap_eq_nil_iff.mpr fun _ _ => rfl

theorem filterMap_errorLine?_note (fs : List Failure) :
    (fs.map Failure.note).filterMap Note.errorLine? = fs.map (·.line) := by
  rw [List.filterMap_map]
  exact congrFun List.filterMap_eq_map fs

namespace Transcript

theorem following_following (t : Transcript) (later earlier : List Event) :
    (t.following later).following earlier = t.following (earlier ++ later) := by
  simp [following]

@[simp] theorem failure_following (t : Transcript) (events : List Event) :
    (t.following events).failure = t.failure := rfl

@[simp] theorem errorLines_following (t : Transcript) (events : List Event) :
    (t.following events).errorLines = t.errorLines := by
  rw [errorLines, following, List.filterMap_append, filterMap_errorLine?_event, List.nil_append,
    errorLines]

theorem errorLines_outcome (t : Transcript) (filter : LogFilter) :
    (t.outcome filter).errorLines = t.errorLines ++ t.failure.toList.map (·.line) := by
  have final : (t.failure.map Failure.note).toList = t.failure.toList.map Failure.note := by
    cases t.failure <;> rfl
  rw [Outcome.errorLines, outcome, List.filterMap_append, filterMap_errorLine?_filter, final,
    filterMap_errorLine?_note, errorLines]

end Transcript

section conclude

variable (rs : List Reading)

theorem failure_conclude :
    (conclude (rs.map (·.result))).failure =
      if errorTotal rs = 0 ∧ (rs.filterMap Reading.failure?).length = 0 then none
      else some (reasonToFail rs) := by
  simp only [conclude, filterMap_report?, filterMap_failure?, verdict_result]

theorem errorLines_conclude :
    (conclude (rs.map (·.result))).errorLines = (rs.filterMap Reading.failure?).map (·.line) := by
  simp only [Transcript.errorLines, conclude, filterMap_failure?, List.filterMap_append,
    filterMap_errorLine?_note]
  simp [List.filterMap_cons]

theorem exists_texts_conclude :
    ∃ texts, texts.map .ok = (rs.filterMap Reading.input?).flatMap (·.reports) ∧
      (conclude (rs.map (·.result))).stdout = String.join texts ++
        if (conclude (rs.map (·.result))).failure.isNone then
          s!"checked {(rs.filterMap Reading.input?).length} file(s): no lexical errors\n"
        else "" := by
  obtain ⟨texts, printed, reports⟩ := exists_texts (rs.filterMap Reading.input?)
  refine ⟨texts, reports, ?_⟩
  simp only [conclude, filterMap_report?, filterMap_failure?, printed, List.length_map]

end conclude

theorem judged_conclude (rs : List Reading) (events : List Event) (filter : LogFilter) :
    Judged rs ((conclude (rs.map (·.result))).following events)
      (((conclude (rs.map (·.result))).following events).outcome filter) := by
  have failure := failure_conclude rs
  have lines := ((conclude (rs.map (·.result))).following events).errorLines_outcome filter
  obtain ⟨texts, reports, printed⟩ := exists_texts_conclude rs
  rw [Transcript.errorLines_following, errorLines_conclude, Transcript.failure_following] at lines
  by_cases clean : ∀ r ∈ rs, r.Clean
  · obtain ⟨faultless, readable⟩ := clean_iff.mp clean
    have count := length_filterMap_input?_add rs
    have silent : texts = [] := by
      rw [← List.length_eq_zero_iff, ← List.length_map, reports, length_flatMap_reports, faultless]
    rw [if_pos ⟨faultless, readable⟩] at failure
    rw [readable, Nat.add_zero] at count
    rw [failure, silent, count] at printed
    rw [failure, List.length_eq_zero_iff.mp readable] at lines
    refine .clean clean ⟨failure, ?_, ?_, lines⟩
    · simp [Transcript.outcome, Transcript.following, failure]
    · simpa [Transcript.outcome, Transcript.following] using printed
  · rw [if_neg (clean_iff.not.mp clean)] at failure
    rw [failure] at printed lines
    refine .faulty clean ⟨failure, ?_, ⟨texts, ?_, reports⟩, lines⟩
    · simp [Transcript.outcome, Transcript.following, failure]
    · simpa [Transcript.outcome, Transcript.following] using printed

theorem Host.exists_checkIn (host : Host) {inputs : List String} {order : List Nat}
    (perm : order.Perm (List.range inputs.length)) :
    ∃ events, host.checkIn inputs order =
      (conclude ((host.readingsFor (firstReader? inputs order) inputs).map
        (·.result))).following events := by
  rw [checkIn, Pool.results_run_of_perm perm]
  exact ⟨_, rfl⟩

/-- The verdict depends on the readings alone, whatever the settings are, in whatever order the
workers take the inputs and whatever is logged. -/
theorem check_verdict :
    (∀ rs events filter,
      let t := (conclude (rs.map Reading.result)).following events
      Judged rs t (t.outcome filter)) ∧
    ∀ host options settings inputs jobs filter,
      let t := (CommandLine.Command.check inputs jobs).execute host options settings
      let workers := jobs.getD (settings.check.jobs.getD host.processors)
      let reader? := firstReader? inputs (host.schedule.order workers inputs.length)
      let rs := host.readingsFor reader? inputs
      rs.length = inputs.length ∧ Judged rs t (t.outcome filter) := by
  constructor
  · exact judged_conclude
  · intro host options settings inputs jobs filter t workers reader? rs
    refine ⟨host.length_readingsFor reader? inputs, ?_⟩
    obtain ⟨events, checked⟩ := host.exists_checkIn (host.schedule.perm workers inputs.length)
    have executed : t = (conclude (rs.map Reading.result)).following
        ([.executing "check"] ++ events) := by
      rw [← Transcript.following_following, ← checked]
      rfl
    rw [executed]
    exact judged_conclude _ _ filter

end ScriptLens
