import ScriptLens.Proofs.Check.Turns
import ScriptLens.Proofs.Check.Verdict
import ScriptLens.Proofs.Text.Utf8

/-! # Checks in any order

The order in which the pool takes the inputs decides which of them gets standard input, and nothing
else.  So it decides at most where the reports on standard input are printed. -/

namespace ScriptLens

def Reading.text : Reading → String
  | .ok i => (FileReport.ofInput i).text
  | .error _ => ""

section conclude

variable {rs rs' : List Reading}

theorem errorTotal_of_perm (perm : rs.Perm rs') : errorTotal rs = errorTotal rs' :=
  ((perm.filterMap _).flatMap_right _).length_eq

theorem faultyTotal_of_perm (perm : rs.Perm rs') : faultyTotal rs = faultyTotal rs' :=
  ((perm.filterMap _).filter _).length_eq

theorem reasonToFail_of_perm (perm : rs.Perm rs') : reasonToFail rs = reasonToFail rs' := by
  rw [reasonToFail, reasonToFail, errorTotal_of_perm perm, faultyTotal_of_perm perm,
    (perm.filterMap _).length_eq]

theorem failure_conclude_of_perm (perm : rs.Perm rs') :
    (conclude (rs.map (·.result))).failure = (conclude (rs'.map (·.result))).failure := by
  rw [failure_conclude, failure_conclude, errorTotal_of_perm perm, reasonToFail_of_perm perm,
    (perm.filterMap _).length_eq]

def summaryLine (rs : List Reading) : String :=
  if (conclude (rs.map (·.result))).failure.isNone then
    s!"checked {(rs.filterMap Reading.input?).length} file(s): no lexical errors\n"
  else ""

theorem summaryLine_of_perm (perm : rs.Perm rs') : summaryLine rs = summaryLine rs' := by
  rw [summaryLine, summaryLine, failure_conclude_of_perm perm, (perm.filterMap _).length_eq]

theorem join_text (rs : List Reading) :
    String.join (((rs.filterMap Reading.input?).map FileReport.ofInput).map FileReport.text) =
      String.join (rs.map Reading.text) := by
  induction rs with
  | nil => rfl
  | cons r rs ih =>
    cases r with
    | ok i =>
      rw [List.filterMap_cons_some (Reading.input?_ok i), List.map_cons, List.map_cons,
        List.map_cons, String.join_cons, String.join_cons, ih]
      rfl
    | error f =>
      rw [List.filterMap_cons_none (Reading.input?_error f), List.map_cons, String.join_cons, ih,
        Reading.text, String.empty_append]

theorem stdout_conclude (rs : List Reading) :
    (conclude (rs.map (·.result))).stdout =
      String.join (rs.map Reading.text) ++ summaryLine rs := by
  rw [← join_text, summaryLine]
  simp only [conclude, filterMap_report?, List.length_map]

variable (before between after : List Reading) (full : Reading) {empty : Reading}

theorem perm_exchange : (before ++ full :: (between ++ empty :: after)).Perm
    (before ++ empty :: (between ++ full :: after)) := by
  refine List.Perm.append_left before ?_
  calc full :: (between ++ empty :: after)
    _ |>.Perm (full :: empty :: (between ++ after)) := List.perm_middle.cons full
    _ |>.Perm (empty :: full :: (between ++ after)) := List.Perm.swap ..
    _ |>.Perm (empty :: (between ++ full :: after)) := List.perm_middle.symm.cons empty

theorem stdout_exchange (silent : empty.text = "") :
    (conclude ((before ++ full :: (between ++ empty :: after)).map (·.result))).stdout =
        (conclude ((before ++ empty :: (between ++ full :: after)).map (·.result))).stdout ↔
      full.text ++ String.join (between.map Reading.text) =
        String.join (between.map Reading.text) ++ full.text := by
  rw [stdout_conclude, stdout_conclude,
    summaryLine_of_perm (perm_exchange before between after full)]
  simp only [String.append_left_inj, List.map_append, List.map_cons, String.join_append,
    String.join_cons, silent, String.empty_append, String.append_right_inj]
  rw [← String.append_assoc, ← String.append_assoc, String.append_left_inj]

end conclude

theorem FileReport.text_ofInput (i : Input) : (ofInput i).text =
    String.join ((diagnose i.file.content).map fun d => (d.report i.file).toOption.getD "") := by
  rw [text, diagnostics_ofInput]
  rfl

theorem Host.text_standardInput_drained (host : Host) : host.drained.standardInput.text = "" := by
  have content : (Input.mk stdinName []).file.content = "" := Text.Utf8.decodeLossy_encode ""
  have clean : diagnose "" = [] := by
    rw [diagnose_eq_sites, String.toList_empty, scans_nil]
    rfl
  have text := FileReport.text_ofInput ⟨stdinName, []⟩
  rw [content, clean] at text
  rw [standardInput, drained]
  cases host.stdin with
  | ok bytes => exact text
  | error e => rfl

@[simp] theorem Host.failure?_standardInput_drained (host : Host) :
    host.drained.standardInput.failure? = host.standardInput.failure? := by
  rw [standardInput, standardInput, drained]
  cases host.stdin <;> rfl

/-- It makes no difference whether the reports on standard input are printed before or behind those
on the inputs between two places. -/
def Host.Commutes (host : Host) (inputs : List String) (i j : Nat) : Prop :=
  let text := String.join ((host.between inputs i j).map Reading.text)
  host.standardInput.text ++ text = text ++ host.standardInput.text

theorem Host.commutes_self (host : Host) (inputs : List String) (i : Nat) :
    host.Commutes inputs i i := by
  rw [Commutes, between_self, List.map_nil]
  simp

theorem Host.Commutes.symm {host : Host} {inputs : List String} {i j : Nat}
    (commutes : host.Commutes inputs i j) : host.Commutes inputs j i := by
  rwa [Commutes, between_comm]

/-- Two checks that differ in the place that gets standard input: they read the same in another
order, and they print the same if the reports on standard input may change places. -/
structure Compares (host : Host) (inputs : List String) (reader? reader?' : Option Nat) : Prop where
  perm : (host.readingsFor reader? inputs).Perm (host.readingsFor reader?' inputs)
  failures : (host.readingsFor reader? inputs).filterMap Reading.failure? =
    (host.readingsFor reader?' inputs).filterMap Reading.failure?
  stdout : (conclude ((host.readingsFor reader? inputs).map (·.result))).stdout =
      (conclude ((host.readingsFor reader?' inputs).map (·.result))).stdout ↔
    ∀ i ∈ reader?, ∀ j ∈ reader?', host.Commutes inputs i j

namespace Compares

variable {host : Host} {inputs : List String} {reader? reader?' : Option Nat} {i j : Nat}

theorem refl (host : Host) (inputs : List String) (reader? : Option Nat) :
    Compares host inputs reader? reader? where
  perm := .refl _
  failures := rfl
  stdout := by
    refine iff_of_true rfl ?_
    intro i mem j mem'
    obtain rfl := Option.some.inj (Eq.trans (Eq.symm mem) mem')
    exact host.commutes_self inputs i

theorem symm (compares : Compares host inputs reader? reader?') :
    Compares host inputs reader?' reader? where
  perm := compares.perm.symm
  failures := compares.failures.symm
  stdout := by
    rw [eq_comm, compares.stdout]
    constructor
    · intro commutes j mem i mem'
      exact (commutes i mem' j mem).symm
    · intro commutes i mem j mem'
      exact (commutes j mem' i mem).symm

theorem of_lt (lt : i < j) (reader : inputs[i]?.any isStandardInput = true)
    (reader' : inputs[j]?.any isStandardInput = true) : Compares host inputs i j := by
  obtain ⟨before, after, first, second⟩ := host.exists_exchange lt reader reader'
  constructor
  · rw [first, second]
    exact perm_exchange ..
  · rw [first, second]
    simp only [List.filterMap_append, List.filterMap_cons, Host.failure?_standardInput_drained]
  · rw [first, second, stdout_exchange before _ after _ host.text_standardInput_drained]
    simp [Host.Commutes]

theorem of_readers (reader : inputs[i]?.any isStandardInput = true)
    (reader' : inputs[j]?.any isStandardInput = true) : Compares host inputs i j := by
  obtain lt | rfl | gt := Nat.lt_trichotomy i j
  · exact of_lt lt reader reader'
  · exact refl ..
  · exact (of_lt gt reader' reader).symm

theorem of_perm {order order' : List Nat} (perm : order.Perm order') :
    Compares host inputs (firstReader? inputs order) (firstReader? inputs order') := by
  have both : (firstReader? inputs order).isSome = (firstReader? inputs order').isSome := by
    rw [Bool.eq_iff_iff, firstReader?, firstReader?, List.find?_isSome, List.find?_isSome]
    simp only [perm.mem_iff]
  cases first : firstReader? inputs order with
  | none =>
    cases second : firstReader? inputs order' with
    | none => exact refl ..
    | some j => simp [first, second] at both
  | some i =>
    cases second : firstReader? inputs order' with
    | none => simp [first, second] at both
    | some j => exact of_readers (reader_of_firstReader? first) (reader_of_firstReader? second)

end Compares

theorem Host.stdout_checkIn_iff (host : Host) {inputs : List String} {order order' : List Nat}
    (perm : order.Perm (List.range inputs.length))
    (perm' : order'.Perm (List.range inputs.length)) :
    (host.checkIn inputs order).stdout = (host.checkIn inputs order').stdout ↔
      ∀ i ∈ firstReader? inputs order, ∀ j ∈ firstReader? inputs order',
        host.Commutes inputs i j := by
  obtain ⟨_, checked⟩ := host.exists_checkIn perm
  obtain ⟨_, checked'⟩ := host.exists_checkIn perm'
  rw [checked, checked']
  exact (Compares.of_perm (perm.trans perm'.symm)).stdout

theorem commutes_of_countP_le {inputs : List String} (single : inputs.countP isStandardInput ≤ 1)
    (host : Host) {i j : Nat} (reader : inputs[i]?.any isStandardInput = true)
    (reader' : inputs[j]?.any isStandardInput = true) : host.Commutes inputs i j := by
  have not_lt {i j : Nat} (reader : inputs[i]?.any isStandardInput = true)
      (reader' : inputs[j]?.any isStandardInput = true) : ¬i < j := by
    intro lt
    obtain ⟨before, p, middle, q, after, rfl, _, _, standard, standard'⟩ :=
      exists_readers lt reader reader'
    rw [List.countP_append, List.countP_append, List.countP_cons_of_pos standard,
      List.countP_cons_of_pos standard'] at single
    omega
  obtain rfl : i = j :=
    Nat.le_antisymm (Nat.not_lt.mp (not_lt reader' reader)) (Nat.not_lt.mp (not_lt reader reader'))
  exact host.commutes_self inputs i

theorem Host.stdout_checkIn_of_countP_le (host : Host) {inputs : List String}
    {order order' : List Nat} (perm : order.Perm (List.range inputs.length))
    (perm' : order'.Perm (List.range inputs.length))
    (single : inputs.countP isStandardInput ≤ 1) :
    (host.checkIn inputs order).stdout = (host.checkIn inputs order').stdout := by
  refine (host.stdout_checkIn_iff perm perm').mpr fun i first j first' => ?_
  exact commutes_of_countP_le single host (reader_of_firstReader? first)
    (reader_of_firstReader? first')

structure Transcript.Concur (t t' : Transcript) : Prop where
  failure : t.failure = t'.failure
  errors : t.errorLines = t'.errorLines

namespace Transcript.Concur

variable {t t' : Transcript}

theorem refl (t : Transcript) : Concur t t := ⟨rfl, rfl⟩

theorem following (concur : Concur t t') (events events' : List Event) :
    Concur (t.following events) (t'.following events') where
  failure := concur.failure
  errors := by rw [errorLines_following, errorLines_following, concur.errors]

theorem status (concur : Concur t t') (filter : LogFilter) :
    (t.outcome filter).status = (t'.outcome filter).status := by
  rw [outcome, outcome, concur.failure]

theorem errorLines (concur : Concur t t') (filter : LogFilter) :
    (t.outcome filter).errorLines = (t'.outcome filter).errorLines := by
  rw [errorLines_outcome, errorLines_outcome, concur.errors, concur.failure]

end Transcript.Concur

theorem Host.concur_checkIn (host : Host) {inputs : List String} {order order' : List Nat}
    (perm : order.Perm (List.range inputs.length))
    (perm' : order'.Perm (List.range inputs.length)) :
    (host.checkIn inputs order).Concur (host.checkIn inputs order') := by
  have compares : Compares host inputs (firstReader? inputs order) (firstReader? inputs order') :=
    .of_perm (perm.trans perm'.symm)
  obtain ⟨_, checked⟩ := host.exists_checkIn perm
  obtain ⟨_, checked'⟩ := host.exists_checkIn perm'
  rw [checked, checked']
  refine Transcript.Concur.following ⟨failure_conclude_of_perm compares.perm, ?_⟩ _ _
  rw [errorLines_conclude, errorLines_conclude, compares.failures]

/-- The order has a say in nothing but the place of the reports on standard input. -/
theorem check_order {host : Host} {inputs : List String} {order order' : List Nat}
    (perm : order.Perm (List.range inputs.length))
    (perm' : order'.Perm (List.range inputs.length)) (filter : LogFilter) :
    let o := (host.checkIn inputs order).outcome filter
    let o' := (host.checkIn inputs order').outcome filter
    o.status = o'.status ∧ o.errorLines = o'.errorLines ∧
      (o.stdout = o'.stdout ↔ ∀ i ∈ firstReader? inputs order, ∀ j ∈ firstReader? inputs order',
        host.Commutes inputs i j) ∧
      (inputs.countP isStandardInput ≤ 1 → o.stdout = o'.stdout) := by
  have concur := host.concur_checkIn perm perm'
  refine ⟨concur.status filter, concur.errorLines filter, host.stdout_checkIn_iff perm perm', ?_⟩
  exact host.stdout_checkIn_of_countP_le perm perm'

def Host.faulty : Host where
  lookup path := if path = "x" then .ok (.file [0x40]) else .error .notFound
  stdin := .ok [0x40]

theorem check_order_two :
    let inputs := ["-", "x"]
    let o := (Host.faulty.checkIn inputs [0, 1]).outcome (.choose none false)
    let o' := (Host.faulty.checkIn inputs [1, 0]).outcome (.choose none false)
    [0, 1].Perm (List.range inputs.length) ∧ [1, 0].Perm (List.range inputs.length) ∧
      o.status = o'.status ∧ o.errorLines = o'.errorLines ∧ o.stdout = o'.stdout := by
  intro inputs o o'
  have perm : [0, 1].Perm (List.range inputs.length) := by decide
  have perm' : [1, 0].Perm (List.range inputs.length) := by decide
  have agree : o.status = o'.status ∧ o.errorLines = o'.errorLines ∧ _ ∧ _ :=
    check_order perm perm' (.choose none false)
  obtain ⟨status, errors, _, stdout⟩ := agree
  exact ⟨perm, perm', status, errors, stdout (by decide)⟩

theorem FileReport.text_faulty {name text : String}
    (shown : ((LexFault.unexpectedChar '@').diagnostic ⟨0, 1, ⟨1, 1⟩⟩).report
      (.ofContent name "@") = .ok text) : (ofInput ⟨name, [0x40]⟩).text = text := by
  have content : Text.Utf8.decodeLossy [0x40] = "@" := Text.Utf8.decodeLossy_encode "@"
  have file : (Input.mk name [0x40]).file = .ofContent name "@" := by rw [Input.file, content]
  have found : diagnose "@" = [(LexFault.unexpectedChar '@').diagnostic ⟨0, 1, ⟨1, 1⟩⟩] := by
    rw [diagnose_eq_sites, ← scansUpTo_eq_scans (Nat.le_refl _)]
    decide
  have only : (SourceFile.ofContent name "@").content = "@" := rfl
  rw [text_ofInput, file, only, found, List.map_singleton, shown]
  exact String.empty_append

theorem stdout_ne_of_order :
    let inputs := ["-", "x", "-"]
    let o := (Host.faulty.checkIn inputs [0, 1, 2]).outcome (.choose none false)
    let o' := (Host.faulty.checkIn inputs [2, 1, 0]).outcome (.choose none false)
    [0, 1, 2].Perm (List.range inputs.length) ∧ [2, 1, 0].Perm (List.range inputs.length) ∧
      o.stdout ≠ o'.stdout := by
  intro inputs o o'
  have perm : [0, 1, 2].Perm (List.range inputs.length) := by decide
  have perm' : [2, 1, 0].Perm (List.range inputs.length) := by decide
  have standard : Host.faulty.standardInput.text =
      "<stdin>:1:1: error[E1001]: unexpected character '@'\n  1 | @\n    | ^\n" :=
    FileReport.text_faulty (by decide +kernel)
  have file : (FileReport.ofInput ⟨"x", [0x40]⟩).text =
      "x:1:1: error[E1001]: unexpected character '@'\n  1 | @\n    | ^\n" :=
    FileReport.text_faulty (by decide +kernel)
  have between : Host.faulty.between inputs 0 2 = [.ok ⟨"x", [0x40]⟩] := rfl
  have commutes : ¬Host.faulty.Commutes inputs 0 2 := by
    rw [Host.Commutes, between, List.map_singleton, Reading.text, standard, file]
    decide
  refine ⟨perm, perm', fun same => commutes ?_⟩
  exact (Host.faulty.stdout_checkIn_iff perm perm').mp same 0 rfl 2 rfl

end ScriptLens
