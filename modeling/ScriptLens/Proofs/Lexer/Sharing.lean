import Mathlib.Data.List.Forall2
import Mathlib.Logic.Function.Basic
import ScriptLens.Proofs.Lexer.Causes

/-! # Sharing a handler

Lexers that report to one handler are called in any order, and the handler is emptied and looked at
in between.  Each error token leaves its one diagnostic in the record, in the order of the calls,
and the tokens of a lexer are those of its source. -/

namespace ScriptLens

universe u

/-- What is told of an error token, and where, by how its lexeme begins. -/
inductive Describes (t : Token) : Diagnostic → Prop
  | stray {c : Char} : t.lexeme = String.singleton c → Describes t
      { message := "unexpected character " ++ Text.quotedChar c
        span := t.span
        code := some ⟨"E", 1001⟩ }
  | string {quote : Char} : quote ∈ quotes → t.lexeme.toList.head? = some quote → Describes t
      { message := "unterminated string literal"
        span := t.span
        code := some ⟨"E", 1002⟩
        helps := ["close the string on the same line, or use a template literal"] }
  | number : beginsNumber t.lexeme.toList = true → Describes t
      { message := "invalid numeric literal '" ++ t.lexeme ++ "'"
        span := t.span
        code := some ⟨"E", 1003⟩ }
  | comment : ['/', '*'] <+: t.lexeme.toList → Describes t
      { message := "unterminated block comment"
        span := t.span
        code := some ⟨"E", 1004⟩
        helps := ["add \x60*/\x60 to close the comment"] }
  | template : t.lexeme.toList.head? = some backtick → Describes t
      { message := "unterminated template literal"
        span := t.span
        code := some ⟨"E", 1005⟩
        helps := ["add a closing '\x60'"] }

theorem Causes.describes {fault : LexFault} {t : Token} (causes : Causes fault t.lexeme.toList) :
    Describes t (fault.diagnostic t.span) := by
  generalize spelling : t.lexeme.toList = cs at causes
  cases causes with
  | string isQuote => exact .string isQuote (by rw [spelling]; rfl)
  | template => exact .template (by rw [spelling]; rfl)
  | comment => exact .comment (by rw [spelling]; exact ⟨_, rfl⟩)
  | number begins =>
    rw [← spelling, String.ofList_toList]
    exact .number (by rw [spelling]; exact begins)
  | stray _ =>
    refine .stray ?_
    rw [← String.toList_inj, spelling, String.toList_singleton]

theorem Lexer.causes_of_step? {l : Lexer} {step : Step} {fault : LexFault}
    (stepped : l.step? = some step) (faulty : step.fault? = some fault) :
    Causes fault step.token.lexeme.toList := by
  unfold step? at stepped
  split at stepped
  · cases stepped
  · obtain rfl := Option.some.inj stepped
    rw [String.toList_ofList]
    exact causes_scan faulty

structure Reporters (ι : Type u) where
  handler : Handler
  lexers : ι → Lexer

namespace Reporters

variable {ι : Type u}

inductive Call (ι : Type u)
  | next (i : ι)
  | emit (d : Diagnostic)
  | take
  | diagnostics
  | errorCount
  | hasErrors
  deriving DecidableEq

inductive Reply
  | token (t : Option Token)
  | recorded
  | diagnostics (ds : List Diagnostic)
  | count (n : Nat)
  | answer (b : Bool)

def ofSources (sources : ι → String) (handler : Handler) : Reporters ι :=
  ⟨handler, fun i => .ofSource (sources i)⟩

def session (r : Reporters ι) (i : ι) : Session := ⟨r.lexers i, r.handler, true⟩

inductive Adds : Call ι × Reply → List Diagnostic → Prop
  | emitted (d : Diagnostic) : Adds (.emit d, .recorded) [d]
  | malformed (i : ι) (t : Token) (d : Diagnostic) :
      t.isError = true → Describes t d → Adds (.next i, .token (some t)) [d]
  | wellFormed (i : ι) (t : Token) : t.isError = false → Adds (.next i, .token (some t)) []
  | ended (i : ι) : Adds (.next i, .token none) []
  | taken (ds : List Diagnostic) : Adds (.take, .diagnostics ds) []
  | listed (ds : List Diagnostic) : Adds (.diagnostics, .diagnostics ds) []
  | counted (n : Nat) : Adds (.errorCount, .count n) []
  | answered (b : Bool) : Adds (.hasErrors, .answer b) []

/-- What a reply says, when `pending` is the record since the last take. -/
inductive Tells (pending : List Diagnostic) : Call ι × Reply → Prop
  | token (i : ι) (t : Option Token) : Tells pending (.next i, .token t)
  | recorded (d : Diagnostic) : Tells pending (.emit d, .recorded)
  | taken : Tells pending (.take, .diagnostics pending)
  | listed : Tells pending (.diagnostics, .diagnostics pending)
  | counted : Tells pending (.errorCount, .count pending.length)
  | answered (b : Bool) : (b = true ↔ 0 < pending.length) → Tells pending (.hasErrors, .answer b)

/-- What the takes have handed over, one take after the other. -/
def handedOver : List (Call ι × Reply) → List Diagnostic
  | [] => []
  | (.take, .diagnostics ds) :: log => ds ++ handedOver log
  | _ :: log => handedOver log

/-- What has been added since the last take, or to `before` if there was none. -/
def sinceTake (before : List Diagnostic) : List (Call ι × List Diagnostic) → List Diagnostic
  | [] => before
  | (.take, _) :: more => sinceTake [] more
  | (_, added) :: more => sinceTake (before ++ added) more

theorem adds_next {l : Lexer} {step : Lexer.Step} (i : ι) (stepped : l.step? = some step) :
    Adds (.next i, .token (some step.token)) step.diagnostic?.toList := by
  have errors := Lexer.isError_of_step? stepped
  rw [Lexer.Step.diagnostic?]
  cases fault : step.fault? with
  | none => exact .wellFormed i step.token (by rw [errors, fault]; rfl)
  | some f =>
    exact .malformed i step.token _ (by rw [errors, fault]; rfl)
      (Lexer.causes_of_step? stepped fault).describes

theorem handedOver_cons (x : Call ι × Reply) (log : List (Call ι × Reply)) :
    handedOver (x :: log) = handedOver [x] ++ handedOver log := by
  obtain ⟨c, reply⟩ := x
  cases c <;> cases reply <;> simp [handedOver]

variable [DecidableEq ι]

def perform (r : Reporters ι) : Call ι → Reply × Reporters ι
  | .next i =>
    (.token (r.session i).next.1,
      ⟨(r.session i).next.2.handler, Function.update r.lexers i (r.session i).next.2.lexer⟩)
  | .emit d => (.recorded, { r with handler := r.handler.emit d })
  | .take => (.diagnostics r.handler.take.1, { r with handler := r.handler.take.2 })
  | .diagnostics => (.diagnostics r.handler.diagnostics, r)
  | .errorCount => (.count r.handler.errorCount, r)
  | .hasErrors => (.answer r.handler.hasErrors, r)

def run (r : Reporters ι) : List (Call ι) → List (Call ι × Reply) × Reporters ι
  | [] => ([], r)
  | c :: cs => ((c, (r.perform c).1) :: (run (r.perform c).2 cs).1, (run (r.perform c).2 cs).2)

def tokensOf (i : ι) : List (Call ι × Reply) → List (Option Token)
  | [] => []
  | (.next j, .token t) :: log => if j = i then t :: tokensOf i log else tokensOf i log
  | _ :: log => tokensOf i log

def added (r : Reporters ι) : Call ι → List Diagnostic
  | .next i => ((r.lexers i).steps.head?.bind (·.diagnostic?)).toList
  | .emit d => [d]
  | _ => []

def additions (r : Reporters ι) : List (Call ι) → List (List Diagnostic)
  | [] => []
  | c :: cs => r.added c :: additions (r.perform c).2 cs

theorem adds_perform (r : Reporters ι) (c : Call ι) : Adds (c, (r.perform c).1) (r.added c) := by
  cases c with
  | next i =>
    cases stepped : (r.lexers i).step? with
    | none =>
      simp only [perform, added, Session.next_of_none (s := r.session i) stepped,
        Lexer.steps_of_none stepped]
      exact .ended i
    | some step =>
      simp only [perform, added, Session.next_of_some (s := r.session i) stepped,
        Lexer.steps_of_some stepped]
      exact adds_next i stepped
  | emit d => exact .emitted d
  | take => exact .taken _
  | diagnostics => exact .listed _
  | errorCount => exact .counted _
  | hasErrors => exact .answered _

theorem diagnostics_perform (r : Reporters ι) (c : Call ι) :
    (r.perform c).2.handler.diagnostics =
      if c = .take then [] else r.handler.diagnostics ++ r.added c := by
  cases c with
  | next i => exact Session.diagnostics_next (r.session i)
  | take => rfl
  | _ => simp [perform, added]

theorem tells_perform (r : Reporters ι) (c : Call ι) :
    Tells r.handler.diagnostics (c, (r.perform c).1) := by
  cases c with
  | next i => exact .token i _
  | emit d => exact .recorded d
  | take => exact .taken
  | diagnostics => exact .listed
  | errorCount =>
    rw [perform, Handler.errorCount_eq]
    exact .counted
  | hasErrors =>
    apply Tells.answered
    simp [Handler.hasErrors, Handler.diagnostics, Array.size_pos_iff]

/-- A call is charged to the record that it finds: what it hands over and leaves is what was there
and what it adds. -/
theorem balance_perform (r : Reporters ι) (c : Call ι) :
    handedOver [(c, (r.perform c).1)] ++ (r.perform c).2.handler.diagnostics =
      r.handler.diagnostics ++ r.added c := by
  cases c with
  | take => simp [perform, handedOver, added, Handler.take]
  | _ => rw [diagnostics_perform]; rfl

theorem steps_perform (r : Reporters ι) (c : Call ι) (i : ι) :
    ((r.perform c).2.lexers i).steps =
      if c = .next i then (r.lexers i).steps.tail else (r.lexers i).steps := by
  cases c with
  | next j =>
    by_cases same : j = i
    · simp only [perform, same, Function.update_self, if_true]
      exact Session.steps_next (r.session i)
    · have other : i ≠ j := fun h => same h.symm
      simp [perform, same, other]
  | _ => rfl

variable (calls : List (Call ι))

theorem map_fst_run (r : Reporters ι) : (r.run calls).1.map Prod.fst = calls := by
  induction calls generalizing r with
  | nil => rfl
  | cons c cs ih => rw [run, List.map_cons, ih]

theorem getElem?_run (r : Reporters ι) (k : Nat) :
    (r.run calls).1[k]? = calls[k]?.map fun c => (c, ((r.run (calls.take k)).2.perform c).1) := by
  induction calls generalizing r k with
  | nil => rfl
  | cons c cs ih =>
    cases k with
    | zero => rfl
    | succ k => simp [run, ih]

theorem adds_run (r : Reporters ι) : List.Forall₂ Adds (r.run calls).1 (r.additions calls) := by
  induction calls generalizing r with
  | nil => exact .nil
  | cons c cs ih => exact .cons (adds_perform r c) (ih _)

theorem additions_take (r : Reporters ι) (k : Nat) :
    r.additions (calls.take k) = (r.additions calls).take k := by
  induction calls generalizing r k with
  | nil => simp [additions]
  | cons c cs ih =>
    cases k with
    | zero => rfl
    | succ k => simp [additions, ih]

theorem balance_run (r : Reporters ι) :
    handedOver (r.run calls).1 ++ (r.run calls).2.handler.diagnostics =
      r.handler.diagnostics ++ (r.additions calls).flatten := by
  induction calls generalizing r with
  | nil => simp [run, additions, handedOver]
  | cons c cs ih =>
    calc
      handedOver (r.run (c :: cs)).1 ++ (r.run (c :: cs)).2.handler.diagnostics =
          handedOver [(c, (r.perform c).1)] ++ (handedOver ((r.perform c).2.run cs).1 ++
            ((r.perform c).2.run cs).2.handler.diagnostics) := by
        rw [run, handedOver_cons, List.append_assoc]
      _ = r.handler.diagnostics ++ r.added c ++ ((r.perform c).2.additions cs).flatten := by
        rw [ih, ← List.append_assoc, balance_perform]
      _ = r.handler.diagnostics ++ (r.additions (c :: cs)).flatten := by
        rw [additions, List.flatten_cons, List.append_assoc]

theorem diagnostics_run (r : Reporters ι) :
    (r.run calls).2.handler.diagnostics =
      sinceTake r.handler.diagnostics (calls.zip (r.additions calls)) := by
  induction calls generalizing r with
  | nil => rfl
  | cons c cs ih =>
    have here := diagnostics_perform r c
    rw [run, ih, here, additions, List.zip_cons_cons]
    cases c <;> rfl

theorem tokensOf_run (r : Reporters ι) (i : ι) :
    tokensOf i (r.run calls).1 = (List.range (calls.count (.next i))).map fun n =>
      ((r.lexers i).steps.map (·.token))[n]? := by
  induction calls generalizing r with
  | nil => rfl
  | cons c cs ih =>
    have later := ih (r.perform c).2
    rw [steps_perform] at later
    by_cases called : c = .next i
    · rw [called] at later ⊢
      have first := Session.fst_next (r.session i)
      simp only [run, perform, tokensOf, if_true, List.count_cons_self, List.range_succ_eq_map,
        List.map_cons, List.map_map]
      rw [List.cons.injEq]
      constructor
      · rw [first, List.getElem?_map, List.head?_eq_getElem?]
        rfl
      · rw [if_pos rfl] at later
        refine later.trans ?_
        apply List.map_congr_left
        intro n _
        simp
    · rw [if_neg called] at later
      rw [List.count_cons_of_ne called, ← later]
      cases c with
      | next j =>
        have other : ¬ j = i := fun h => called (h ▸ rfl)
        simp [run, perform, tokensOf, other]
      | _ => rfl

theorem tells_run (r : Reporters ι) {k : Nat} {x : Call ι × Reply}
    (logged : (r.run calls).1[k]? = some x) :
    Tells (sinceTake r.handler.diagnostics ((calls.zip (r.additions calls)).take k)) x := by
  rw [getElem?_run, Option.map_eq_some_iff] at logged
  obtain ⟨c, _, same⟩ := logged
  have pending := diagnostics_run (calls.take k) r
  rw [additions_take, List.zip, ← List.take_zipWith] at pending
  rw [← same, List.zip, ← pending]
  exact tells_perform _ c

structure Ledger (sources : ι → String) (handler : Handler) (calls : List (Call ι))
    (added : List (List Diagnostic)) (log : List (Call ι × Reply)) (now : Reporters ι) : Prop where
  logged : log.map Prod.fst = calls
  adds : List.Forall₂ Adds log added
  balance : handedOver log ++ now.handler.diagnostics = handler.diagnostics ++ added.flatten
  present : now.handler.diagnostics = sinceTake handler.diagnostics (calls.zip added)
  tells : ∀ k x, log[k]? = some x →
    Tells (sinceTake handler.diagnostics ((calls.zip added).take k)) x
  tokens : ∀ i, tokensOf i log =
    (List.range (calls.count (.next i))).map fun n => (tokenize (sources i))[n]?

theorem run_ledger (sources : ι → String) (handler : Handler) (calls : List (Call ι)) :
    ∃ added, Ledger sources handler calls added ((ofSources sources handler).run calls).1
      ((ofSources sources handler).run calls).2 := by
  refine ⟨(ofSources sources handler).additions calls, ?_⟩
  constructor
  · exact map_fst_run calls _
  · exact adds_run calls _
  · exact balance_run calls _
  · exact diagnostics_run calls _
  · intro k x logged
    exact tells_run calls _ logged
  · intro i
    exact tokensOf_run calls _ i

end Reporters

end ScriptLens
