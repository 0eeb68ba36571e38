import ScriptLens.Lexer.Session
import ScriptLens.Proofs.Lexer.Sites

namespace ScriptLens

open Text

namespace Session

def afterCalls : Nat → Session → Session
  | 0, s => s
  | n + 1, s => (afterCalls n s).next.2

variable {s : Session}

theorem next_of_none (ended : s.lexer.step? = none) : s.next = (none, s) := by
  rw [next, ended]

theorem next_of_some {step : Lexer.Step} (stepped : s.lexer.step? = some step) :
    s.next = (some step.token, s.pass step) := by
  rw [next, stepped]

theorem fst_next (s : Session) : s.next.1 = s.lexer.steps.head?.map (·.token) := by
  cases stepped : s.lexer.step? with
  | none => rw [next_of_none stepped, Lexer.steps_of_none stepped]; rfl
  | some step => rw [next_of_some stepped, Lexer.steps_of_some stepped]; rfl

theorem steps_next (s : Session) : s.next.2.lexer.steps = s.lexer.steps.tail := by
  cases stepped : s.lexer.step? with
  | none => rw [next_of_none stepped, Lexer.steps_of_none stepped]; rfl
  | some step => rw [next_of_some stepped, Lexer.steps_of_some stepped]; rfl

@[simp] theorem records_next (s : Session) : s.next.2.records = s.records := by
  cases stepped : s.lexer.step? with
  | none => rw [next_of_none stepped]
  | some step => rw [next_of_some stepped]; rfl

@[simp] theorem source_next (s : Session) :
    s.next.2.lexer.cursor.source = s.lexer.cursor.source := by
  cases stepped : s.lexer.step? with
  | none => rw [next_of_none stepped]
  | some step => rw [next_of_some stepped]; exact Lexer.source_of_step? stepped

theorem diagnostics_next (s : Session) :
    s.next.2.handler.diagnostics = s.handler.diagnostics ++
      if s.records then (s.lexer.steps.head?.bind (·.diagnostic?)).toList else [] := by
  cases stepped : s.lexer.step? with
  | none => rw [next_of_none stepped, Lexer.steps_of_none stepped]; simp
  | some step =>
    rw [next_of_some stepped, Lexer.steps_of_some stepped]
    simp only [pass]
    split <;> simp

theorem hasPassed_next {passed : List Char} (here : s.lexer.cursor.HasPassed passed) :
    s.next.2.lexer.cursor.HasPassed
      (passed ++ (s.next.1.map fun t => t.lexeme.toList).getD []) := by
  cases stepped : s.lexer.step? with
  | none => rw [next_of_none stepped]; simpa using here
  | some step =>
    obtain ⟨c, cs, _, takes⟩ := Lexer.takes_of_step? here stepped
    rw [next_of_some stepped]
    simpa [pass, takes.token, Site.token] using takes.next

theorem steps_afterCalls (s : Session) (n : Nat) :
    (s.afterCalls n).lexer.steps = s.lexer.steps.drop n := by
  induction n with
  | zero => rfl
  | succ n ih => rw [afterCalls, steps_next, ih, List.tail_drop]

@[simp] theorem records_afterCalls (s : Session) (n : Nat) :
    (s.afterCalls n).records = s.records := by
  induction n with
  | zero => rfl
  | succ n ih => rw [afterCalls, records_next, ih]

@[simp] theorem source_afterCalls (s : Session) (n : Nat) :
    (s.afterCalls n).lexer.cursor.source = s.lexer.cursor.source := by
  induction n with
  | zero => rfl
  | succ n ih => rw [afterCalls, source_next, ih]

theorem fst_next_afterCalls (s : Session) (n : Nat) :
    (s.afterCalls n).next.1 = (s.lexer.steps.map (·.token))[n]? := by
  rw [fst_next, steps_afterCalls, List.head?_drop, List.getElem?_map]

theorem diagnostics_afterCalls (s : Session) (n : Nat) :
    (s.afterCalls n).handler.diagnostics = s.handler.diagnostics ++
      if s.records then (s.lexer.steps.take n).filterMap (·.diagnostic?) else [] := by
  induction n with
  | zero => simp [afterCalls]
  | succ n ih =>
    rw [afterCalls, diagnostics_next, ih, records_afterCalls, steps_afterCalls, List.head?_drop,
      List.take_add_one, List.filterMap_append, List.append_assoc]
    congr 1
    split
    · cases s.lexer.steps[n]? with
      | none => rfl
      | some step => cases found : step.diagnostic? <;> simp [found]
    · rfl

theorem fst_next_ofSource (source : String) (handler : Handler) (records : Bool) (n : Nat) :
    ((ofSource source handler records).afterCalls n).next.1 = (tokenize source)[n]? :=
  fst_next_afterCalls _ n

theorem diagnostics_afterCalls_ofSource (source : String) (handler : Handler) (n : Nat) :
    ((ofSource source handler true).afterCalls n).handler.diagnostics = handler.diagnostics ++
      ((sites [] (scans source.toList)).take n).filterMap (·.diagnostic?) := by
  have found := congrArg (List.map Prod.snd)
    (Lexer.map_steps (l := Lexer.ofSource source) (Cursor.hasPassed_ofSource source))
  rw [List.map_map, List.map_map] at found
  have first := congrArg (fun ds => (ds.take n).filterMap id) found
  simp only [← List.map_take, List.filterMap_map] at first
  rw [diagnostics_afterCalls]
  exact congrArg (handler.diagnostics ++ ·) first

theorem hasPassed_afterCalls (source : String) (handler : Handler) (records : Bool)
    (n : Nat) :
    ((ofSource source handler records).afterCalls n).lexer.cursor.HasPassed
      (lexemes ((scans source.toList).take n)) := by
  induction n with
  | zero => exact Cursor.hasPassed_ofSource source
  | succ n ih =>
    have next := hasPassed_next ih
    rw [fst_next_ofSource, getElem?_tokenize] at next
    rw [afterCalls]
    cases at_n : (scans source.toList)[n]? with
    | none =>
      rw [List.take_add_one, at_n]
      simpa [at_n] using next
    | some s =>
      rw [lexemes_take_add_one at_n]
      simpa [at_n, Site.token] using next

end Session

end ScriptLens
