import ScriptLens.Source.Cursor
import ScriptLens.Token.Basic
import ScriptLens.Token.Scan

namespace ScriptLens

structure Lexer where
  cursor : Cursor

namespace Lexer

def ofSource (source : String) : Lexer := ⟨.ofSource source⟩

structure Step where
  token : Token
  fault? : Option LexFault
  next : Lexer

def Step.diagnostic? (s : Step) : Option Diagnostic := s.fault?.map (·.diagnostic s.token.span)

def step? (l : Lexer) : Option Step :=
  match l.cursor.rest with
  | [] => none
  | c :: cs =>
    let found := scan c cs
    let after := l.cursor.advanceMany found.lexeme.length
    some ⟨⟨found.kind, String.ofList found.lexeme, l.cursor.spanTo after⟩, found.fault?, ⟨after⟩⟩

theorem step?_eq_none_iff {l : Lexer} : l.step? = none ↔ l.cursor.rest = [] := by
  unfold step?
  split <;> simp_all

theorem rest_of_step? {l : Lexer} {s : Step} (h : l.step? = some s) :
    ∃ c cs, l.cursor.rest = c :: cs ∧ s.next.cursor.rest = (scan c cs).rest := by
  unfold step? at h
  split at h
  · simp at h
  · rename_i c cs ahead
    refine ⟨c, cs, ahead, ?_⟩
    obtain rfl := Option.some.inj h
    have split := lexeme_append_rest_scan c cs
    simp only
    rw [Cursor.advanceMany_length (ahead.trans split.symm)]

theorem length_of_step? {l : Lexer} {s : Step} (h : l.step? = some s) :
    s.next.cursor.rest.length < l.cursor.rest.length := by
  obtain ⟨c, cs, before, after⟩ := rest_of_step? h
  have := length_rest_scan c cs
  rw [before, after, List.length_cons]
  omega

def steps (l : Lexer) : List Step :=
  match _h : l.step? with
  | none => []
  | some s => s :: s.next.steps
termination_by l.cursor.rest.length
decreasing_by exact length_of_step? _h

end Lexer

def tokenize (source : String) : List Token := (Lexer.ofSource source).steps.map (·.token)

def diagnose (source : String) : List Diagnostic :=
  (Lexer.ofSource source).steps.filterMap (·.diagnostic?)

end ScriptLens
