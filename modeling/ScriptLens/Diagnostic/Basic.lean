import ScriptLens.Source.Position
import ScriptLens.Text.Align

namespace ScriptLens

structure Code where
  family : String
  number : UInt32
  deriving DecidableEq

def Code.text (c : Code) : String := c.family ++ Text.zeroPadded 4 c.number.toNat

def Code.debugText (c : Code) : String := "DiagnosticCode(" ++ c.text ++ ")"

structure Diagnostic where
  message : String
  span : Span := .nowhere
  code : Option Code := none
  helps : List String := []
  deriving DecidableEq

def Diagnostic.text (d : Diagnostic) : String :=
  match d.code with
  | some code => "error[" ++ code.text ++ "]: " ++ d.message
  | none => "error: " ++ d.message

/-- The diagnostics recorded since the last time they were taken, oldest first. -/
structure Handler where
  recorded : Array Diagnostic := #[]

namespace Handler

def empty : Handler := {}

def emit (h : Handler) (d : Diagnostic) : Handler := ⟨h.recorded.push d⟩

def emit? (h : Handler) : Option Diagnostic → Handler
  | none => h
  | some d => h.emit d

def diagnostics (h : Handler) : List Diagnostic := h.recorded.toList

def errorCount (h : Handler) : Nat := h.recorded.size

def hasErrors (h : Handler) : Bool := !h.recorded.isEmpty

def take (h : Handler) : List Diagnostic × Handler := (h.diagnostics, empty)

@[simp] theorem diagnostics_empty : empty.diagnostics = [] := rfl

@[simp] theorem diagnostics_emit (h : Handler) (d : Diagnostic) :
    (h.emit d).diagnostics = h.diagnostics ++ [d] := by simp [emit, diagnostics]

@[simp] theorem diagnostics_emit? (h : Handler) (d : Option Diagnostic) :
    (h.emit? d).diagnostics = h.diagnostics ++ d.toList := by
  cases d <;> simp [emit?]

@[simp] theorem errorCount_eq (h : Handler) : h.errorCount = h.diagnostics.length := by
  simp [errorCount, diagnostics]

end Handler

end ScriptLens
