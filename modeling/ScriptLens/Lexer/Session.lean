import ScriptLens.Lexer.Basic

namespace ScriptLens

structure Session where
  lexer : Lexer
  handler : Handler
  records : Bool

namespace Session

def ofSource (source : String) (handler : Handler) (records : Bool) : Session :=
  ⟨.ofSource source, handler, records⟩

def pass (s : Session) (step : Lexer.Step) : Session :=
  { s with
    lexer := step.next
    handler := if s.records then s.handler.emit? step.diagnostic? else s.handler }

def next (s : Session) : Option Token × Session :=
  match s.lexer.step? with
  | none => (none, s)
  | some step => (some step.token, s.pass step)

def find (wanted : Token → Bool) (s : Session) : Option Token × Session :=
  match _h : s.lexer.step? with
  | none => (none, s)
  | some step =>
    if wanted step.token then (some step.token, s.pass step) else find wanted (s.pass step)
termination_by s.lexer.cursor.rest.length
decreasing_by exact Lexer.length_of_step? _h

def skipTrivia : Session → Option Token × Session := find fun t => !t.isTrivia

def nextError : Session → Option Token × Session := find Token.isError

def nth : Nat → Session → Option Token × Session
  | 0, s => s.next
  | n + 1, s =>
    match s.next with
    | (none, s) => (none, s)
    | (some _, s) => nth n s

def count (s : Session) : Nat × Session :=
  match _h : s.lexer.step? with
  | none => (0, s)
  | some step =>
    let (n, s) := count (s.pass step)
    (n + 1, s)
termination_by s.lexer.cursor.rest.length
decreasing_by exact Lexer.length_of_step? _h

def take (s : Session) : List Diagnostic × Session :=
  let (taken, handler) := s.handler.take
  (taken, { s with handler })

end Session

/-- Lexes a source to its end and records its diagnostics; the number is that of its tokens. -/
def Handler.lex (h : Handler) (source : String) : Nat × Handler :=
  let (n, session) := (Session.ofSource source h true).count
  (n, session.handler)

end ScriptLens
