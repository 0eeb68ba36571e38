import ScriptLens.Log.Event
import ScriptLens.Text.Pieces
import ScriptLens.Unicode.Identifier

/-! # Log filters

A filter says which events of a run are told.  It is a list of rules between commas.  A rule is how
much to tell, such as `debug`, or it is a scope, which is then told in full, or both with an equals
sign between them.  A scope is the beginning of the name of a part of the log, or the name of a
value in brackets and braces, or both.  Of the rules that cover an event the most specific decides,
and of equally specific ones the last. -/

namespace ScriptLens

abbrev Verbosity := Nat

namespace Verbosity

def full : Verbosity := LogLevel.trace.rank

def ofName? (name : List Char) : Option Verbosity :=
  match Text.count? name with
  | some n => if n ≤ full then some n else none
  | none =>
    let lower := String.ofList (name.map Char.toLower)
    ["off", "error", "warn", "info", "debug", "trace"].findIdx? (· = lower)

end Verbosity

structure LogScope where
  part : String := ""
  value? : Option String := none
  /-- The rule is only about events within a stretch of time, of which a run has none. -/
  stretch : Bool := false
  deriving DecidableEq

namespace LogScope

def covers (s : LogScope) (e : Event) : Bool :=
  !s.stretch && s.part.toList.isPrefixOf e.part.toList && s.value?.all e.hasValue

def yieldsTo (s t : LogScope) : Bool :=
  if s.part.utf8ByteSize = t.part.utf8ByteSize then
    match s.value?, t.value? with
    | none, _ => true
    | some _, none => false
    | some a, some b => !(b < a)
  else s.part.utf8ByteSize < t.part.utf8ByteSize

end LogScope

structure LogRule where
  scope : LogScope
  verbosity : Verbosity
  deriving DecidableEq

namespace LogRule

def mayBegin (c : Char) : Bool :=
  c.isAlphanum || c = '-' || c = ':' || c = '_' || c = '[' || Unicode.isXidStart c

/-- Reads the rest of a scope after the opening bracket: the name of a stretch of time, that of a
value in braces, or both.  Gives the scope in the named part and the text after the closing
bracket.  A value that is compared to something makes sense only for a stretch. -/
def readBrackets? (part : String) (cs : List Char) : Option (LogScope × List Char) :=
  let name := cs.takeWhile fun c => c ≠ ']' && c ≠ '\x7b'
  match cs.drop name.length with
  | ']' :: cs => some ({ part, stretch := true }, cs)
  | '\x7b' :: cs =>
    let value := cs.takeWhile (· ≠ '\x7d')
    match cs.drop value.length with
    | '\x7d' :: ']' :: cs =>
      if value.isEmpty then none
      else
        let stretch := !name.isEmpty || value.contains '='
        some ({ part, value? := some (String.ofList value), stretch }, cs)
    | _ => none
  | _ => none

def readVerbosity? : List Char → Option Verbosity
  | ['='] => some .full
  | '=' :: cs => Verbosity.ofName? cs
  | cs => if cs.all Char.isWhitespace then some .full else none

/-- Reads a rule.  Blanks before a rule are taken for a part of it, and then no equals sign may
follow the scope. -/
def read? (cs : List Char) : Option LogRule :=
  if !(cs.dropWhile Char.isWhitespace).head?.any mayBegin then none
  else
    let name := cs.takeWhile fun c => c ≠ '=' && c ≠ '['
    let part := String.ofList name
    let after (scope : LogScope) (cs : List Char) : Option LogRule :=
      if name.head?.any Char.isWhitespace && cs.contains '=' then none
      else (readVerbosity? cs).map (⟨scope, ·⟩)
    match cs.drop name.length with
    | [] => some ((Verbosity.ofName? name).elim ⟨{ part }, .full⟩ (⟨{}, ·⟩))
    | '[' :: cs => (readBrackets? part cs).bind fun (scope, cs) => after scope cs
    | cs => after { part } cs

end LogRule

abbrev LogFilter := List LogRule

namespace LogFilter

def upTo (v : Verbosity) : LogFilter := [⟨{}, v⟩]

def read? (text : String) : Option LogFilter :=
  match ((Text.pieces ',' text.toList).filter (!·.isEmpty)).mapM LogRule.read? with
  | some [] => some (upTo LogLevel.error.rank)
  | rules => rules

def choose (text : Option String) (verbose : Bool) : LogFilter :=
  (text.bind read?).getD (upTo (if verbose then LogLevel.debug.rank else LogLevel.info.rank))

def ruleFor? (f : LogFilter) (e : Event) : Option LogRule :=
  f.foldl
    (fun best r =>
      if r.scope.covers e && best.all (·.scope.yieldsTo r.scope) then some r else best)
    none

def admits (f : LogFilter) (e : Event) : Bool :=
  (f.ruleFor? e).any fun r => e.level.rank ≤ r.verbosity

end LogFilter

end ScriptLens
