import ScriptLens.Text.Pieces

namespace ScriptLens.CommandLine

inductive Verb
  | highlight
  | tokens
  | check
  deriving DecidableEq

namespace Verb

def name : Verb → String
  | highlight => "highlight"
  | tokens => "tokens"
  | check => "check"

def ofName? (s : String) : Option Verb := [highlight, tokens, check].find? (·.name = s)

end Verb

inductive Opt
  | verbose
  | config
  | noColor
  | version
  | lineNumbers
  | format
  | skipTrivia
  | jobs
  deriving DecidableEq

namespace Opt

def name : Opt → String
  | verbose => "verbose"
  | config => "config"
  | noColor => "no-color"
  | version => "version"
  | lineNumbers => "line-numbers"
  | format => "format"
  | skipTrivia => "skip-trivia"
  | jobs => "jobs"

def letter? : Opt → Option Char
  | verbose => some 'v'
  | config => some 'c'
  | noColor => none
  | version => some 'V'
  | lineNumbers => some 'n'
  | format => some 'F'
  | skipTrivia => none
  | jobs => some 'j'

def takesValue : Opt → Bool
  | config | format | jobs => true
  | _ => false

def environmentName? : Opt → Option String
  | verbose => some "JSHL_VERBOSE"
  | config => some "JSHL_CONFIG"
  | noColor => some "JSHL_NO_COLOR"
  | _ => none

end Opt

def jobs? (s : String) : Option Nat :=
  (Text.count? s.toList).filter fun n => 1 ≤ n && n ≤ 65535

def Opt.admits : Opt → String → Bool
  | config, s => s ≠ ""
  | jobs, s => (jobs? s).isSome
  | _, _ => true

end ScriptLens.CommandLine
