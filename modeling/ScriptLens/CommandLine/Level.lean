import ScriptLens.CommandLine.Option

namespace ScriptLens.CommandLine

inductive Level
  | main
  | command (verb : Verb)

def sharedOptions : List Opt := [.verbose, .config, .noColor, .version]

namespace Level

def options : Level → List Opt
  | main => sharedOptions
  | command .highlight => sharedOptions ++ [.lineNumbers]
  | command .tokens => sharedOptions ++ [.format, .skipTrivia]
  | command .check => sharedOptions ++ [.jobs]

def admitsInput : Level → Nat → Bool
  | main, _ => false
  | command .check, _ => true
  | command _, count => count = 0

end Level

/-- What the words of a level have said so far.  `waiting` is the option whose value is the next
word. -/
structure Given where
  flags : List Opt := []
  values : List (Opt × String) := []
  inputs : List String := []
  waiting : Option Opt := none

namespace Given

def has (g : Given) (o : Opt) : Bool := g.flags.contains o || (g.values.lookup o).isSome

def flag? (g : Given) (o : Opt) : Option Given :=
  if g.has o then none else some { g with flags := g.flags ++ [o] }

def value? (g : Given) (o : Opt) (text : String) : Option Given :=
  if g.has o || !o.admits text then none
  else some { g with values := g.values ++ [(o, text)], waiting := none }

def input? (level : Level) (g : Given) (path : String) : Option Given :=
  if level.admitsInput g.inputs.length && path ≠ "" then
    some { g with inputs := g.inputs ++ [path] }
  else none

/-- Letters after a dash.  After the letter of an option with a value all the rest is the value,
with or without an equals sign.  Nothing counts after the letter for the version. -/
def letters? (level : Level) (g : Given) : List Char → Option Given
  | [] => some g
  | c :: cs => do
    let o ← level.options.find? (·.letter? = some c)
    if o.takesValue then
      match cs with
      | [] => if g.has o then none else some { g with waiting := some o }
      | '=' :: cs => g.value? o (String.ofList cs)
      | cs => g.value? o (String.ofList cs)
    else do
      let g ← g.flag? o
      if o = .version then some g else g.letters? level cs

def name? (level : Level) (g : Given) (cs : List Char) : Option Given := do
  let name := String.ofList (cs.takeWhile (· ≠ '='))
  let o ← level.options.find? (·.name = name)
  match cs.dropWhile (· ≠ '='), o.takesValue with
  | [], true => if g.has o then none else some { g with waiting := some o }
  | [], false => g.flag? o
  | _ :: value, true => g.value? o (String.ofList value)
  | _ :: _, false => none

def looksLikeOption : List Char → Bool
  | '-' :: _ :: _ => true
  | _ => false

def read (level : Level) : Given → List String → Option (Given × List String)
  | g, [] => if g.waiting.isSome then none else some (g, [])
  | g, word :: words =>
    match g.waiting with
    | some o =>
      if looksLikeOption word.toList then none
      else do read level (← g.value? o word) words
    | none =>
      match word.toList with
      | ['-', '-'] => (words.foldlM (input? level) g).bind fun g =>
        match level with
        | .main => none
        | .command _ => some (g, [])
      | '-' :: '-' :: cs => do
        let g ← g.name? level cs
        if g.has .version then some (g, []) else read level g words
      | '-' :: c :: cs => do
        let g ← g.letters? level (c :: cs)
        if g.has .version then some (g, []) else read level g words
      | _ =>
        match level with
        | .main => some (g, word :: words)
        | .command _ => do read level (← g.input? level word) words

end Given

end ScriptLens.CommandLine
