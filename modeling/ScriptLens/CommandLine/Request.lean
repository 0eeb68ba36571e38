import ScriptLens.CommandLine.Level

namespace ScriptLens.CommandLine

structure Options where
  verbose : Bool
  noColor : Bool
  config : Option String
  deriving DecidableEq

inductive Command
  | highlight (input : String) (lineNumbers : Bool)
  | tokens (input : String) (format : Option String) (skipTrivia : Bool)
  | check (inputs : List String) (jobs : Option Nat)
  deriving DecidableEq

def Command.inputs : Command → List String
  | highlight input _ => [input]
  | tokens input _ _ => [input]
  | check inputs _ => inputs

inductive Request
  | version (verb : Option Verb)
  | invocation (options : Options) (command : Command)
  deriving DecidableEq

def switch? : String → Option Bool
  | "true" => some true
  | "false" => some false
  | _ => none

def variableAdmits (o : Opt) (text : String) : Bool :=
  if o.takesValue then o.admits text else (switch? text).isSome

/-- The environment gives no option by a text that is none, unless the level has the option from
the command line. -/
def Given.agrees (environment : String → Option String) (g : Given) : Bool :=
  Level.main.options.all fun o =>
    match o.environmentName?.bind environment with
    | none => true
    | some text => g.has o || variableAdmits o text

def switchOf (environment : String → Option String) (o : Opt) (main inner : Given) : Bool :=
  if main.has o || inner.has o then true
  else ((o.environmentName?.bind environment).bind switch?).getD false

def valueOf (environment : String → Option String) (o : Opt) (main inner : Given) :
    Option String :=
  inner.values.lookup o <|> main.values.lookup o <|> o.environmentName?.bind environment

def optionsOf (environment : String → Option String) (main inner : Given) : Options where
  verbose := switchOf environment .verbose main inner
  noColor := switchOf environment .noColor main inner
  config := valueOf environment .config main inner

def Given.command? (g : Given) : Verb → Option Command
  | .highlight => g.inputs.head?.map fun input => .highlight input (g.has .lineNumbers)
  | .tokens =>
    g.inputs.head?.map fun input => .tokens input (g.values.lookup .format) (g.has .skipTrivia)
  | .check =>
    if g.inputs.isEmpty then none
    else some (.check g.inputs ((g.values.lookup .jobs).bind jobs?))

def Request.read (environment : String → Option String) (words : List String) : Option Request := do
  let (main, rest) ← Given.read .main {} words
  if main.has .version then return .version none
  match rest with
  | [] => none
  | name :: words =>
    let verb ← Verb.ofName? name
    let (inner, _) ← Given.read (.command verb) {} words
    if inner.has .version then return .version verb
    if main.agrees environment && inner.agrees environment then
      return .invocation (optionsOf environment main inner) (← inner.command? verb)
    else none

end ScriptLens.CommandLine
