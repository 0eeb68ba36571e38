import ScriptLens.Settings.Basic
import ScriptLens.Toml.Document

namespace ScriptLens

inductive SettingsSection
  | named (entries : Toml.Entries)
  | listed (items : List Toml.Node)

namespace SettingsSection

/-- A section as it stands in a document.  A date is taken for a section without settings. -/
def ofNode? : Toml.Node → Option SettingsSection
  | .table _ entries => some (named entries)
  | .array items => some (listed items)
  | .datetime => some (named [])
  | .tables items => some (listed (items.map fun entries => .table .header entries))
  | _ => none

def ofEntries? (es : Toml.Entries) (name : String) : Option SettingsSection :=
  match es.get? name with
  | none => some (named [])
  | some node => ofNode? node

def find? (s : SettingsSection) (name : String) (place : Nat) : Option Toml.Node :=
  match s with
  | named entries => entries.get? name
  | listed items => items[place]?

def setting? (s : SettingsSection) (name : String) (place : Nat) (default : α)
    (read? : Toml.Node → Option α) : Option α :=
  match s.find? name place with
  | none => some default
  | some node => read? node

end SettingsSection

namespace Toml.Node

def boolean? : Node → Option Bool
  | boolean b => some b
  | _ => none

def text? : Node → Option String
  | string s => some s
  | _ => none

def count? : Node → Option Nat
  | integer (.ofNat n) => some n
  | _ => none

end Toml.Node

namespace Settings

def ofEntries? (es : Toml.Entries) : Option Settings := do
  let highlight ← SettingsSection.ofEntries? es "highlight"
  let tokens ← SettingsSection.ofEntries? es "tokens"
  let check ← SettingsSection.ofEntries? es "check"
  return {
    highlight := {
      color := ← highlight.setting? "color" 0 true Toml.Node.boolean?
      lineNumbers := ← highlight.setting? "line_numbers" 1 false Toml.Node.boolean? }
    tokens := {
      format := ← tokens.setting? "format" 0 "text" Toml.Node.text?
      skipTrivia := ← tokens.setting? "skip_trivia" 1 false Toml.Node.boolean? }
    check := {
      jobs := ← check.setting? "jobs" 0 none fun node => node.count?.map some } }

def ofToml (text : String) : Except Failure Settings :=
  match Toml.parse? text with
  | none => .error (.configuration "Failed to parse configuration: this is not a TOML document")
  | some entries =>
    match ofEntries? entries with
    | none =>
      .error (.configuration "Failed to parse configuration: a setting has the wrong kind of value")
    | some settings => .ok settings

end Settings

end ScriptLens
