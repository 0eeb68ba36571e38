import ScriptLens.Toml.Value

namespace ScriptLens.Toml

structure Document where
  entries : Entries := []
  path : List String := []

def lineEnd? (cs : List Char) : Option (List Char) :=
  match skipComment (skipGaps cs) with
  | [] => some []
  | cs => newline? cs

namespace Document

def header? (d : Document) (cs : List Char) : Option (Document × List Char) :=
  match cs with
  | '[' :: cs => do
    let (path, name, rest) ← key? cs
    match rest with
    | ']' :: ']' :: rest => do
      let entries ← d.entries.openItem path name
      return (⟨entries, path ++ [name]⟩, ← lineEnd? rest)
    | _ => none
  | cs => do
    let (path, name, rest) ← key? cs
    match rest with
    | ']' :: rest => do
      let entries ← d.entries.openTable path name
      return (⟨entries, path ++ [name]⟩, ← lineEnd? rest)
    | _ => none

def assignment? (d : Document) (cs : List Char) : Option (Document × List Char) := do
  let (path, name, rest) ← key? cs
  match rest with
  | '=' :: rest => do
    let (value, rest) ← nodeOf? (skipGaps rest)
    let rest ← lineEnd? rest
    let (_, entries) ←
      Entries.descend .implied (fun origin es => es.assign origin path name value) d.path .header
        d.entries
    return (⟨entries, d.path⟩, rest)
  | _ => none

def statements? : (steps : Nat) → Document → List Char → Option Document
  | 0, _, _ => none
  | steps + 1, d, cs =>
    match skipGaps cs with
    | [] => some d
    | '[' :: cs => do
      let (d, rest) ← d.header? cs
      statements? steps d rest
    | '\n' :: cs => statements? steps d cs
    | '\r' :: cs => do
      let rest ← newline? ('\r' :: cs)
      statements? steps d rest
    | '#' :: cs => do
      let rest ← lineEnd? ('#' :: cs)
      statements? steps d rest
    | cs => do
      let (d, rest) ← d.assignment? cs
      statements? steps d rest

end Document

def parse? (text : String) : Option Entries :=
  let cs := match text.toList with
    | '\uFEFF' :: cs => cs
    | cs => cs
  (Document.statements? (cs.length + 1) {} cs).map Document.entries

end ScriptLens.Toml
