namespace ScriptLens.Toml

/-- How a table came about: by a header of its own, by a header of a table below it, by a dotted
key, or written out in braces. -/
inductive Origin
  | header
  | implied
  | dotted
  | inline
  deriving DecidableEq

inductive Node
  | string (s : String)
  | integer (n : Int)
  | float
  | boolean (b : Bool)
  | datetime
  | array (items : List Node)
  | table (origin : Origin) (entries : List (String × Node))
  | tables (items : List (List (String × Node)))

abbrev Entries := List (String × Node)

namespace Entries

def get? (es : Entries) (key : String) : Option Node := es.lookup key

def set : Entries → String → Node → Entries
  | [], key, node => [(key, node)]
  | (k, n) :: es, key, node => if k = key then (k, node) :: es else (k, n) :: set es key node

/-- Changes the table at the end of a path.  Tables that are missing on the way come about as
`created`.  The way leads through the last of a list of tables, but not through a value or a table
in braces, and for dotted keys not through a table with a header. -/
def descend (created : Origin) (change : Origin → Entries → Option (Origin × Entries)) :
    List String → Origin → Entries → Option (Origin × Entries)
  | [], origin, es => change origin es
  | key :: path, origin, es =>
    match es.get? key with
    | none => do
      let (o, below) ← descend created change path created []
      return (origin, es.set key (.table o below))
    | some (.table o below) =>
      if o = .inline || (created = .dotted && o = .header) then none
      else do
        let (o, below) ← descend created change path o below
        return (origin, es.set key (.table o below))
    | some (.tables items) =>
      match items.getLast? with
      | none => none
      | some last => do
        let (_, last) ← descend created change path .header last
        return (origin, es.set key (.tables (items.dropLast ++ [last])))
    | some _ => none

def openTable (es : Entries) (path : List String) (key : String) : Option Entries := do
  let (_, es) ← descend .implied (fun origin es =>
    match es.get? key with
    | none => some (origin, es.set key (.table .header []))
    | some (.table .implied below) => some (origin, es.set key (.table .header below))
    | some _ => none) path .header es
  return es

def openItem (es : Entries) (path : List String) (key : String) : Option Entries := do
  let (_, es) ← descend .implied (fun origin es =>
    match es.get? key with
    | none => some (origin, es.set key (.tables [[]]))
    | some (.tables items) => some (origin, es.set key (.tables (items ++ [[]])))
    | some _ => none) path .header es
  return es

/-- Adds a value under a dotted key.  Only a table that dotted keys made takes values by a key of
more than one part, and no key is given twice. -/
def assign (origin : Origin) (es : Entries) (path : List String) (key : String) (value : Node) :
    Option (Origin × Entries) :=
  descend .dotted (fun origin es =>
    if !path.isEmpty && origin ≠ .dotted then none
    else
      match es.get? key with
      | none => some (origin, es.set key value)
      | some _ => none) path origin es

end Entries

end ScriptLens.Toml
