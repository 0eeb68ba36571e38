import ScriptLens.Toml.Node
import ScriptLens.Toml.Quotation

namespace ScriptLens.Toml

/-- Arrays and tables in braces nest less deep than this, and keys have fewer parts. -/
def depthLimit : Nat := 80

def skipGaps (cs : List Char) : List Char := cs.dropWhile isGap

def skipComment : List Char → List Char
  | '#' :: cs => cs.dropWhile isPlain
  | cs => cs

def isBareKey (c : Char) : Bool := c.isAlphanum || c = '_' || c = '-'

def simpleKey? : List Char → Option (String × List Char)
  | '"' :: cs => (basic? cs).map fun (s, rest) => (String.ofList s, rest)
  | '\'' :: cs => (literal? cs).map fun (s, rest) => (String.ofList s, rest)
  | cs =>
    let word := cs.takeWhile isBareKey
    if word.isEmpty then none else some (String.ofList word, cs.dropWhile isBareKey)

def dottedKey? : (parts : Nat) → List Char → Option (List String × List Char)
  | 0, _ => none
  | parts + 1, cs => do
    let (key, rest) ← simpleKey? (skipGaps cs)
    match skipGaps rest with
    | '.' :: rest => do
      let (path, rest) ← dottedKey? parts rest
      return (key :: path, rest)
    | rest => return ([key], rest)

def key? (cs : List Char) : Option (List String × String × List Char) := do
  let (path, rest) ← dottedKey? (depthLimit - 1) cs
  let name ← path.getLast?
  return (path.dropLast, name, rest)

def isWord (c : Char) : Bool :=
  c.isAlphanum || c = '+' || c = '-' || c = '_' || c = '.' || c = ':'

def word? (cs : List Char) : Option (Node × List Char) :=
  let word := cs.takeWhile isWord
  let rest := cs.dropWhile isWord
  if word = ['t', 'r', 'u', 'e'] then some (.boolean true, rest)
  else if word = ['f', 'a', 'l', 's', 'e'] then some (.boolean false, rest)
  else if isDate word then
    match rest with
    | ' ' :: after =>
      if (after.head?.map Char.isDigit).getD false then
        if isZonedTime (after.takeWhile isWord) then some (.datetime, after.dropWhile isWord)
        else none
      else some (.datetime, rest)
    | _ => some (.datetime, rest)
  else if isDateTime word || isTime word then some (.datetime, rest)
  else if isFloat word then some (.float, rest)
  else (integer? word).map fun n => (.integer n, rest)

def skipFiller (cs : List Char) : List Char :=
  match _h : skipLines cs with
  | '#' :: rest => skipFiller (rest.dropWhile isPlain)
  | rest => rest
termination_by cs.length
decreasing_by
  have shorter := length_skipLines cs
  have := (List.dropWhile_sublist (p := isPlain) (l := rest)).length_le
  simp only [_h, List.length_cons] at shorter
  omega

mutual

def value? : (steps depth : Nat) → List Char → Option (Node × List Char)
  | 0, _, _ => none
  | steps + 1, depth, cs =>
    match cs with
    | '"' :: _ | '\'' :: _ => (string? cs).map fun (s, rest) => (.string s, rest)
    | '[' :: cs =>
      match depth with
      | 0 => none
      | depth + 1 => (items? steps depth cs).map fun (items, rest) => (.array items, rest)
    | '\x7b' :: cs =>
      match depth with
      | 0 => none
      | depth + 1 =>
        match skipGaps cs with
        | '\x7d' :: rest => some (.table .inline [], rest)
        | cs => (fields? steps depth [] cs).map fun (es, rest) => (.table .inline es, rest)
    | cs => word? cs

def items? : (steps depth : Nat) → List Char → Option (List Node × List Char)
  | 0, _, _ => none
  | steps + 1, depth, cs =>
    match skipFiller cs with
    | ']' :: rest => some ([], rest)
    | cs => do
      let (item, rest) ← value? steps depth cs
      match skipFiller rest with
      | ',' :: rest => do
        let (items, rest) ← items? steps depth rest
        return (item :: items, rest)
      | ']' :: rest => return ([item], rest)
      | _ => none

def fields? : (steps depth : Nat) → Entries → List Char → Option (Entries × List Char)
  | 0, _, _, _ => none
  | steps + 1, depth, es, cs => do
    let (path, name, rest) ← key? cs
    match rest with
    | '=' :: rest => do
      let (value, rest) ← value? steps depth (skipGaps rest)
      let (_, es) ← es.assign .inline path name value
      match skipGaps rest with
      | ',' :: rest => fields? steps depth es rest
      | '\x7d' :: rest => return (es, rest)
      | _ => none
    | _ => none

end

/-- A value and the text after it.  Every step of reading takes a character, or goes from a bracket
to what stands in it. -/
def nodeOf? (cs : List Char) : Option (Node × List Char) :=
  value? (2 * cs.length + 2) (depthLimit - 1) cs

end ScriptLens.Toml
