namespace ScriptLens.Json

inductive Scalar
  | text (s : String)
  | number (n : Nat)
  deriving DecidableEq

def escaped (c : Char) : List Char :=
  if c = '"' then ['\\', '"']
  else if c = '\\' then ['\\', '\\']
  else if c = '\x08' then ['\\', 'b']
  else if c = '\t' then ['\\', 't']
  else if c = '\n' then ['\\', 'n']
  else if c = '\x0C' then ['\\', 'f']
  else if c = '\r' then ['\\', 'r']
  else if c.toNat < 0x20 then
    ['\\', 'u', '0', '0', Nat.digitChar (c.toNat / 16), Nat.digitChar (c.toNat % 16)]
  else [c]

def quoted (s : String) : String := String.ofList ('"' :: s.toList.flatMap escaped ++ ['"'])

def Scalar.render : Scalar → String
  | text s => quoted s
  | number n => toString n

abbrev Record := List (String × Scalar)

def field (f : String × Scalar) : String := "    " ++ quoted f.1 ++ ": " ++ f.2.render

def record (r : Record) : String :=
  "  \x7b\n" ++ String.intercalate ",\n" (r.map field) ++ "\n  \x7d"

def records : List Record → String
  | [] => "[]"
  | rs => "[\n" ++ String.intercalate ",\n" (rs.map record) ++ "\n]"

end ScriptLens.Json
