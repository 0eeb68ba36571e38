import ScriptLens.Text.Pieces

namespace ScriptLens

def pathParts (path : String) : List String := (Text.pieces '/' path.toList).map String.ofList

def staysHere (part : String) : Bool := part = "" || part = "."

/-- The path that stands for standard input, where a slash and dots may follow. -/
def isStandardInput (path : String) : Bool :=
  match pathParts path with
  | "-" :: parts => parts.all staysHere
  | _ => false

def joinPath (base path : String) : String :=
  if path.toList.head? = some '/' then path
  else if base.toList.getLast?.all (· = '/') then base ++ path
  else base ++ "/" ++ path

end ScriptLens
