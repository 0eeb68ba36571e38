namespace ScriptLens

inductive AccessError
  | notFound
  | permissionDenied
  | notDirectory
  | isDirectory
  | nameTooLong
  | nulInName
  | other (text : String)
  deriving DecidableEq

def AccessError.message : AccessError → String
  | notFound => "No such file or directory (os error 2)"
  | permissionDenied => "Permission denied (os error 13)"
  | notDirectory => "Not a directory (os error 20)"
  | isDirectory => "Is a directory (os error 21)"
  | nameTooLong => "File name too long (os error 36)"
  | nulInName => "file name contained an unexpected NUL byte"
  | other text => text

inductive FileEntry
  | file (content : List UInt8)
  | unreadable (reason : AccessError)
  | directory

/-- The order in which a number of workers take the places of so many inputs.  Nobody but the system
decides on it. -/
structure Schedule where
  order (workers count : Nat) : List Nat
  perm (workers count : Nat) : (order workers count).Perm (List.range count)

def Schedule.inOrder : Schedule where
  order _ count := List.range count
  perm _ _ := .refl _

structure Host where
  lookup : String → Except AccessError FileEntry
  environment : String → Option String := fun _ => none
  stdin : Except AccessError (List UInt8) := .ok []
  processors : Nat := 1
  schedule : Schedule := .inOrder

namespace Host

def hasPath (host : Host) (path : String) : Bool := (host.lookup path).toOption.isSome

def readFile (host : Host) (path : String) : Except AccessError (List UInt8) :=
  match host.lookup path with
  | .ok (.file content) => .ok content
  | .ok (.unreadable reason) => .error reason
  | .ok .directory => .error .isDirectory
  | .error e => .error e

end Host

end ScriptLens
