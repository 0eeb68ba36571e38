import ScriptLens.Host.Basic
import ScriptLens.Host.Path

namespace ScriptLens

inductive FileTree
  | file (content : List UInt8)
  | directory (entries : List (String × FileTree))

namespace FileTree

def empty : FileTree := directory []

def child? : FileTree → String → Option FileTree
  | file _, _ => none
  | directory entries, name => entries.lookup name

def setChild (t : FileTree) (name : String) (child : FileTree) : FileTree :=
  match t with
  | file _ => directory [(name, child)]
  | directory entries => directory ((name, child) :: entries.filter fun e => e.1 ≠ name)

def put (t : FileTree) (way : List String) (leaf : FileTree) : FileTree :=
  match way with
  | [] =>
    match leaf, t with
    | directory [], directory entries => directory entries
    | _, _ => leaf
  | name :: way => t.setChild name (((t.child? name).getD empty).put way leaf)

def below? (t : FileTree) : List String → Option FileTree
  | [] => some t
  | name :: way => (t.child? name).bind (·.below? way)

/-- The way down from the root along the parts of a path from the place `place`, as far as their
spelling tells. -/
def wayTo (place : List String) : List String → List String
  | [] => place
  | part :: parts =>
    if staysHere part then wayTo place parts
    else if part = ".." then wayTo place.dropLast parts
    else wayTo (place ++ [part]) parts

def add (root : FileTree) (working : List String) (path : String) (leaf : FileTree) : FileTree :=
  root.put (wayTo working (pathParts path)) leaf

def walk (root : FileTree) (place : List String) : List String → Except AccessError FileEntry
  | [] =>
    match root.below? place with
    | none => .error .notFound
    | some (file content) => .ok (.file content)
    | some (directory _) => .ok .directory
  | part :: parts =>
    match root.below? place with
    | none => .error .notFound
    | some (file _) => .error .notDirectory
    | some (directory _) =>
      if staysHere part then root.walk place parts
      else if part = ".." then root.walk place.dropLast parts
      else if 255 < part.utf8ByteSize then .error .nameTooLong
      else root.walk (place ++ [part]) parts

def lookup (root : FileTree) (working : List String) (path : String) :
    Except AccessError FileEntry :=
  if path.toList.contains '\x00' then .error .nulInName
  else if path = "" then .error .notFound
  else if 4096 ≤ path.utf8ByteSize then .error .nameTooLong
  else root.walk (if path.toList.head? = some '/' then [] else working) (pathParts path)

end FileTree

end ScriptLens
