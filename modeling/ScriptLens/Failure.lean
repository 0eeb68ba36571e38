namespace ScriptLens

inductive Failure
  | configuration (reason : String)
  | logging (reason : String)
  | fileOperation (reason : String)
  | validation (reason : String)
  | lexicalErrors (errors files : Nat)
  | io (reason : String)
  | json (reason : String)
  deriving DecidableEq

def Failure.message : Failure → String
  | configuration reason => "Configuration error: " ++ reason
  | logging reason => "Failed to initialize logging: " ++ reason
  | fileOperation reason => "File operation failed: " ++ reason
  | validation reason => "Validation error: " ++ reason
  | lexicalErrors errors files => s!"found {errors} lexical error(s) in {files} file(s)"
  | io reason => "IO error: " ++ reason
  | json reason => "JSON error: " ++ reason

end ScriptLens
