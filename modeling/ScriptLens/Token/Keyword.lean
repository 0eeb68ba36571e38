namespace ScriptLens

def keywords : List String :=
  ["var", "let", "const", "function", "class", "extends", "static", "enum",
   "if", "else", "for", "while", "do", "switch", "case", "default", "break", "continue", "return",
   "try", "catch", "finally", "throw",
   "true", "false", "null", "undefined",
   "new", "this", "super", "typeof", "instanceof", "in", "of", "delete", "void",
   "import", "export", "async", "await", "yield",
   "with", "debugger"]

def isKeyword (word : String) : Bool := keywords.contains word

end ScriptLens
