namespace ScriptLens

inductive TokenKind
  | keyword
  | identifier
  | string
  | number
  | comment
  | operator
  | punctuation
  | whitespace
  | error
  deriving DecidableEq, Inhabited

namespace TokenKind

def all : List TokenKind :=
  [keyword, identifier, string, number, comment, operator, punctuation, whitespace, error]

def name : TokenKind → String
  | keyword => "keyword"
  | identifier => "identifier"
  | string => "string"
  | number => "number"
  | comment => "comment"
  | operator => "operator"
  | punctuation => "punctuation"
  | whitespace => "whitespace"
  | error => "error"

def ofName? (s : String) : Option TokenKind := all.find? fun k => k.name == s

def rank : TokenKind → Nat
  | keyword => 0
  | identifier => 1
  | string => 2
  | number => 3
  | comment => 4
  | operator => 5
  | punctuation => 6
  | whitespace => 7
  | error => 8

def sort (ks : List TokenKind) : List TokenKind := ks.mergeSort fun a b => decide (a.rank ≤ b.rank)

def isTrivia : TokenKind → Bool
  | comment => true
  | whitespace => true
  | _ => false

def isError : TokenKind → Bool
  | error => true
  | _ => false

theorem ofName?_name (k : TokenKind) : ofName? k.name = some k := by
  cases k <;> decide

theorem name_injective {a b : TokenKind} (same : a.name = b.name) : a = b := by
  have := congrArg ofName? same
  simpa [ofName?_name] using this

end TokenKind

end ScriptLens
