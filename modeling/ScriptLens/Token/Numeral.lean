namespace ScriptLens.Numeral

def radixOf? (c : Char) : Option Nat :=
  if c = 'x' || c = 'X' then some 16
  else if c = 'o' || c = 'O' then some 8
  else if c = 'b' || c = 'B' then some 2
  else none

def isDigitOf (radix : Nat) (c : Char) : Bool :=
  if c.isDigit then decide (c.toNat - '0'.toNat < radix)
  else if 'a' ≤ c ∧ c ≤ 'f' then decide (c.toNat - 'a'.toNat + 10 < radix)
  else if 'A' ≤ c ∧ c ≤ 'F' then decide (c.toNat - 'A'.toNat + 10 < radix)
  else false

def isDigitRun (radix : Nat) : List Char → Bool
  | [] => false
  | [c] => isDigitOf radix c
  | c :: '_' :: cs => isDigitOf radix c && isDigitRun radix cs
  | c :: d :: cs => isDigitOf radix c && isDigitRun radix (d :: cs)

def isBig (cs : List Char) : Bool := cs.getLast? == some 'n'

def isMantissa (cs : List Char) : Bool :=
  match cs.takeWhile (· ≠ '.'), cs.dropWhile (· ≠ '.') with
  | whole, [] => isDigitRun 10 whole
  | [], _ :: fraction => isDigitRun 10 fraction
  | whole, [_] => isDigitRun 10 whole
  | whole, _ :: fraction => isDigitRun 10 whole && isDigitRun 10 fraction

def isExponent : List Char → Bool
  | '+' :: cs => isDigitRun 10 cs
  | '-' :: cs => isDigitRun 10 cs
  | cs => isDigitRun 10 cs

def isDecimal (cs : List Char) : Bool :=
  let mantissa := cs.takeWhile fun c => c ≠ 'e' && c ≠ 'E'
  match cs.dropWhile fun c => c ≠ 'e' && c ≠ 'E' with
  | [] => if isBig mantissa then isDigitRun 10 mantissa.dropLast else isMantissa mantissa
  | _ :: exponent => isMantissa mantissa && isExponent exponent

def isInteger (radix : Nat) (cs : List Char) : Bool :=
  isDigitRun radix (if isBig cs then cs.dropLast else cs)

def isValid (cs : List Char) : Bool :=
  match cs with
  | '0' :: c :: rest =>
    match radixOf? c with
    | some radix => isInteger radix rest
    | none => isDecimal cs
  | _ => isDecimal cs

end ScriptLens.Numeral
