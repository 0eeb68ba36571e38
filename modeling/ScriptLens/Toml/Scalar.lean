namespace ScriptLens.Toml

def moreDigits (isDigit : Char → Bool) : List Char → List Char × List Char
  | '_' :: c :: cs =>
    if isDigit c then
      let (ds, rest) := moreDigits isDigit cs
      (c :: ds, rest)
    else ([], '_' :: c :: cs)
  | c :: cs =>
    if isDigit c then
      let (ds, rest) := moreDigits isDigit cs
      (c :: ds, rest)
    else ([], c :: cs)
  | [] => ([], [])

def digits? (isDigit : Char → Bool) : List Char → Option (List Char × List Char)
  | [] => none
  | c :: cs =>
    if isDigit c then
      let (ds, rest) := moreDigits isDigit cs
      some (c :: ds, rest)
    else none

def digitValue (c : Char) : Nat :=
  if c.isDigit then c.toNat - '0'.toNat
  else if 'a' ≤ c then c.toNat - 'a'.toNat + 10
  else c.toNat - 'A'.toNat + 10

def isHexDigit (c : Char) : Bool := c.isDigit || ('a' ≤ c && c ≤ 'f') || ('A' ≤ c && c ≤ 'F')

def numberOf (radix : Nat) (ds : List Char) : Nat :=
  ds.foldl (fun n c => n * radix + digitValue c) 0

def sign : List Char → Bool × List Char
  | '+' :: cs => (false, cs)
  | '-' :: cs => (true, cs)
  | cs => (false, cs)

def wholeDigits? : List Char → Option (List Char × List Char)
  | '0' :: cs => some (['0'], cs)
  | cs => digits? Char.isDigit cs

def inRange (n : Int) : Option Int :=
  if Int64.minValue.toInt ≤ n ∧ n ≤ Int64.maxValue.toInt then some n else none

def integer? : List Char → Option Int
  | '0' :: 'x' :: cs => radixInteger 16 isHexDigit cs
  | '0' :: 'o' :: cs => radixInteger 8 (fun c => '0' ≤ c && c ≤ '7') cs
  | '0' :: 'b' :: cs => radixInteger 2 (fun c => c = '0' || c = '1') cs
  | cs => do
    let (negative, cs) := sign cs
    let (ds, rest) ← wholeDigits? cs
    guard rest.isEmpty
    let n : Int := numberOf 10 ds
    inRange (if negative then -n else n)
where
  radixInteger (radix : Nat) (isDigit : Char → Bool) (cs : List Char) : Option Int := do
    let (ds, rest) ← digits? isDigit cs
    guard rest.isEmpty
    inRange (numberOf radix ds)

/-- The least number that rounds past the finite floats: half a step past the greatest one. -/
def floatLimit : Nat := 1 <<< 1024 - 1 <<< 970

def overflows (m width : Nat) (scale : Int) : Bool :=
  if m = 0 then false
  else
    match scale with
    | .ofNat up => decide (400 < up) || decide (floatLimit ≤ m * Nat.pow 10 up)
    | .negSucc down => decide (down + 1 < width) && decide (floatLimit * Nat.pow 10 (down + 1) ≤ m)

def fraction? : List Char → Option (List Char × List Char)
  | '.' :: cs => digits? Char.isDigit cs
  | cs => some ([], cs)

def exponent? : List Char → Option (Int × List Char)
  | c :: cs =>
    if c = 'e' || c = 'E' then do
      let (negative, cs) := sign cs
      let (ds, rest) ← digits? Char.isDigit cs
      let n : Int := numberOf 10 ds
      return (if negative then -n else n, rest)
    else some (0, c :: cs)
  | [] => some (0, [])

/-- A number with a fraction or an exponent that a float can hold, an infinity, or a not-a-number.
A negative number too large for a float is still taken. -/
def isFloat (cs : List Char) : Bool :=
  let (negative, cs) := sign cs
  cs = ['i', 'n', 'f'] || cs = ['n', 'a', 'n'] ||
    (do
      let (whole, afterWhole) ← wholeDigits? cs
      let (fraction, afterFraction) ← fraction? afterWhole
      let (exponent, rest) ← exponent? afterFraction
      guard (rest.isEmpty && !afterWhole.isEmpty)
      let ds := whole ++ fraction
      guard (negative || !overflows (numberOf 10 ds) ds.length (exponent - fraction.length))).isSome

def twoDigits? (low high : Nat) (a b : Char) : Option Nat :=
  if a.isDigit && b.isDigit then
    let n := digitValue a * 10 + digitValue b
    if low ≤ n ∧ n ≤ high then some n else none
  else none

def daysIn (year month : Nat) : Nat :=
  match month with
  | 2 => if year % 4 = 0 ∧ (year % 100 ≠ 0 ∨ year % 400 = 0) then 29 else 28
  | 4 | 6 | 9 | 11 => 30
  | _ => 31

def date? : List Char → Option (List Char)
  | y₁ :: y₂ :: y₃ :: y₄ :: '-' :: m₁ :: m₂ :: '-' :: d₁ :: d₂ :: rest => do
    let century ← twoDigits? 0 99 y₁ y₂
    let year ← twoDigits? 0 99 y₃ y₄
    let month ← twoDigits? 1 12 m₁ m₂
    let _ ← twoDigits? 1 (daysIn (century * 100 + year) month) d₁ d₂
    return rest
  | _ => none

def time? : List Char → Option (List Char)
  | h₁ :: h₂ :: ':' :: m₁ :: m₂ :: ':' :: s₁ :: s₂ :: rest => do
    let _ ← twoDigits? 0 23 h₁ h₂
    let _ ← twoDigits? 0 59 m₁ m₂
    let _ ← twoDigits? 0 60 s₁ s₂
    match rest with
    | '.' :: c :: cs => return if c.isDigit then cs.dropWhile Char.isDigit else rest
    | _ => return rest
  | _ => none

def isZone : List Char → Bool
  | [c] => c = 'Z' || c = 'z'
  | [s, h₁, h₂, ':', m₁, m₂] =>
    (s = '+' || s = '-') && (twoDigits? 0 23 h₁ h₂).isSome && (twoDigits? 0 59 m₁ m₂).isSome
  | _ => false

def isDate (cs : List Char) : Bool := date? cs == some []

def isTime (cs : List Char) : Bool := time? cs == some []

def isZonedTime (cs : List Char) : Bool :=
  match time? cs with
  | none => false
  | some rest => rest.isEmpty || isZone rest

def isDateTime (cs : List Char) : Bool :=
  match date? cs with
  | some (t :: rest) => (t = 'T' || t = 't') && isZonedTime rest
  | _ => false

end ScriptLens.Toml
