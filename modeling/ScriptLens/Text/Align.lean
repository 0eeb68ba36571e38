namespace ScriptLens.Text

def fill (n : Nat) (c : Char) : String := String.ofList (List.replicate n c)

def alignLeft (width : Nat) (s : String) : String := s ++ fill (width - s.length) ' '

def alignRight (width : Nat) (s : String) : String := fill (width - s.length) ' ' ++ s

/-- Blanks on both sides; an odd one goes after the text. -/
def alignCenter (width : Nat) (s : String) : String :=
  let blanks := width - s.length
  fill (blanks / 2) ' ' ++ s ++ fill (blanks - blanks / 2) ' '

def cut (width : Nat) (s : String) : String := String.ofList (s.toList.take width)

def widest : Nat := 65535

def column? (align : Nat → String → String) (width : Nat) (s : String) : Option String :=
  if width ≤ widest then some (align width s) else none

def zeroPadded (width n : Nat) : String :=
  let digits := toString n
  fill (width - digits.length) '0' ++ digits

@[simp] theorem toList_fill (n : Nat) (c : Char) : (fill n c).toList = List.replicate n c := by
  simp [fill]

@[simp] theorem length_fill (n : Nat) (c : Char) : (fill n c).length = n := by
  simp [← String.length_toList]

end ScriptLens.Text
