import ScriptLens.Toml.Scalar

namespace ScriptLens.Toml

def isPlain (c : Char) : Bool := c = '\t' || (decide (0x20 ≤ c.toNat) && c ≠ '\x7F')

def isGap (c : Char) : Bool := c = ' ' || c = '\t'

def newline? : List Char → Option (List Char)
  | '\n' :: cs => some cs
  | '\r' :: '\n' :: cs => some cs
  | _ => none

def skipLines : List Char → List Char
  | '\r' :: '\n' :: cs => skipLines cs
  | c :: cs => if isGap c || c = '\n' then skipLines cs else c :: cs
  | [] => []

def scalar? (width : Nat) (cs : List Char) : Option (Char × List Char) :=
  if (cs.take width).length = width ∧ (cs.take width).all isHexDigit = true ∧
      (numberOf 16 (cs.take width)).isValidChar then
    some (Char.ofNat (numberOf 16 (cs.take width)), cs.drop width)
  else none

def escape? : List Char → Option (Char × List Char)
  | 'b' :: cs => some ('\x08', cs)
  | 't' :: cs => some ('\t', cs)
  | 'n' :: cs => some ('\n', cs)
  | 'f' :: cs => some ('\x0C', cs)
  | 'r' :: cs => some ('\r', cs)
  | '"' :: cs => some ('"', cs)
  | '\\' :: cs => some ('\\', cs)
  | 'u' :: cs => scalar? 4 cs
  | 'U' :: cs => scalar? 8 cs
  | _ => none

theorem length_escape? {cs rest : List Char} {c : Char} (h : escape? cs = some (c, rest)) :
    rest.length ≤ cs.length := by
  have scalar {width : Nat} {ds : List Char} (h : scalar? width ds = some (c, rest)) :
      rest.length ≤ ds.length := by
    unfold scalar? at h
    split at h
    · obtain ⟨_, rfl⟩ := Prod.mk.inj (Option.some.inj h)
      simp
    · simp at h
  unfold escape? at h
  split at h
  case h_8 => exact Nat.le_succ_of_le (scalar h)
  case h_9 => exact Nat.le_succ_of_le (scalar h)
  all_goals simp at h
  all_goals obtain ⟨_, rfl⟩ := h; simp

def basic? : List Char → Option (List Char × List Char)
  | [] => none
  | c :: cs =>
    if c = '"' then some ([], cs)
    else if c = '\\' then
      match _h : escape? cs with
      | none => none
      | some (d, rest) => (basic? rest).map fun (s, after) => (d :: s, after)
    else if isPlain c then (basic? cs).map fun (s, after) => (c :: s, after)
    else none
termination_by cs => cs.length
decreasing_by
  · have := length_escape? _h
    simp only [List.length_cons]
    omega
  · simp

def literal? : List Char → Option (List Char × List Char)
  | [] => none
  | c :: cs =>
    if c = '\'' then some ([], cs)
    else if isPlain c then (literal? cs).map fun (s, after) => (c :: s, after)
    else none

/-- The end of a string in tripled marks: up to two more marks belong to the string. -/
def tripleEnd? (mark : Char) (cs : List Char) : Option (List Char × List Char) :=
  let marks := cs.takeWhile (· = mark)
  if marks.length < 3 then none
  else
    let extra := min (marks.length - 3) 2
    some (marks.take extra, cs.drop (extra + 3))

theorem length_skipLines (cs : List Char) : (skipLines cs).length ≤ cs.length := by
  fun_induction skipLines cs <;> simp_all <;> omega

theorem length_newline? {cs rest : List Char} (h : newline? cs = some rest) :
    rest.length < cs.length := by
  unfold newline? at h
  split at h
  · obtain rfl := Option.some.inj h
    exact Nat.lt_succ_self _
  · obtain rfl := Option.some.inj h
    exact Nat.lt_succ_of_lt (Nat.lt_succ_self _)
  · simp at h

/-- The rest of a string in tripled double quotes.  A backslash at the end of a line hides the line
break and all blanks after it. -/
def longBasic? (cs : List Char) : Option (List Char × List Char) :=
  match tripleEnd? '"' cs with
  | some (marks, after) => some (marks, after)
  | none =>
    match _hb : newline? cs with
    | some rest => (longBasic? rest).map fun (s, after) => ('\n' :: s, after)
    | none =>
      match cs with
      | [] => none
      | c :: cs =>
        if c = '\\' then
          match _hn : newline? (cs.dropWhile isGap) with
          | some rest => longBasic? (skipLines rest)
          | none =>
            match _he : escape? cs with
            | none => none
            | some (d, rest) => (longBasic? rest).map fun (s, after) => (d :: s, after)
        else if isPlain c then (longBasic? cs).map fun (s, after) => (c :: s, after)
        else none
termination_by cs.length
decreasing_by
  · exact length_newline? _hb
  · have := length_newline? _hn
    have := length_skipLines rest
    have := (List.dropWhile_sublist (p := isGap) (l := cs)).length_le
    simp only [List.length_cons]
    omega
  · have := length_escape? _he
    simp only [List.length_cons]
    omega
  · simp

def longLiteral? (cs : List Char) : Option (List Char × List Char) :=
  match tripleEnd? '\'' cs with
  | some (marks, after) => some (marks, after)
  | none =>
    match _hb : newline? cs with
    | some rest => (longLiteral? rest).map fun (s, after) => ('\n' :: s, after)
    | none =>
      match cs with
      | [] => none
      | c :: cs =>
        if isPlain c then (longLiteral? cs).map fun (s, after) => (c :: s, after) else none
termination_by cs.length
decreasing_by
  · exact length_newline? _hb
  · simp

def string? : List Char → Option (String × List Char)
  | '"' :: '"' :: '"' :: cs => (longBasic? ((newline? cs).getD cs)).map finish
  | '\'' :: '\'' :: '\'' :: cs => (longLiteral? ((newline? cs).getD cs)).map finish
  | '"' :: cs => (basic? cs).map finish
  | '\'' :: cs => (literal? cs).map finish
  | _ => none
where
  finish (r : List Char × List Char) : String × List Char := (String.ofList r.1, r.2)

end ScriptLens.Toml
