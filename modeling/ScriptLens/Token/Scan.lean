import ScriptLens.Token.Delimited
import ScriptLens.Token.Fault
import ScriptLens.Token.Keyword
import ScriptLens.Token.Kind
import ScriptLens.Token.NumericRun
import ScriptLens.Token.Operator

namespace ScriptLens

structure Scan where
  finding : Except LexFault TokenKind
  lexeme : List Char
  rest : List Char

namespace Scan

def kind (s : Scan) : TokenKind :=
  match s.finding with
  | .ok kind => kind
  | .error _ => .error

def fault? (s : Scan) : Option LexFault :=
  match s.finding with
  | .ok _ => none
  | .error fault => some fault

def ofDelimited (opening : List Char) (kind : TokenKind) (fault : LexFault) (d : Delimited) :
    Scan :=
  ⟨if d.closed then .ok kind else .error fault, opening ++ d.taken, d.rest⟩

def slash : List Char → Scan
  | '/' :: cs =>
    ⟨.ok .comment, '/' :: '/' :: cs.takeWhile (!isLineTerminator ·),
      cs.dropWhile (!isLineTerminator ·)⟩
  | '*' :: cs => ofDelimited ['/', '*'] .comment .unterminatedComment (.blockComment cs)
  | '=' :: cs => ⟨.ok .operator, ['/', '='], cs⟩
  | cs => ⟨.ok .operator, ['/'], cs⟩

def number (cs : List Char) : Scan :=
  let (run, rest) := NumericRun.ofText cs
  ⟨if Numeral.isValid run then .ok .number else .error (.invalidNumber (String.ofList run)),
    run, rest⟩

def word (c : Char) (cs : List Char) : Scan :=
  let letters := c :: cs.takeWhile isIdentContinue
  ⟨.ok (if isKeyword (String.ofList letters) then .keyword else .identifier), letters,
    cs.dropWhile isIdentContinue⟩

def operator (c : Char) (cs : List Char) : Scan :=
  match Operator.tailLength? c cs with
  | some n => ⟨.ok .operator, c :: cs.take n, cs.drop n⟩
  | none => ⟨.error (.unexpectedChar c), [c], cs⟩

end Scan

def backtick : Char := '\x60'

def scan (c : Char) (cs : List Char) : Scan :=
  if isWhitespace c then
    ⟨.ok .whitespace, c :: cs.takeWhile isWhitespace, cs.dropWhile isWhitespace⟩
  else if c = '/' then Scan.slash cs
  else if c = '"' || c = '\'' then
    .ofDelimited [c] .string .unterminatedString (.quotation c false cs)
  else if c = backtick then
    .ofDelimited [c] .string .unterminatedTemplate (.quotation c true cs)
  else if c.isDigit || (c = '.' && startsWithDigit cs) then Scan.number (c :: cs)
  else if isIdentStart c then Scan.word c cs
  else if isPunctuation c then ⟨.ok .punctuation, [c], cs⟩
  else Scan.operator c cs

theorem Scan.slash_append (cs : List Char) :
    (slash cs).lexeme ++ (slash cs).rest = '/' :: cs := by
  unfold slash
  split <;> simp [ofDelimited, Delimited.blockComment_append]

theorem Scan.operator_append (c : Char) (cs : List Char) :
    (operator c cs).lexeme ++ (operator c cs).rest = c :: cs := by
  unfold operator
  split <;> simp

theorem lexeme_append_rest_scan (c : Char) (cs : List Char) :
    (scan c cs).lexeme ++ (scan c cs).rest = c :: cs := by
  unfold scan
  split
  · simp
  split
  · simp_all [Scan.slash_append]
  split
  · simp [Scan.ofDelimited, Delimited.quotation_append]
  split
  · simp [Scan.ofDelimited, Delimited.quotation_append]
  split
  · simp [Scan.number, NumericRun.ofText_append]
  split
  · simp [Scan.word]
  split
  · simp
  · exact Scan.operator_append c cs

theorem Scan.number_lexeme {c : Char} {cs : List Char}
    (begins : (c.isDigit || (c = '.' && startsWithDigit cs)) = true) :
    ∃ more, (number (c :: cs)).lexeme = c :: more := by
  have joins : (NumericRun.mk (NumericRun.startsWithRadix (c :: cs)) none false false).accepts c cs
      = true := by
    cases Bool.or_eq_true .. |>.mp begins with
    | inl digit => exact NumericRun.accepts_digit _ digit cs
    | inr dot => simp_all [NumericRun.accepts]
  exact ⟨_, by rw [number, NumericRun.ofText, NumericRun.span, if_pos joins]⟩

theorem lexeme_scan (c : Char) (cs : List Char) : ∃ more, (scan c cs).lexeme = c :: more := by
  unfold scan
  split
  · exact ⟨_, rfl⟩
  split
  · rename_i slash
    subst slash
    unfold Scan.slash
    split <;> exact ⟨_, rfl⟩
  split
  · exact ⟨_, rfl⟩
  split
  · exact ⟨_, rfl⟩
  split
  · rename_i begins
    exact Scan.number_lexeme begins
  split
  · exact ⟨_, rfl⟩
  split
  · exact ⟨_, rfl⟩
  · unfold Scan.operator
    split <;> exact ⟨_, rfl⟩

theorem lexeme_scan_ne_nil (c : Char) (cs : List Char) : (scan c cs).lexeme ≠ [] := by
  obtain ⟨more, h⟩ := lexeme_scan c cs
  simp [h]

theorem length_rest_scan (c : Char) (cs : List Char) : (scan c cs).rest.length ≤ cs.length := by
  obtain ⟨more, h⟩ := lexeme_scan c cs
  have := congrArg List.length (lexeme_append_rest_scan c cs)
  simp [h] at this
  omega

end ScriptLens
