import ScriptLens.Proofs.Lexer.Relexing
import ScriptLens.Proofs.Token.Dispatch

namespace ScriptLens

def Operator.table : List String :=
  [">>>=", "===", "!==", "**=", ">>>", "<<=", ">>=", "&&=", "||=", "??=", "==", "!=", "<=", ">=",
    "&&", "||", "??", "?.", "=>", "++", "--", "+=", "-=", "*=", "/=", "%=", "&=", "|=", "^=", "**",
    "<<", ">>", "+", "-", "*", "/", "%", "=", "<", ">", "!", "&", "|", "^", "~", "?"]

def Operator.beginnings : List Char :=
  ['+', '-', '*', '/', '%', '=', '!', '<', '>', '&', '|', '^', '?', '~']

structure Stray (c : Char) : Prop extends Unclaimed c where
  operator : ∀ op ∈ Operator.table, c ∉ op.toList

inductive Causes : LexFault → List Char → Prop
  | string {quote : Char} {more : List Char} :
    quote ∈ quotes → Causes .unterminatedString (quote :: more)
  | template {more : List Char} : Causes .unterminatedTemplate (backtick :: more)
  | comment {more : List Char} : Causes .unterminatedComment ('/' :: '*' :: more)
  | number {run : List Char} :
    beginsNumber run = true → Causes (.invalidNumber (String.ofList run)) run
  | stray {c : Char} : Stray c → Causes (.unexpectedChar c) [c]

variable {fault : LexFault} {lexeme : List Char} {c : Char} {cs : List Char}

section scanning

theorem Operator.not_mem_beginnings (none : tailLength? c cs = none) : c ∉ beginnings := by
  intro member
  have some : ∀ c ∈ beginnings, (tailLength? c cs).isSome = true := by
    simp only [beginnings, List.forall_mem_cons]
    simp only [tailLength?]
    grind
  have found := some c member
  rw [none] at found
  cases found

theorem Unclaimed.stray (unclaimed : Unclaimed c) (none : Operator.tailLength? c cs = none) :
    Stray c := by
  refine ⟨unclaimed, ?_⟩
  intro op listed inside
  have made : ∀ op ∈ Operator.table, op.toList ⊆ '.' :: Operator.beginnings := by decide
  cases List.mem_cons.mp (made op listed inside) with
  | inl point =>
    have other := unclaimed.punctuation
    rw [point] at other
    cases other
  | inr begins => exact Operator.not_mem_beginnings none begins

theorem fault?_ofDelimited {opening : List Char} {kind : TokenKind} {d : Delimited}
    {fault fault' : LexFault}
    (found : (Scan.ofDelimited opening kind fault d).fault? = some fault') : fault' = fault := by
  unfold Scan.ofDelimited Scan.fault? at found
  cases closed : d.closed <;> simp_all

theorem beginsNumber_run (begins : beginsNumber (c :: cs) = true) :
    beginsNumber (Scan.number (c :: cs)).lexeme = true := by
  obtain ⟨more, lexeme⟩ := Scan.number_lexeme begins
  rw [lexeme, beginsNumber_cons]
  obtain digit | ⟨rfl, digit⟩ := beginsNumber_cons.mp begins
  · exact .inl digit
  · have next := Scan.startsWithDigit_number [] digit
    rw [lexeme, List.tail_cons, List.append_nil] at next
    exact .inr ⟨rfl, next⟩

theorem fault?_number (found : (Scan.number cs).fault? = some fault) :
    fault = .invalidNumber (String.ofList (Scan.number cs).lexeme) := by
  unfold Scan.number Scan.fault? at found
  cases valid : Numeral.isValid (NumericRun.ofText cs).1 <;> simp_all [Scan.number]

theorem causes_scan (found : (scan c cs).fault? = some fault) :
    Causes fault (scan c cs).lexeme := by
  have dispatch := scan_dispatch c cs
  generalize scan c cs = s at dispatch found ⊢
  cases dispatch with
  | whitespace | word | punctuation => cases found
  | slash =>
    unfold Scan.slash at found ⊢
    split at found
    · cases found
    · obtain rfl := fault?_ofDelimited found
      exact .comment
    · cases found
    · cases found
  | quoted isQuote =>
    obtain rfl := fault?_ofDelimited found
    exact .string isQuote
  | template begins =>
    obtain rfl := fault?_ofDelimited found
    rw [begins]
    exact .template
  | number begins =>
    obtain rfl := fault?_number found
    exact .number (beginsNumber_run begins)
  | operator unclaimed =>
    unfold Scan.operator at found ⊢
    split at found
    · cases found
    · rename_i none
      obtain rfl : LexFault.unexpectedChar c = fault := Option.some.inj found
      exact .stray (unclaimed.stray none)

end scanning

namespace Causes

-- The beginnings of the five causes exclude one another, so the first that fits is the only one.
theorem fault_eq (causes : Causes fault (c :: cs)) :
    fault =
      if c ∈ quotes then .unterminatedString
      else if c = backtick then .unterminatedTemplate
      else if c = '/' then .unterminatedComment
      else if beginsNumber (c :: cs) then .invalidNumber (String.ofList (c :: cs))
      else .unexpectedChar c := by
  cases causes with
  | string isQuote => rw [if_pos isQuote]
  | template => rfl
  | comment => rfl
  | number begins =>
    have other {x : Char} := ne_of_beginsNumber (x := x) begins
    have quote : c ∉ quotes := by
      simp [quotes, other]
    rw [if_neg quote, if_neg (other (by decide) (by decide)),
      if_neg (other (by decide) (by decide)), if_pos begins]
  | stray stray =>
    have number : ¬beginsNumber [c] = true := by
      simp [beginsNumber, stray.digit, startsWithDigit]
    rw [if_neg stray.quote, if_neg stray.template, if_neg stray.slash, if_neg number]

theorem unique {fault' : LexFault} (causes : Causes fault lexeme)
    (causes' : Causes fault' lexeme) : fault' = fault := by
  cases lexeme with
  | nil =>
    cases causes with
    | number begins => cases begins
  | cons c cs => rw [causes.fault_eq, causes'.fault_eq]

end Causes

end ScriptLens
