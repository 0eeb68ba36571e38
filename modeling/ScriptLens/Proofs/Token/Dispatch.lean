import ScriptLens.Token.Scan

/-! # Which scanner reads a text

The first character of a text, or its first two, choose the scanner that reads it.  `scan_dispatch`
lists the scanners with what each begins with, so that statements on all tokens are proved scanner
by scanner. -/

namespace ScriptLens

def beginsNumber : List Char → Bool
  | [] => false
  | c :: cs => c.isDigit || (c = '.' && startsWithDigit cs)

theorem beginsNumber_cons {c : Char} {cs : List Char} :
    beginsNumber (c :: cs) = true ↔ c.isDigit = true ∨ c = '.' ∧ startsWithDigit cs = true := by
  simp [beginsNumber]

theorem beginsNumber_of_startsWithDigit {cs : List Char} (digit : startsWithDigit cs = true) :
    beginsNumber cs = true := by
  cases cs with
  | nil => cases digit
  | cons c cs => exact beginsNumber_cons.mpr (.inl digit)

theorem ne_of_beginsNumber {c x : Char} {cs : List Char} (begins : beginsNumber (c :: cs) = true)
    (digit : x.isDigit = false) (point : x ≠ '.') : c ≠ x := by
  rintro rfl
  simp [beginsNumber, digit, point] at begins

def quotes : List Char := ['"', '\'']

structure Unclaimed (c : Char) : Prop where
  whitespace : isWhitespace c = false
  slash : c ≠ '/'
  quote : c ∉ quotes
  template : c ≠ backtick
  digit : c.isDigit = false
  word : isIdentStart c = false
  punctuation : isPunctuation c = false

namespace Scan

inductive Dispatch (c : Char) (cs : List Char) : Scan → Prop
  | whitespace : isWhitespace c = true →
    Dispatch c cs ⟨.ok .whitespace, c :: cs.takeWhile isWhitespace, cs.dropWhile isWhitespace⟩
  | slash : c = '/' → Dispatch c cs (.slash cs)
  | quoted : c ∈ quotes →
    Dispatch c cs (.ofDelimited [c] .string .unterminatedString (.quotation c false cs))
  | template : c = backtick →
    Dispatch c cs (.ofDelimited [c] .string .unterminatedTemplate (.quotation c true cs))
  | number : beginsNumber (c :: cs) = true → Dispatch c cs (.number (c :: cs))
  | word : isIdentStart c = true → Dispatch c cs (.word c cs)
  | punctuation : isPunctuation c = true → Dispatch c cs ⟨.ok .punctuation, [c], cs⟩
  | operator : Unclaimed c → Dispatch c cs (.operator c cs)

theorem kind_ofDelimited (opening : List Char) (kind : TokenKind) (fault : LexFault)
    (d : Delimited) :
    (ofDelimited opening kind fault d).kind = if d.closed then kind else .error := by
  cases closed : d.closed <;> simp [ofDelimited, Scan.kind, closed]

theorem kind_slash (cs : List Char) : (slash cs).kind ∈ [.comment, .operator, .error] := by
  unfold slash
  split
  · simp [kind]
  · rw [kind_ofDelimited]
    split <;> simp
  · simp [kind]
  · simp [kind]

theorem kind_number (cs : List Char) :
    (number cs).kind = if Numeral.isValid (number cs).lexeme then .number else .error := by
  cases valid : Numeral.isValid (NumericRun.ofText cs).1 <;> simp [number, Scan.kind, valid]

theorem kind_word (c : Char) (cs : List Char) :
    (word c cs).kind =
      if isKeyword (String.ofList (word c cs).lexeme) then .keyword else .identifier := rfl

theorem kind_operator (c : Char) (cs : List Char) : (operator c cs).kind ∈ [.operator, .error] := by
  unfold operator
  split <;> simp [kind]

end Scan

theorem scan_dispatch (c : Char) (cs : List Char) : Scan.Dispatch c cs (scan c cs) := by
  unfold scan
  split
  · exact .whitespace ‹_›
  split
  · exact .slash ‹_›
  split
  · rename_i quote
    exact .quoted (by simpa [quotes] using quote)
  split
  · exact .template ‹_›
  split
  · exact .number ‹_›
  split
  · exact .word ‹_›
  split
  · exact .punctuation ‹_›
  · rename_i whitespace slash quote template number word punctuation
    rw [Bool.not_eq_true] at whitespace number word punctuation
    refine .operator ⟨whitespace, slash, ?_, template, ?_, word, punctuation⟩
    · simpa [quotes] using quote
    · exact (Bool.or_eq_false_iff.mp number).1

theorem scan_quote {quote : Char} (begins : quote ∈ quotes) (cs : List Char) :
    scan quote cs =
      .ofDelimited [quote] .string .unterminatedString (.quotation quote false cs) := by
  obtain rfl | rfl : quote = '"' ∨ quote = '\'' := by simpa [quotes] using begins
  · rfl
  · rfl

theorem scan_backtick (cs : List Char) :
    scan backtick cs =
      .ofDelimited [backtick] .string .unterminatedTemplate (.quotation backtick true cs) := rfl

theorem scan_number {c : Char} {cs : List Char} (begins : beginsNumber (c :: cs) = true) :
    scan c cs = .number (c :: cs) := by
  have number : (c.isDigit || (c = '.' && startsWithDigit cs)) = true := begins
  have other {x : Char} := ne_of_beginsNumber (x := x) begins
  have white : isWhitespace c = false := by
    simp [isWhitespace, other]
  have quote : ¬(c = '"' || c = '\'') = true := by
    simp [other]
  rw [scan, white, if_neg Bool.false_ne_true, if_neg (other rfl (by decide)), if_neg quote,
    if_neg (other rfl (by decide)), if_pos number]

theorem scan_whitespace {c : Char} (white : isWhitespace c = true) (cs : List Char) :
    scan c cs =
      ⟨.ok .whitespace, c :: cs.takeWhile isWhitespace, cs.dropWhile isWhitespace⟩ := by
  rw [scan, if_pos white]

theorem isIdentStart_eq_false_of_isWhitespace {c : Char} (white : isWhitespace c = true) :
    isIdentStart c = false := by
  simp only [isWhitespace, Bool.or_eq_true, decide_eq_true_eq] at white
  obtain (((((rfl | rfl) | rfl) | rfl) | rfl) | rfl) | rfl := white
  case inr => decide +kernel
  all_goals rfl

theorem isDigit_eq_false_of_isAlpha {c : Char} (letter : c.isAlpha = true) :
    c.isDigit = false := by
  have behind : 'A'.val ≤ c.val := by
    cases Bool.or_eq_true_iff.mp letter with
    | inl upper => exact (of_decide_eq_true upper).1
    | inr lower =>
      have first := of_decide_eq_true (Bool.and_eq_true_iff.mp lower).1
      exact UInt32.le_trans (by decide : 'A'.val ≤ 'a'.val) first
  rw [← Bool.not_eq_true]
  intro digit
  have last := of_decide_eq_true (Bool.and_eq_true_iff.mp digit).2
  exact absurd (UInt32.le_trans behind last) (by decide)

theorem isIdentStart_eq_false_of_isDigit {c : Char} (digit : c.isDigit = true) :
    isIdentStart c = false := by
  have letter : c.isAlpha = false := by
    rw [← Bool.not_eq_true]
    intro letter
    cases (isDigit_eq_false_of_isAlpha letter).symm.trans digit
  have sign {x : Char} (other : x.isDigit = false) : c ≠ x := by
    rintro rfl
    cases other.symm.trans digit
  simp [isIdentStart, toNat_lt_of_isDigit digit, letter, sign]

theorem scan_word {c : Char} (start : isIdentStart c = true) (cs : List Char) :
    scan c cs = .word c cs := by
  have other {x : Char} (none : isIdentStart x = false) : c ≠ x := by
    rintro rfl
    cases none.symm.trans start
  have white : ¬isWhitespace c = true := fun white => by
    cases (isIdentStart_eq_false_of_isWhitespace white).symm.trans start
  have digit : c.isDigit = false := by
    rw [← Bool.not_eq_true]
    intro digit
    cases (isIdentStart_eq_false_of_isDigit digit).symm.trans start
  have quote : ¬(c = '"' || c = '\'') = true := by
    simp [other (x := '"') rfl, other (x := '\'') rfl]
  have number : ¬(c.isDigit || (c = '.' && startsWithDigit cs)) = true := by
    simp [digit, other (x := '.') rfl]
  rw [scan, if_neg white, if_neg (other rfl), if_neg quote, if_neg (other rfl), if_neg number,
    if_pos start]

namespace Scan

theorem slash_eq_operator {cs : List Char} (line : cs.head? ≠ some '/')
    (block : cs.head? ≠ some '*') : slash cs = operator '/' cs := by
  unfold slash
  split
  · exact absurd rfl line
  · exact absurd rfl block
  · rfl
  · rename_i equals
    have none : cs.head? ≠ some '=' := by
      intro head
      obtain ⟨ds, rfl⟩ := List.head?_eq_some_iff.mp head
      exact equals ds rfl
    simp [operator, Operator.tailLength?, Operator.optional, none]

theorem slash_of_kind {cs : List Char} (kind : (slash cs).kind = .operator) :
    slash cs = operator '/' cs := by
  apply slash_eq_operator
  · intro head
    obtain ⟨ds, rfl⟩ := List.head?_eq_some_iff.mp head
    cases kind
  · intro head
    obtain ⟨ds, rfl⟩ := List.head?_eq_some_iff.mp head
    rw [slash, kind_ofDelimited] at kind
    split at kind <;> cases kind

/-- What the kind of a token tells about its text: the scanner that has read it. -/
structure Reveals (s : Scan) (c : Char) (cs : List Char) : Prop where
  whitespace : s.kind = .whitespace → isWhitespace c = true
  word : s.kind = .keyword ∨ s.kind = .identifier → isIdentStart c = true
  number : s.kind = .number → beginsNumber (c :: cs) = true
  operator : s.kind = .operator → s = .operator c cs

theorem reveals (c : Char) (cs : List Char) : (scan c cs).Reveals c cs := by
  have dispatch := scan_dispatch c cs
  generalize scan c cs = s at dispatch ⊢
  cases dispatch with
  | whitespace white => exact ⟨fun _ => white, nofun, nofun, nofun⟩
  | slash begins =>
    subst begins
    have kind := kind_slash cs
    constructor
    case operator => exact slash_of_kind
    all_goals grind
  | quoted | template =>
    have kind := kind_ofDelimited
    constructor
    all_goals grind
  | number begins =>
    have kind := kind_number (c :: cs)
    constructor
    case number => exact fun _ => begins
    all_goals grind
  | word start =>
    have kind := kind_word c cs
    constructor
    case word => exact fun _ => start
    all_goals grind
  | punctuation => exact ⟨nofun, nofun, nofun, nofun⟩
  | operator =>
    have kind := kind_operator c cs
    constructor
    case operator => exact fun _ => rfl
    all_goals grind

end Scan

end ScriptLens
