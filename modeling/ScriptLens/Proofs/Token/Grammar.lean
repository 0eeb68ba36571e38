import Mathlib.Data.List.Basic
import Mathlib.Data.List.TakeWhile
import Mathlib.Tactic.IntervalCases
import ScriptLens.Token.Numeral

namespace ScriptLens.Numeral

def Digit (radix : Nat) (c : Char) : Prop :=
  ∃ value < radix, c = Nat.digitChar value ∨ c = (Nat.digitChar value).toUpper

inductive Digits (radix : Nat) : List Char → Prop
  | one {c : Char} : Digit radix c → Digits radix [c]
  | next {c : Char} {cs : List Char} : Digit radix c → Digits radix cs → Digits radix (c :: cs)
  | separated {c : Char} {cs : List Char} :
    Digit radix c → Digits radix cs → Digits radix (c :: '_' :: cs)

def radixLetters : List (Char × Nat) :=
  [('x', 16), ('X', 16), ('b', 2), ('B', 2), ('o', 8), ('O', 8)]

inductive Mantissa : List Char → Prop
  | whole {ds : List Char} : Digits 10 ds → Mantissa ds
  | wholePoint {ds : List Char} : Digits 10 ds → Mantissa (ds ++ ['.'])
  | pointFraction {ds : List Char} : Digits 10 ds → Mantissa ('.' :: ds)
  | wholePointFraction {ds es : List Char} :
    Digits 10 ds → Digits 10 es → Mantissa (ds ++ '.' :: es)

inductive Exponent : List Char → Prop
  | unsigned {ds : List Char} : Digits 10 ds → Exponent ds
  | signed {sign : Char} {ds : List Char} :
    sign ∈ ['+', '-'] → Digits 10 ds → Exponent (sign :: ds)

inductive Decimal : List Char → Prop
  | big {ds : List Char} : Digits 10 ds → Decimal (ds ++ ['n'])
  | plain {ms : List Char} : Mantissa ms → Decimal ms
  | scientific {ms es : List Char} {mark : Char} :
    Mantissa ms → mark ∈ ['e', 'E'] → Exponent es → Decimal (ms ++ mark :: es)

inductive Literal : List Char → Prop
  | decimal {cs : List Char} : Decimal cs → Literal cs
  | based {letter : Char} {radix : Nat} {ds : List Char} :
    (letter, radix) ∈ radixLetters → Digits radix ds → Literal ('0' :: letter :: ds)
  | bigBased {letter : Char} {radix : Nat} {ds : List Char} :
    (letter, radix) ∈ radixLetters → Digits radix ds → Literal ('0' :: letter :: (ds ++ ['n']))

variable {radix : Nat} {c : Char} {cs ds : List Char}

section digits

theorem isDigitOf_digitChar (radix : Nat) : ∀ value < 16,
    isDigitOf radix (Nat.digitChar value) = decide (value < radix) ∧
      isDigitOf radix (Nat.digitChar value).toUpper = decide (value < radix) := by
  intro value small
  interval_cases value <;> exact ⟨rfl, rfl⟩

theorem range_of_isDigitOf (digit : isDigitOf radix c = true) :
    (48 ≤ c.toNat ∧ c.toNat ≤ 57) ∨ (65 ≤ c.toNat ∧ c.toNat ≤ 70) ∨
      (97 ≤ c.toNat ∧ c.toNat ≤ 102) := by
  unfold isDigitOf at digit
  split at digit
  · rename_i decimal
    exact .inl (Char.isDigit_iff_toNat.mp decimal)
  split at digit
  · rename_i lower
    exact .inr (.inr ⟨UInt32.le_iff_toNat_le.mp lower.1, UInt32.le_iff_toNat_le.mp lower.2⟩)
  split at digit
  · rename_i upper
    exact .inr (.inl ⟨UInt32.le_iff_toNat_le.mp upper.1, UInt32.le_iff_toNat_le.mp upper.2⟩)
  · cases digit

theorem exists_digitChar (digit : isDigitOf radix c = true) :
    ∃ value < 16, c = Nat.digitChar value ∨ c = (Nat.digitChar value).toUpper := by
  have table : ∀ code < 103, (48 ≤ code ∧ code ≤ 57) ∨ (65 ≤ code ∧ code ≤ 70) ∨
      (97 ≤ code ∧ code ≤ 102) → ∃ value < 16, Char.ofNat code = Nat.digitChar value ∨
        Char.ofNat code = (Nat.digitChar value).toUpper := by
    decide
  have range := range_of_isDigitOf digit
  have found := table c.toNat (by omega) range
  rwa [Char.ofNat_toNat] at found

theorem isDigitOf_iff (small : radix ≤ 16) : isDigitOf radix c = true ↔ Digit radix c := by
  constructor
  · intro digit
    obtain ⟨value, bound, spelled⟩ := exists_digitChar digit
    obtain ⟨lower, upper⟩ := isDigitOf_digitChar radix value bound
    refine ⟨value, ?_, spelled⟩
    rcases spelled with rfl | rfl
    · exact of_decide_eq_true (lower.symm.trans digit)
    · exact of_decide_eq_true (upper.symm.trans digit)
  · rintro ⟨value, less, spelled⟩
    obtain ⟨lower, upper⟩ := isDigitOf_digitChar radix value (by omega)
    rcases spelled with rfl | rfl
    · rw [lower, decide_eq_true less]
    · rw [upper, decide_eq_true less]

theorem not_digits_underscore (small : radix ≤ 16) : ¬Digits radix ('_' :: cs) := by
  have other : ¬Digit radix '_' := fun digit => by cases (isDigitOf_iff small).mpr digit
  rintro (digit | ⟨digit, _⟩ | ⟨digit, _⟩)
  · exact other digit
  · exact other digit
  · exact other digit

theorem isDigitRun_iff (small : radix ≤ 16) : isDigitRun radix cs = true ↔ Digits radix cs := by
  fun_induction isDigitRun radix cs with
  | case1 => exact iff_of_false Bool.false_ne_true nofun
  | case2 c =>
    rw [isDigitOf_iff small]
    constructor
    · exact .one
    · rintro (digit | ⟨_, ⟨⟩⟩)
      exact digit
  | case3 c cs ih =>
    rw [Bool.and_eq_true, isDigitOf_iff small, ih]
    constructor
    · rintro ⟨digit, more⟩
      exact .separated digit more
    · rintro (_ | ⟨_, more⟩ | ⟨digit, more⟩)
      · exact absurd more (not_digits_underscore small)
      · exact ⟨digit, more⟩
  | case4 c d cs other ih =>
    rw [Bool.and_eq_true, isDigitOf_iff small, ih]
    constructor
    · rintro ⟨digit, more⟩
      exact .next digit more
    · rintro (_ | ⟨digit, more⟩ | ⟨_, _⟩)
      · exact ⟨digit, more⟩
      · exact (other rfl).elim

theorem Digits.not_mem (digits : Digits radix ds) (small : radix ≤ 16) (mark : c ≠ '_')
    (other : isDigitOf radix c = false) : c ∉ ds := by
  have here {d : Char} (digit : Digit radix d) : c ≠ d := by
    rintro rfl
    cases other.symm.trans ((isDigitOf_iff small).mpr digit)
  induction digits with
  | one digit => exact mt List.mem_singleton.mp (here digit)
  | next digit _ ih => exact List.not_mem_cons_of_ne_of_not_mem (here digit) ih
  | separated digit _ ih =>
    exact List.not_mem_cons_of_ne_of_not_mem (here digit)
      (List.not_mem_cons_of_ne_of_not_mem mark ih)

theorem Digits.ne_nil (digits : Digits radix ds) : ds ≠ [] := by
  rintro rfl
  cases digits

end digits

theorem isBig_concat (cs : List Char) : isBig (cs ++ ['n']) = true := by simp [isBig]

theorem dropLast_append_of_isBig (big : isBig cs = true) : cs.dropLast ++ ['n'] = cs :=
  List.dropLast_append_getLast? 'n' (eq_of_beq big)

theorem isBig_eq_false_of_not_mem (no : 'n' ∉ cs) : isBig cs = false :=
  beq_false_of_ne fun last => no (List.mem_of_getLast? last)

theorem Digits.isBig_eq_false (digits : Digits radix ds) (small : radix ≤ 16) : isBig ds = false :=
  isBig_eq_false_of_not_mem (digits.not_mem small (by decide) rfl)

theorem isInteger_iff (small : radix ≤ 16) :
    isInteger radix cs = true ↔ Digits radix cs ∨ ∃ ds, cs = ds ++ ['n'] ∧ Digits radix ds := by
  rw [isInteger, isDigitRun_iff small]
  constructor
  · intro digits
    split at digits
    · rename_i big
      exact .inr ⟨cs.dropLast, (dropLast_append_of_isBig big).symm, digits⟩
    · exact .inl digits
  · rintro (digits | ⟨ds, rfl, digits⟩)
    · rwa [digits.isBig_eq_false small]
    · rwa [isBig_concat, if_pos rfl, List.dropLast_concat]

section cut

variable {p : Char → Bool} {before after : List Char}

theorem takeWhile_cut (inside : ∀ d ∈ before, p d = true) (mark : p c = false) :
    (before ++ c :: after).takeWhile p = before := by
  rw [List.takeWhile_append_of_pos inside, List.takeWhile_cons_of_neg (by simp [mark]),
    List.append_nil]

theorem dropWhile_cut (inside : ∀ d ∈ before, p d = true) (mark : p c = false) :
    (before ++ c :: after).dropWhile p = c :: after := by
  rw [List.dropWhile_append_of_pos inside, List.dropWhile_cons_of_neg (by simp [mark])]

/-- A text has nothing but characters of a class, or it is cut by the first other one. -/
theorem uncut_or_cut (p : Char → Bool) (cs : List Char) :
    (∀ d ∈ cs, p d = true) ∨ ∃ before c after,
      cs = before ++ c :: after ∧ (∀ d ∈ before, p d = true) ∧ p c = false := by
  have text := List.takeWhile_append_dropWhile (p := p) (l := cs)
  cases rest : cs.dropWhile p with
  | nil => exact .inl (List.dropWhile_eq_nil_iff.mp rest)
  | cons c after =>
    rw [rest] at text
    refine .inr ⟨_, c, after, text.symm, fun d member => List.mem_takeWhile_imp member, ?_⟩
    have first := List.head?_dropWhile_not p cs
    rw [rest] at first
    simpa using first

end cut

section mantissa

variable {whole fraction : List Char}

theorem isMantissa_uncut (inside : ∀ d ∈ cs, decide (d ≠ '.') = true) :
    isMantissa cs = isDigitRun 10 cs := by
  rw [isMantissa, List.takeWhile_eq_self_iff.mpr inside, List.dropWhile_eq_nil_iff.mpr inside]

theorem isMantissa_cut (inside : ∀ d ∈ whole, decide (d ≠ '.') = true) :
    isMantissa (whole ++ '.' :: fraction) = true ↔
      whole = [] ∧ Digits 10 fraction ∨ Digits 10 whole ∧ fraction = [] ∨
        Digits 10 whole ∧ Digits 10 fraction := by
  have empty : ¬Digits 10 [] := fun digits => digits.ne_nil rfl
  rw [isMantissa, takeWhile_cut inside rfl, dropWhile_cut inside rfl]
  cases whole with
  | nil => simp [isDigitRun_iff, empty]
  | cons d ds =>
    cases fraction with
    | nil => simp [isDigitRun_iff, empty]
    | cons e es => simp [isDigitRun_iff]

theorem Digits.ne_point (digits : Digits 10 ds) : ∀ d ∈ ds, decide (d ≠ '.') = true := by
  intro d member
  rw [decide_eq_true_iff]
  rintro rfl
  exact digits.not_mem (by decide) (by decide) rfl member

theorem isMantissa_iff : isMantissa cs = true ↔ Mantissa cs := by
  constructor
  · intro mantissa
    obtain inside | ⟨whole, mark, fraction, rfl, inside, point⟩ := uncut_or_cut (· ≠ '.') cs
    · rw [isMantissa_uncut inside, isDigitRun_iff (by decide)] at mantissa
      exact .whole mantissa
    · obtain rfl : mark = '.' := by simpa using point
      obtain ⟨rfl, digits⟩ | ⟨digits, rfl⟩ | ⟨digits, more⟩ := (isMantissa_cut inside).mp mantissa
      · exact .pointFraction digits
      · exact .wholePoint digits
      · exact .wholePointFraction digits more
  · rintro (digits | digits | digits | ⟨digits, more⟩)
    · rw [isMantissa_uncut digits.ne_point, isDigitRun_iff (by decide)]
      exact digits
    · exact (isMantissa_cut digits.ne_point).mpr (.inr (.inl ⟨digits, rfl⟩))
    · exact (isMantissa_cut (by simp)).mpr (.inl ⟨rfl, digits⟩)
    · exact (isMantissa_cut digits.ne_point).mpr (.inr (.inr ⟨digits, more⟩))

theorem Mantissa.not_mem (mantissa : Mantissa cs) (mark : c ≠ '_') (point : c ≠ '.')
    (other : isDigitOf 10 c = false) : c ∉ cs := by
  have none {ds : List Char} (digits : Digits 10 ds) : c ∉ ds :=
    digits.not_mem (by decide) mark other
  cases mantissa with
  | whole digits => exact none digits
  | wholePoint digits => simp [none digits, point]
  | pointFraction digits => simp [none digits, point]
  | wholePointFraction digits more => simp [none digits, none more, point]

end mantissa

theorem isExponent_iff : isExponent cs = true ↔ Exponent cs := by
  have ten : 10 ≤ 16 := by decide
  have unsigned {c : Char} {cs : List Char} (mark : c ≠ '_') (other : isDigitOf 10 c = false) :
      ¬Digits 10 (c :: cs) :=
    fun digits => digits.not_mem ten mark other List.mem_cons_self
  fun_cases isExponent cs with
  | case1 cs =>
    rw [isDigitRun_iff ten]
    constructor
    · exact .signed (by decide)
    · rintro (digits | ⟨_, digits⟩)
      · exact absurd digits (unsigned (by decide) rfl)
      · exact digits
  | case2 cs =>
    rw [isDigitRun_iff ten]
    constructor
    · exact .signed (by decide)
    · rintro (digits | ⟨_, digits⟩)
      · exact absurd digits (unsigned (by decide) rfl)
      · exact digits
  | case3 cs plus minus =>
    rw [isDigitRun_iff ten]
    constructor
    · exact .unsigned
    · rintro (digits | @⟨sign, ds, either, _⟩)
      · exact digits
      · obtain rfl | rfl : sign = '+' ∨ sign = '-' := by simpa using either
        · exact (plus ds rfl).elim
        · exact (minus ds rfl).elim

section decimal

variable {significand exponent : List Char}

def noMark (c : Char) : Bool := c ≠ 'e' && c ≠ 'E'

theorem noMark_eq_false_iff : noMark c = false ↔ c ∈ ['e', 'E'] := by
  simp [noMark, Decidable.or_iff_not_imp_left]

theorem isDecimal_uncut (inside : ∀ d ∈ cs, noMark d = true) :
    isDecimal cs = if isBig cs then isDigitRun 10 cs.dropLast else isMantissa cs := by
  have taken : cs.takeWhile noMark = cs := List.takeWhile_eq_self_iff.mpr inside
  have dropped : cs.dropWhile noMark = [] := List.dropWhile_eq_nil_iff.mpr inside
  unfold noMark at taken dropped
  rw [isDecimal, taken, dropped]

theorem isDecimal_cut (inside : ∀ d ∈ significand, noMark d = true) (mark : noMark c = false) :
    isDecimal (significand ++ c :: exponent) = (isMantissa significand && isExponent exponent) := by
  have taken : (significand ++ c :: exponent).takeWhile noMark = significand :=
    takeWhile_cut inside mark
  have dropped : (significand ++ c :: exponent).dropWhile noMark = c :: exponent :=
    dropWhile_cut inside mark
  unfold noMark at taken dropped
  rw [isDecimal, taken, dropped]

theorem Mantissa.noMark (mantissa : Mantissa cs) : ∀ d ∈ cs, noMark d = true := by
  intro d member
  rw [← Bool.not_eq_false, noMark_eq_false_iff]
  intro mark
  obtain rfl | rfl : d = 'e' ∨ d = 'E' := by simpa using mark
  · exact mantissa.not_mem (by decide) (by decide) rfl member
  · exact mantissa.not_mem (by decide) (by decide) rfl member

theorem isDecimal_iff : isDecimal cs = true ↔ Decimal cs := by
  have ten : 10 ≤ 16 := by decide
  constructor
  · intro decimal
    obtain inside | ⟨significand, mark, exponent, rfl, inside, marks⟩ :=
      uncut_or_cut Numeral.noMark cs
    · rw [isDecimal_uncut inside] at decimal
      split at decimal
      · rename_i big
        rw [← dropLast_append_of_isBig big]
        exact .big ((isDigitRun_iff ten).mp decimal)
      · exact .plain (isMantissa_iff.mp decimal)
    · rw [isDecimal_cut inside marks, Bool.and_eq_true, isMantissa_iff, isExponent_iff] at decimal
      exact .scientific decimal.1 (noMark_eq_false_iff.mp marks) decimal.2
  · rintro (digits | mantissa | ⟨mantissa, mark, exponent⟩)
    · have letter : ∀ d ∈ ['n'], noMark d = true := List.forall_mem_singleton.mpr rfl
      have inside := List.forall_mem_append.mpr ⟨(Mantissa.whole digits).noMark, letter⟩
      rw [isDecimal_uncut inside, isBig_concat, if_pos rfl, List.dropLast_concat,
        isDigitRun_iff ten]
      exact digits
    · have small : isBig cs = false :=
        isBig_eq_false_of_not_mem (mantissa.not_mem (by decide) (by decide) rfl)
      rwa [isDecimal_uncut mantissa.noMark, small, if_neg Bool.false_ne_true, isMantissa_iff]
    · rw [isDecimal_cut mantissa.noMark (noMark_eq_false_iff.mpr mark), Bool.and_eq_true,
        isMantissa_iff, isExponent_iff]
      exact ⟨mantissa, exponent⟩

theorem Exponent.not_mem (exponent : Exponent cs) (apart : c ∉ ['_', '+', '-'])
    (other : isDigitOf 10 c = false) : c ∉ cs := by
  simp only [List.mem_cons, List.not_mem_nil, or_false, not_or] at apart
  obtain ⟨mark, plus, minus⟩ := apart
  cases exponent with
  | unsigned digits => exact digits.not_mem (by decide) mark other
  | signed sign digits =>
    refine List.not_mem_cons_of_ne_of_not_mem ?_ (digits.not_mem (by decide) mark other)
    rintro rfl
    simp [plus, minus] at sign

theorem Decimal.not_mem (decimal : Decimal cs) (apart : c ∉ ['_', '.', 'n', 'e', 'E', '+', '-'])
    (other : isDigitOf 10 c = false) : c ∉ cs := by
  simp only [List.mem_cons, List.not_mem_nil, or_false, not_or] at apart
  obtain ⟨mark, point, big, lower, upper, plus, minus⟩ := apart
  cases decimal with
  | big digits => simp [digits.not_mem (by decide) mark other, big]
  | plain mantissa => exact mantissa.not_mem mark point other
  | scientific mantissa marks exponent =>
    have before := mantissa.not_mem mark point other
    have after := exponent.not_mem (by simp [mark, plus, minus]) other
    rw [List.mem_append, List.mem_cons, not_or, not_or]
    refine ⟨before, ?_, after⟩
    rintro rfl
    simp [lower, upper] at marks

end decimal

section radix

variable {letter : Char}

theorem radixOf?_eq_some_iff : radixOf? letter = some radix ↔ (letter, radix) ∈ radixLetters := by
  constructor
  · intro chosen
    unfold radixOf? at chosen
    split_ifs at chosen with hexadecimal octal binary
    · obtain rfl | rfl : letter = 'x' ∨ letter = 'X' := by simpa using hexadecimal
      · cases chosen; decide
      · cases chosen; decide
    · obtain rfl | rfl : letter = 'o' ∨ letter = 'O' := by simpa using octal
      · cases chosen; decide
      · cases chosen; decide
    · obtain rfl | rfl : letter = 'b' ∨ letter = 'B' := by simpa using binary
      · cases chosen; decide
      · cases chosen; decide
  · intro chooses
    have all : ∀ choice ∈ radixLetters, radixOf? choice.1 = some choice.2 := by decide
    exact all _ chooses

theorem le_of_mem_radixLetters (chooses : (letter, radix) ∈ radixLetters) : radix ≤ 16 := by
  have all : ∀ choice ∈ radixLetters, choice.2 ≤ 16 := by decide
  exact all _ chooses

theorem Decimal.not_mem_of_mem_radixLetters (decimal : Decimal cs)
    (chooses : (letter, radix) ∈ radixLetters) : letter ∉ cs := by
  have all : ∀ choice ∈ radixLetters,
      choice.1 ∉ ['_', '.', 'n', 'e', 'E', '+', '-'] ∧ isDigitOf 10 choice.1 = false := by
    decide
  obtain ⟨apart, other⟩ := all _ chooses
  exact decimal.not_mem apart other

theorem isValid_of_radix {rest : List Char} (chosen : radixOf? letter = some radix) :
    isInteger radix rest = true ↔ Literal ('0' :: letter :: rest) := by
  have chooses := radixOf?_eq_some_iff.mp chosen
  rw [isInteger_iff (le_of_mem_radixLetters chooses)]
  constructor
  · rintro (digits | ⟨ds, rfl, digits⟩)
    · exact .based chooses digits
    · exact .bigBased chooses digits
  · intro literal
    cases literal with
    | decimal decimal =>
      exact absurd (by simp) (decimal.not_mem_of_mem_radixLetters chooses)
    | based again digits =>
      obtain rfl := Option.some.inj (chosen.symm.trans (radixOf?_eq_some_iff.mpr again))
      exact .inl digits
    | bigBased again digits =>
      obtain rfl := Option.some.inj (chosen.symm.trans (radixOf?_eq_some_iff.mpr again))
      exact .inr ⟨_, rfl, digits⟩

theorem isDecimal_of_no_radix
    (none : ∀ letter rest, cs = '0' :: letter :: rest → radixOf? letter = none) :
    isDecimal cs = true ↔ Literal cs := by
  have unchosen {letter : Char} {radix : Nat} {rest : List Char}
      (chooses : (letter, radix) ∈ radixLetters) : cs ≠ '0' :: letter :: rest := by
    intro begins
    cases (none letter rest begins).symm.trans (radixOf?_eq_some_iff.mpr chooses)
  rw [isDecimal_iff]
  constructor
  · exact .decimal
  · intro literal
    cases literal with
    | decimal decimal => exact decimal
    | based chooses _ => exact absurd rfl (unchosen chooses)
    | bigBased chooses _ => exact absurd rfl (unchosen chooses)

theorem isValid_iff : isValid cs = true ↔ Literal cs := by
  fun_cases isValid cs with
  | case1 letter rest radix chosen => exact isValid_of_radix chosen
  | case2 letter rest unchosen =>
    apply isDecimal_of_no_radix
    rintro _ _ ⟨⟩
    exact unchosen
  | case3 =>
    rename_i other
    apply isDecimal_of_no_radix
    intro letter rest begins
    exact (other letter rest begins).elim

end radix

end ScriptLens.Numeral
