import ScriptLens.Proofs.Token.Boundary
import ScriptLens.Proofs.Token.Dispatch
import ScriptLens.Proofs.Token.Grammar

namespace ScriptLens.Numeral

open NumericRun

variable {radix : Nat} {c : Char} {cs ds after before : List Char} {hasRadix : Bool}

/-- The text behind a literal does not go on with it.  A point is left to a member access once the
literal has a point or a letter. -/
inductive Leaves (literal : List Char) : List Char → Prop
  | nothing : Leaves literal []
  | other {c : Char} {after : List Char} :
    isIdentContinue c = false → c ≠ '.' → Leaves literal (c :: after)
  | member {c : Char} {after : List Char} :
    c ∈ literal → c = '.' ∨ c.isAlpha = true → startsWithDigit after = false →
      Leaves literal ('.' :: after)

theorem Digit.satisfies {p : Char → Bool} (digit : Digit radix c)
    (all : ∀ value < radix,
      p (Nat.digitChar value) = true ∧ p (Nat.digitChar value).toUpper = true) : p c = true := by
  obtain ⟨value, less, rfl | rfl⟩ := digit
  · exact (all value less).1
  · exact (all value less).2

theorem Digit.isDigit (digit : Digit 10 c) : c.isDigit = true := digit.satisfies (by decide)

theorem Digit.isIdentContinue (digit : Digit radix c) (small : radix ≤ 16) :
    isIdentContinue c = true := by
  have all : ∀ value < 16, ScriptLens.isIdentContinue (Nat.digitChar value) = true ∧
      ScriptLens.isIdentContinue (Nat.digitChar value).toUpper = true := by
    decide
  exact digit.satisfies fun value less => all value (Nat.lt_of_lt_of_le less small)

theorem Digits.isIdentContinue (digits : Digits radix ds) (small : radix ≤ 16) :
    ∀ c ∈ ds, isIdentContinue c = true := by
  have underscore : ScriptLens.isIdentContinue '_' = true := rfl
  induction digits with
  | one digit => simp [digit.isIdentContinue small]
  | next digit _ ih => simpa [digit.isIdentContinue small] using ih
  | separated digit _ ih => simpa [digit.isIdentContinue small, underscore] using ih

theorem Digits.isWhole (digits : Digits 10 ds) : IsWhole ds := by
  induction digits with
  | one digit => simp [IsWhole, digit.isDigit]
  | next digit _ ih => simpa [IsWhole, digit.isDigit] using ih
  | separated digit _ ih => simpa [IsWhole, digit.isDigit] using ih

theorem Digits.startsWithDigit (digits : Digits 10 ds) (more : List Char) :
    startsWithDigit (ds ++ more) = true := by
  cases digits with
  | one digit => exact digit.isDigit
  | next digit _ => exact digit.isDigit
  | separated digit _ => exact digit.isDigit

theorem Digits.joined (digits : Digits radix ds) (small : radix ≤ 16) :
    Joined hasRadix before ds after := joined_of_forall (digits.isIdentContinue small)

theorem Mantissa.joined (mantissa : Mantissa cs) : Joined hasRadix [] cs after := by
  have ten : 10 ≤ 16 := by decide
  cases mantissa with
  | whole digits => exact digits.joined ten
  | wholePoint digits =>
    exact joined_append.mpr
      ⟨digits.joined ten, joined_cons.mpr ⟨.firstPoint digits.isWhole, joined_nil⟩⟩
  | pointFraction digits =>
    exact joined_cons.mpr ⟨.firstPoint (by simp [IsWhole]), digits.joined ten⟩
  | wholePointFraction digits more =>
    exact joined_append.mpr
      ⟨digits.joined ten, joined_cons.mpr ⟨.firstPoint digits.isWhole, more.joined ten⟩⟩

theorem Exponent.joined (exponent : Exponent cs) (mark : EndsInMark before) :
    Joined false before cs after := by
  cases exponent with
  | unsigned digits => exact digits.joined (by decide)
  | signed sign digits =>
    exact joined_cons.mpr ⟨.sign sign rfl mark, digits.joined (by decide)⟩

theorem Decimal.joined (decimal : Decimal cs) : Joined false [] cs after := by
  cases decimal with
  | big digits =>
    exact joined_append.mpr
      ⟨digits.joined (by decide), joined_of_forall (List.forall_mem_singleton.mpr rfl)⟩
  | plain mantissa => exact mantissa.joined
  | scientific mantissa mark exponent =>
    obtain rfl | rfl := List.mem_pair.mp mark
    · exact joined_append.mpr ⟨mantissa.joined,
        joined_cons.mpr ⟨.word rfl, exponent.joined (by simp [EndsInMark])⟩⟩
    · exact joined_append.mpr ⟨mantissa.joined,
        joined_cons.mpr ⟨.word rfl, exponent.joined (by simp [EndsInMark])⟩⟩

theorem Decimal.startsWithRadix_eq_false (decimal : Decimal cs) : startsWithRadix cs = false := by
  rw [← Bool.not_eq_true, startsWithRadix_iff]
  rintro ⟨letter, rest, rfl, chosen⟩
  obtain ⟨radix, chosen⟩ := Option.isSome_iff_exists.mp chosen
  exact decimal.not_mem_of_mem_radixLetters (radixOf?_eq_some_iff.mp chosen) (by simp)

theorem Literal.joined (literal : Literal cs) (after : List Char) :
    Joined (startsWithRadix cs) [] cs after := by
  have letters {letter : Char} {radix : Nat} (chooses : (letter, radix) ∈ radixLetters) :
      ScriptLens.isIdentContinue letter = true := by
    have all : ∀ choice ∈ radixLetters, ScriptLens.isIdentContinue choice.1 = true := by decide
    exact all _ chooses
  cases literal with
  | decimal decimal =>
    rw [decimal.startsWithRadix_eq_false]
    exact decimal.joined
  | based chooses digits =>
    exact joined_cons.mpr ⟨.word rfl, joined_cons.mpr
      ⟨.word (letters chooses), digits.joined (le_of_mem_radixLetters chooses)⟩⟩
  | bigBased chooses digits =>
    exact joined_cons.mpr ⟨.word rfl, joined_cons.mpr ⟨.word (letters chooses),
      joined_append.mpr ⟨digits.joined (le_of_mem_radixLetters chooses),
        joined_of_forall (List.forall_mem_singleton.mpr rfl)⟩⟩⟩

theorem Exponent.ne_nil (exponent : Exponent cs) : cs ≠ [] := by
  cases exponent with
  | unsigned digits => exact digits.ne_nil
  | signed => nofun

theorem not_endsInMark_of_not_mem (lower : 'e' ∉ cs) (upper : 'E' ∉ cs) : ¬EndsInMark cs := by
  rintro (last | last)
  · exact lower (List.mem_of_getLast? last)
  · exact upper (List.mem_of_getLast? last)

/-- A mark has an exponent behind it, so a sign that follows a complete literal is none of its. -/
theorem Decimal.not_endsInMark (decimal : Decimal cs) : ¬EndsInMark cs := by
  cases decimal with
  | big digits => simp [EndsInMark]
  | plain mantissa =>
    exact not_endsInMark_of_not_mem (mantissa.not_mem (by decide) (by decide) rfl)
      (mantissa.not_mem (by decide) (by decide) rfl)
  | @scientific significand exponent mark mantissa _ digits =>
    have last : (significand ++ mark :: exponent).getLast? = exponent.getLast? := by
      rw [List.getLast?_append_cons, List.getLast?_cons_of_ne_nil digits.ne_nil]
    rw [EndsInMark, last]
    exact not_endsInMark_of_not_mem (digits.not_mem (by decide) rfl)
      (digits.not_mem (by decide) rfl)

theorem Literal.not_endsInMark (literal : Literal cs) (decimal : startsWithRadix cs = false) :
    ¬EndsInMark cs := by
  have radix {letter : Char} {radix : Nat} {rest : List Char}
      (chooses : (letter, radix) ∈ radixLetters) :
      startsWithRadix ('0' :: letter :: rest) = true := by
    rw [startsWithRadix, radixOf?_eq_some_iff.mpr chooses]
    rfl
  cases literal with
  | decimal decimal => exact decimal.not_endsInMark
  | based chooses _ => cases (radix chooses).symm.trans decimal
  | bigBased chooses _ => cases (radix chooses).symm.trans decimal

theorem Literal.isRun (literal : Literal cs) (leaves : Leaves cs after) : IsRun cs after where
  inside := by simpa [NumericRun.Joined] using literal.joined []
  ends := by
    intro c more split joins
    cases leaves with
    | nothing => cases split
    | other letter point =>
      cases split
      cases joins with
      | word joins => cases letter.symm.trans joins
      | firstPoint _ => exact point rfl
      | pointBeforeDigit _ => exact point rfl
      | sign _ decimal mark => exact literal.not_endsInMark decimal mark
    | @member d _ inside either digit =>
      cases split
      cases joins with
      | word joins => cases joins
      | firstPoint whole =>
        obtain number | rfl := whole d inside
        · obtain rfl | letter := either
          · cases number
          · cases number.symm.trans (isDigit_eq_false_of_isAlpha letter)
        · simp at either
      | pointBeforeDigit joins => cases digit.symm.trans joins
      | sign either _ _ => simp at either

theorem Mantissa.beginsNumber (mantissa : Mantissa cs) (more : List Char) :
    beginsNumber (cs ++ more) = true := by
  cases mantissa with
  | whole digits => exact beginsNumber_of_startsWithDigit (digits.startsWithDigit more)
  | wholePoint digits =>
    rw [List.append_assoc]
    exact beginsNumber_of_startsWithDigit (digits.startsWithDigit _)
  | pointFraction digits => exact beginsNumber_cons.mpr (.inr ⟨rfl, digits.startsWithDigit more⟩)
  | wholePointFraction digits _ =>
    rw [List.append_assoc]
    exact beginsNumber_of_startsWithDigit (digits.startsWithDigit _)

theorem Literal.beginsNumber (literal : Literal cs) (more : List Char) :
    beginsNumber (cs ++ more) = true := by
  cases literal with
  | decimal decimal =>
    cases decimal with
    | big digits =>
      rw [List.append_assoc]
      exact (Mantissa.whole digits).beginsNumber _
    | plain mantissa => exact mantissa.beginsNumber more
    | scientific mantissa _ _ =>
      rw [List.append_assoc]
      exact mantissa.beginsNumber _
  | based => rfl
  | bigBased => rfl

theorem scan_literal {c : Char} {cs after : List Char} (valid : isValid (c :: cs) = true)
    (leaves : Leaves (c :: cs) after) :
    scan c (cs ++ after) = ⟨.ok .number, c :: cs, after⟩ := by
  have literal := isValid_iff.mp valid
  have run : ofText (c :: (cs ++ after)) = (c :: cs, after) :=
    (isRun_iff rfl).mp (literal.isRun leaves)
  have begins : ScriptLens.beginsNumber (c :: (cs ++ after)) = true := literal.beginsNumber after
  rw [scan_number begins, Scan.number, run]
  simp [valid]

end ScriptLens.Numeral
