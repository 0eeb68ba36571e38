import ScriptLens.Proofs.Token.Grammar
import ScriptLens.Text.Slice

/-! # Literals cut at offsets

A literal can be checked with nothing but cuts: prefixes and suffixes are stripped, and the text is
cut at the byte offset of the first mark of an exponent and at the first point.  Digits are then
those texts that have nothing in them that must not be there.  This comes to the same as `isValid`,
and it never cuts a character. -/

namespace ScriptLens.Numeral

open Text

variable {radix : Nat} {c : Char} {cs : List Char}

def isDoubled : List Char → Bool
  | c :: d :: cs => c = '_' && d = '_' || isDoubled (d :: cs)
  | _ => false

def isSeparated (radix : Nat) (cs : List Char) : Bool :=
  !cs.isEmpty && cs.head? != some '_' && cs.getLast? != some '_' && !isDoubled cs &&
    cs.all fun c => c = '_' || isDigitOf radix c

theorem isSeparated_iff : isSeparated radix cs = true ↔
    cs ≠ [] ∧ cs.head? ≠ some '_' ∧ cs.getLast? ≠ some '_' ∧ isDoubled cs = false ∧
      ∀ c ∈ cs, c = '_' ∨ isDigitOf radix c = true := by
  simp [isSeparated, and_assoc]

theorem isSeparated_eq (radix : Nat) (cs : List Char) :
    isSeparated radix cs = isDigitRun radix cs := by
  have other : isDigitOf radix '_' = false := rfl
  fun_induction isDigitRun radix cs with
  | case1 => rfl
  | case2 c =>
    rw [Bool.eq_iff_iff, isSeparated_iff]
    grind [isDoubled]
  | case3 c cs ih =>
    rw [Bool.eq_iff_iff, isSeparated_iff, Bool.and_eq_true, ← ih, isSeparated_iff]
    cases cs with
    | nil => simp
    | cons d ds => grind [isDoubled]
  | case4 c d cs apart ih =>
    rw [Bool.eq_iff_iff, isSeparated_iff, Bool.and_eq_true, ← ih, isSeparated_iff]
    grind [isDoubled]

section parts

def splitOnce? (mark : Char) (cs : List Char) : Option (List Char × List Char) :=
  match cs.dropWhile (· ≠ mark) with
  | [] => none
  | _ :: after => some (cs.takeWhile (· ≠ mark), after)

def isSeparatedMantissa (cs : List Char) : Bool :=
  match splitOnce? '.' cs with
  | none => isSeparated 10 cs
  | some ([], fraction) => isSeparated 10 fraction
  | some (whole, []) => isSeparated 10 whole
  | some (whole, fraction) => isSeparated 10 whole && isSeparated 10 fraction

def withoutSign : List Char → List Char
  | '+' :: cs => cs
  | '-' :: cs => cs
  | cs => cs

theorem isSeparatedMantissa_eq (cs : List Char) : isSeparatedMantissa cs = isMantissa cs := by
  rw [isSeparatedMantissa, splitOnce?, isMantissa]
  simp only [isSeparated_eq]
  cases rest : cs.dropWhile (· ≠ '.') with
  | nil =>
    have whole := List.takeWhile_append_dropWhile (p := (· ≠ '.')) (l := cs)
    rw [rest, List.append_nil] at whole
    rw [whole]
  | cons mark fraction =>
    cases whole : cs.takeWhile (· ≠ '.') with
    | nil => simp
    | cons d ds => cases fraction <;> simp

theorem isSeparated_withoutSign (cs : List Char) :
    isSeparated 10 (withoutSign cs) = isExponent cs := by
  rw [isSeparated_eq]
  fun_cases isExponent cs with
  | case1 cs => rfl
  | case2 cs => rfl
  | case3 cs plus minus => rw [withoutSign.eq_3 cs plus minus]

def isDecimalOf (mantissa : List Char) (exponent? : Option (List Char)) : Bool :=
  if exponent?.isNone && !mantissa.contains '.' && isBig mantissa then
    isSeparated 10 mantissa.dropLast
  else
    isSeparatedMantissa mantissa &&
      exponent?.all fun exponent => isSeparated 10 (withoutSign exponent)

theorem isMantissa_of_isBig (big : isBig cs = true) : isMantissa cs = false := by
  rw [Bool.eq_false_iff]
  intro found
  have none : isBig cs = false :=
    isBig_eq_false_of_not_mem ((isMantissa_iff.mp found).not_mem (by decide) (by decide) rfl)
  cases big.symm.trans none

theorem isDigitRun_dropLast_of_point (big : isBig cs = true) (point : '.' ∈ cs) :
    isDigitRun 10 cs.dropLast = false := by
  rw [Bool.eq_false_iff]
  intro found
  have digits : Digits 10 cs.dropLast := (isDigitRun_iff (by decide)).mp found
  rw [← dropLast_append_of_isBig big, List.mem_append, List.mem_singleton] at point
  exact digits.not_mem (by decide) (by decide) rfl (point.resolve_right (by decide))

theorem isDecimalOf_none (cs : List Char) :
    isDecimalOf cs none = if isBig cs then isDigitRun 10 cs.dropLast else isMantissa cs := by
  rw [isDecimalOf, isSeparated_eq, isSeparatedMantissa_eq]
  cases big : isBig cs with
  | false => simp
  | true =>
    by_cases point : '.' ∈ cs
    · simp [point, isMantissa_of_isBig big, isDigitRun_dropLast_of_point big point]
    · simp [point]

theorem isDecimalOf_some (mantissa exponent : List Char) :
    isDecimalOf mantissa (some exponent) = (isMantissa mantissa && isExponent exponent) := by
  rw [isDecimalOf, isSeparatedMantissa_eq]
  simp [isSeparated_withoutSign]

end parts

section slices

variable {p : Char → Bool} {before after : List Char}

def offset? (p : Char → Bool) : List Char → Option Nat
  | [] => none
  | c :: cs => if p c then some 0 else (offset? p cs).map (c.utf8Size + ·)

def cutAtMark? (cs : List Char) : Option (List Char × Option (List Char)) :=
  match offset? (!noMark ·) cs with
  | none => some (cs, none)
  | some offset => do
    let mantissa ← slice? cs 0 offset
    let exponent ← slice? cs (offset + 1) (byteLength cs)
    return (mantissa, some exponent)

def isDecimalAt? (cs : List Char) : Option Bool :=
  (cutAtMark? cs).map fun (mantissa, exponent?) => isDecimalOf mantissa exponent?

def isValidAt? (cs : List Char) : Option Bool :=
  match cs with
  | '0' :: c :: rest =>
    match radixOf? c with
    | some radix => do
      let digits ← slice? (c :: rest) 1 (byteLength (c :: rest))
      return isSeparated radix (if isBig digits then digits.dropLast else digits)
    | none => isDecimalAt? cs
  | _ => isDecimalAt? cs

theorem offset?_uncut (inside : ∀ d ∈ cs, p d = false) : offset? p cs = none := by
  induction cs with
  | nil => rfl
  | cons c cs ih =>
    obtain ⟨first, more⟩ := List.forall_mem_cons.mp inside
    rw [offset?, first, if_neg Bool.false_ne_true, ih more, Option.map_none]

theorem offset?_cut (inside : ∀ d ∈ before, p d = false) (mark : p c = true) :
    offset? p (before ++ c :: after) = some (byteLength before) := by
  induction before with
  | nil => rw [List.nil_append, offset?, mark, if_pos rfl, byteLength_nil]
  | cons d ds ih =>
    obtain ⟨first, more⟩ := List.forall_mem_cons.mp inside
    rw [List.cons_append, offset?, first, if_neg Bool.false_ne_true, ih more, Option.map_some,
      byteLength_cons]

theorem slices_cut (before after : List Char) (single : c.utf8Size = 1) :
    slice? (before ++ c :: after) 0 (byteLength before) = some before ∧
      slice? (before ++ c :: after) (byteLength before + 1) (byteLength (before ++ c :: after)) =
        some after := by
  constructor
  · exact slice?_eq_some_iff.mpr ⟨[], c :: after, by simp, rfl, by simp⟩
  · refine slice?_eq_some_iff.mpr ⟨before ++ [c], [], by simp, by simp [single], ?_⟩
    simp [single, Nat.add_assoc]

theorem isDecimalAt?_eq (cs : List Char) : isDecimalAt? cs = some (isDecimal cs) := by
  rw [isDecimalAt?, cutAtMark?]
  obtain inside | ⟨mantissa, mark, exponent, rfl, inside, marks⟩ := uncut_or_cut noMark cs
  · rw [offset?_uncut (by simpa using inside), isDecimal_uncut inside, ← isDecimalOf_none]
    rfl
  · have single : mark.utf8Size = 1 := by
      obtain rfl | rfl : mark = 'e' ∨ mark = 'E' := by simpa using noMark_eq_false_iff.mp marks
      · rfl
      · rfl
    obtain ⟨left, right⟩ := slices_cut mantissa exponent single
    rw [offset?_cut (by simpa using inside) (by simp [marks]), isDecimal_cut inside marks,
      ← isDecimalOf_some]
    dsimp only
    rw [left, right]
    rfl

theorem isValidAt?_eq (cs : List Char) : isValidAt? cs = some (isValid cs) := by
  fun_cases isValid cs with
  | case1 letter rest radix chosen =>
    have all : ∀ choice ∈ radixLetters, choice.1.utf8Size = 1 := by decide
    have slice := (slices_cut [] rest (all _ (radixOf?_eq_some_iff.mp chosen))).2
    rw [byteLength_nil, Nat.zero_add, List.nil_append] at slice
    rw [isValidAt?, chosen]
    dsimp only
    rw [slice, isInteger, ← isSeparated_eq]
    rfl
  | case2 letter rest unchosen =>
    rw [isValidAt?, unchosen]
    exact isDecimalAt?_eq _
  | case3 =>
    rename_i other
    rw [isValidAt?.eq_2 cs other]
    exact isDecimalAt?_eq cs

end slices

/-- A text is valid exactly if it is a literal of the grammar.  The check by cuts finds the same and
always has a character at the end of each. -/
theorem isValid_iff_literal (text : String) :
    (isValid text.toList = true ↔ Literal text.toList) ∧
      isValidAt? text.toList = some (isValid text.toList) :=
  ⟨isValid_iff, isValidAt?_eq _⟩

end ScriptLens.Numeral
