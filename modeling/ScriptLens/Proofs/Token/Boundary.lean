import ScriptLens.Proofs.Token.Dispatch
import ScriptLens.Proofs.Token.Isolation

/-! # Where numeric runs end

The run that is taken where a text begins like a number has a boundary that does not mention how it
is found: every character inside joins what comes before it, and the first one behind does not.
There is only one such prefix: `isRun_iff`. -/

namespace ScriptLens.NumericRun

def IsWhole (cs : List Char) : Prop := ∀ c ∈ cs, c.isDigit = true ∨ c = '_'

def EndsInMark (cs : List Char) : Prop := cs.getLast? = some 'e' ∨ cs.getLast? = some 'E'

inductive Joins (hasRadix : Bool) (before : List Char) : Char → List Char → Prop
  | word {c : Char} {after : List Char} : isIdentContinue c = true → Joins hasRadix before c after
  | firstPoint {after : List Char} : IsWhole before → Joins hasRadix before '.' after
  | pointBeforeDigit {after : List Char} :
    startsWithDigit after = true → Joins hasRadix before '.' after
  | sign {c : Char} {after : List Char} :
    c ∈ ['+', '-'] → hasRadix = false → EndsInMark before → Joins hasRadix before c after

/-- Every character of `run` joins those before it, and the text `rest` begins with none that
does. -/
structure IsRun (run rest : List Char) : Prop where
  inside : ∀ before c after, run = before ++ c :: after → Joins (startsWithRadix run) before c after
  ends : ∀ c after, rest = c :: after → ¬Joins (startsWithRadix run) run c after

variable {hasRadix : Bool} {before after run rest : List Char} {r : NumericRun} {c : Char}

theorem Joins.mono {hasRadix' : Bool} {more : List Char} (joins : Joins hasRadix before c after)
    (radix : hasRadix' = true → hasRadix = true)
    (digit : startsWithDigit after = true → startsWithDigit more = true) :
    Joins hasRadix' before c more := by
  cases joins with
  | word letter => exact .word letter
  | firstPoint whole => exact .firstPoint whole
  | pointBeforeDigit next => exact .pointBeforeDigit (digit next)
  | sign either decimal mark =>
    refine .sign either ?_ mark
    rw [← Bool.not_eq_true] at decimal ⊢
    exact mt radix decimal

section memory

structure Remembers (r : NumericRun) (before : List Char) : Prop where
  previous : r.previous = before.getLast?
  whole : (r.seenDot = false ∧ r.seenLetter = false) ↔ IsWhole before

theorem remembers_nil (hasRadix : Bool) : Remembers ⟨hasRadix, none, false, false⟩ [] where
  previous := rfl
  whole := by simp [IsWhole]

theorem isWhole_concat :
    IsWhole (before ++ [c]) ↔ IsWhole before ∧ (c.isDigit = true ∨ c = '_') := by
  simp [IsWhole, or_imp, forall_and]

theorem EndsInMark.not_isWhole (mark : EndsInMark before) : ¬IsWhole before := by
  intro whole
  obtain lower | upper := mark
  · simpa using whole 'e' (List.mem_of_getLast? lower)
  · simpa using whole 'E' (List.mem_of_getLast? upper)

theorem Remembers.accepts_iff (remembers : r.Remembers before) :
    r.accepts c after = true ↔ Joins r.hasRadix before c after := by
  have first : (!r.seenDot && !r.seenLetter) = true ↔ IsWhole before := by
    rw [← remembers.whole, Bool.and_eq_true, Bool.not_eq_true', Bool.not_eq_true']
  have mark : (r.previous == some 'e' || r.previous == some 'E') = true ↔ EndsInMark before := by
    rw [remembers.previous, Bool.or_eq_true, beq_iff_eq, beq_iff_eq, EndsInMark]
  rw [accepts]
  split
  · rename_i point
    subst point
    rw [Bool.or_eq_true, first]
    constructor
    · rintro (whole | digit)
      · exact .firstPoint whole
      · exact .pointBeforeDigit digit
    · rintro (letter | whole | digit | ⟨either, _, _⟩)
      · cases letter
      · exact .inl whole
      · exact .inr digit
      · simp at either
  split
  · rename_i either
    rw [Bool.and_eq_true, mark, Bool.not_eq_true']
    constructor
    · rintro ⟨decimal, marks⟩
      exact .sign (by simpa using either) decimal marks
    · rintro (letter | whole | digit | ⟨_, decimal, marks⟩)
      · obtain rfl | rfl : c = '+' ∨ c = '-' := by simpa using either
        · cases letter
        · cases letter
      · simp at either
      · simp at either
      · exact ⟨decimal, marks⟩
  · rename_i point either
    constructor
    · exact .word
    · rintro (letter | whole | digit | ⟨sign, _, _⟩)
      · exact letter
      · exact absurd rfl point
      · exact absurd rfl point
      · exact absurd (by simpa using sign) either

/-- A sign that joins has a letter before it already, so it changes nothing. -/
theorem Remembers.push (remembers : r.Remembers before) (joins : Joins r.hasRadix before c after) :
    (r.push c).Remembers (before ++ [c]) where
  previous := by simp [NumericRun.push]
  whole := by
    rw [isWhole_concat, ← remembers.whole]
    cases joins with
    | word letter =>
      have point : c ≠ '.' := by
        rintro rfl
        cases letter
      cases digit : c.isDigit <;> simp [NumericRun.push, point, letter, digit, and_assoc]
    | firstPoint _ => simp [NumericRun.push]
    | pointBeforeDigit _ => simp [NumericRun.push]
    | sign either _ mark =>
      have letter := mt remembers.whole.mp mark.not_isWhole
      obtain rfl | rfl : c = '+' ∨ c = '-' := by simpa using either
      · simp_all [NumericRun.push]
      · simp_all [NumericRun.push]

end memory

section span

def Joined (hasRadix : Bool) (before run after : List Char) : Prop :=
  ∀ middle c more, run = middle ++ c :: more → Joins hasRadix (before ++ middle) c (more ++ after)

theorem joined_nil : Joined hasRadix before [] after := by
  intro middle c more split
  simp at split

theorem joined_cons : Joined hasRadix before (c :: run) after ↔
    Joins hasRadix before c (run ++ after) ∧ Joined hasRadix (before ++ [c]) run after := by
  constructor
  · intro joined
    refine ⟨by simpa using joined [] c run rfl, ?_⟩
    rintro middle d more rfl
    simpa using joined (c :: middle) d more rfl
  · rintro ⟨first, others⟩ middle d more split
    cases middle with
    | nil =>
      obtain ⟨rfl, rfl⟩ := List.cons.inj split
      simpa using first
    | cons e middle =>
      obtain ⟨rfl, rest⟩ := List.cons.inj split
      simpa using others middle d more rest

theorem joined_append {run' : List Char} : Joined hasRadix before (run ++ run') after ↔
    Joined hasRadix before run (run' ++ after) ∧ Joined hasRadix (before ++ run) run' after := by
  induction run generalizing before with
  | nil => simp [joined_nil]
  | cons c run ih => simp [joined_cons, ih, and_assoc]

theorem joined_of_forall (letters : ∀ c ∈ run, isIdentContinue c = true) :
    Joined hasRadix before run after := by
  rintro middle c more rfl
  exact .word (letters c (by simp))

theorem hasRadix_push (r : NumericRun) (c : Char) : (r.push c).hasRadix = r.hasRadix := rfl

theorem joined_span (remembers : r.Remembers before) (cs : List Char) :
    Joined r.hasRadix before (r.span cs).1 [] := by
  induction cs generalizing r before with
  | nil => exact joined_nil
  | cons c cs ih =>
    by_cases accepted : r.accepts c cs = true
    · have joins := remembers.accepts_iff.mp accepted
      rw [span_of_accepts accepted, joined_cons]
      exact ⟨joins.mono id ((r.push c).startsWithDigit_span []), ih (remembers.push joins)⟩
    · rw [span, if_neg accepted]
      exact joined_nil

theorem not_joins_span (remembers : r.Remembers before) (cs : List Char) :
    ∀ c after, (r.span cs).2 = c :: after →
      ¬Joins r.hasRadix (before ++ (r.span cs).1) c after := by
  induction cs generalizing r before with
  | nil => nofun
  | cons c cs ih =>
    by_cases accepted : r.accepts c cs = true
    · have later := ih (remembers.push (remembers.accepts_iff.mp accepted))
      rw [span_of_accepts accepted]
      simpa [hasRadix_push] using later
    · rw [span, if_neg accepted]
      rintro _ _ ⟨⟩
      rw [List.append_nil, ← remembers.accepts_iff]
      exact accepted

theorem isRun_ofText (cs : List Char) : IsRun (ofText cs).1 (ofText cs).2 := by
  have remembers := remembers_nil (startsWithRadix cs)
  have radix : startsWithRadix (ofText cs).1 = startsWithRadix cs := by
    simpa [ofText] using startsWithRadix_span _ cs breaks_nil
  constructor
  · intro before c after split
    rw [radix]
    simpa using joined_span remembers cs before c after split
  · rw [radix]
    exact not_joins_span remembers cs

end span

section unique

theorem startsWithRadix_append_of {run : List Char} (radix : startsWithRadix run = true)
    (more : List Char) : startsWithRadix (run ++ more) = true := by
  obtain ⟨c, rest, rfl, letter⟩ := startsWithRadix_iff.mp radix
  exact letter

theorem IsRun.not_longer {more : List Char} (short : IsRun run (c :: more ++ rest))
    (long : IsRun (run ++ c :: more) rest) : False := by
  have joins := long.inside run c more rfl
  apply short.ends c (more ++ rest) rfl
  apply joins.mono
  · intro radix
    exact startsWithRadix_append_of radix (c :: more)
  · intro digit
    cases more with
    | nil => cases digit
    | cons d ds => exact digit

theorem IsRun.unique {run' rest' : List Char} (first : IsRun run rest) (second : IsRun run' rest')
    (same : run ++ rest = run' ++ rest') : run = run' := by
  obtain ⟨more, rfl, rfl⟩ | ⟨more, rfl, rfl⟩ := List.append_eq_append_iff.mp same
  · cases more with
    | nil => simp
    | cons c more => exact (first.not_longer second).elim
  · cases more with
    | nil => simp
    | cons c more => exact (second.not_longer first).elim

theorem isRun_iff {cs : List Char} (split : cs = run ++ rest) :
    IsRun run rest ↔ ofText cs = (run, rest) := by
  constructor
  · intro isRun
    have whole := (ofText_append cs).trans split
    have same := (isRun_ofText cs).unique isRun whole
    rw [same] at whole
    exact Prod.ext same (List.append_cancel_left whole)
  · intro found
    have isRun := isRun_ofText cs
    rwa [found] at isRun

theorem IsRun.ne_nil {cs : List Char} (isRun : IsRun run rest) (begins : beginsNumber cs = true)
    (split : cs = run ++ rest) : run ≠ [] := by
  rintro rfl
  rw [List.nil_append] at split
  subst split
  cases cs with
  | nil => cases begins
  | cons c cs =>
    apply isRun.ends c cs rfl
    obtain digit | ⟨rfl, digit⟩ := beginsNumber_cons.mp begins
    · exact .word (isIdentContinue_of_isDigit digit)
    · exact .pointBeforeDigit digit

end unique

end ScriptLens.NumericRun
