import ScriptLens.Proofs.Token.Lookahead

/-! # Lexemes taken out of their text

A scanner finds a lexeme again in another text, if nothing there goes on with it.  Nothing does at
the end of a text, and a line feed ends every token that is complete and no whitespace:
`scan_lexeme`. -/

namespace ScriptLens

def Breaks (tail : List Char) : Prop := ∀ c ∈ tail.head?, c = '\n'

theorem breaks_nil : Breaks [] := by simp [Breaks]

theorem breaks_lineFeed (tail : List Char) : Breaks ('\n' :: tail) := by simp [Breaks]

theorem Breaks.head?_ne {tail : List Char} (breaks : Breaks tail) {x : Char} (other : x ≠ '\n') :
    tail.head? ≠ some x := by
  intro head
  exact other (breaks x head)

theorem Breaks.stops {tail : List Char} (breaks : Breaks tail) {p : Char → Bool}
    (feed : p '\n' = false) : ∀ c ∈ tail.head?, p c = false := by
  intro c head
  rw [breaks c head, feed]

theorem takeWhile_taken {p : Char → Bool} {tail : List Char}
    (stops : ∀ c ∈ tail.head?, p c = false) (cs : List Char) :
    (cs.takeWhile p ++ tail).takeWhile p = cs.takeWhile p := by
  rw [List.takeWhile_append_of_pos (List.all_eq_true.mp List.all_takeWhile)]
  cases tail with
  | nil => simp
  | cons c tail => simp [stops c rfl]

theorem dropWhile_taken {p : Char → Bool} {tail : List Char}
    (stops : ∀ c ∈ tail.head?, p c = false) (cs : List Char) :
    (cs.takeWhile p ++ tail).dropWhile p = tail := by
  rw [List.dropWhile_append_of_pos (List.all_eq_true.mp List.all_takeWhile)]
  cases tail with
  | nil => rfl
  | cons c tail => simp [stops c rfl]

namespace Delimited

def EndsBefore (d : Delimited) (tail : List Char) : Prop := d.closed = true ∨ tail = []

theorem head?_taken_append {d : Delimited} {cs tail : List Char} (split : d.taken ++ d.rest = cs)
    (closing : d.closed = true → d.taken ≠ []) (ends : d.EndsBefore tail) {x : Char}
    (head : (d.taken ++ tail).head? = some x) : cs.head? = some x := by
  cases taken : d.taken with
  | nil =>
    have nothing := ends.resolve_left fun closed => closing closed taken
    rw [taken, nothing] at head
    cases head
  | cons y more =>
    rw [taken] at split head
    rw [← split]
    exact head

theorem taken_ne_nil_of_closed_blockComment {cs : List Char}
    (closed : (blockComment cs).closed = true) : (blockComment cs).taken ≠ [] := by
  fun_induction blockComment cs with
  | case1 => cases closed
  | case2 => simp
  | case3 => simp [prepend]

theorem taken_ne_nil_of_closed_quotation {mark : Char} {multiline : Bool} {cs : List Char}
    (closed : (quotation mark multiline cs).closed = true) :
    (quotation mark multiline cs).taken ≠ [] := by
  fun_induction quotation mark multiline cs with
  | case1 => cases closed
  | case2 => cases closed
  | case6 => cases closed
  | _ => simp [prepend]

theorem blockComment_taken {cs tail : List Char} (ends : (blockComment cs).EndsBefore tail) :
    blockComment ((blockComment cs).taken ++ tail) = { blockComment cs with rest := tail } := by
  fun_induction blockComment cs with
  | case1 =>
    obtain rfl := ends.resolve_left (by simp)
    rfl
  | case2 cs => rfl
  | case3 c cs other ih =>
    have later := ih ends
    have head {x : Char} := head?_taken_append (x := x) (blockComment_append cs)
      taken_ne_nil_of_closed_blockComment ends
    have step := blockComment.eq_3 c ((blockComment cs).taken ++ tail) (by
      intro more star slash
      have first := head (x := '/') (by rw [slash]; rfl)
      obtain ⟨ds, rfl⟩ := List.head?_eq_some_iff.mp first
      exact other ds star rfl)
    exact step.trans (congrArg (prepend [c]) later)

theorem quotation_taken {mark : Char} {multiline : Bool} {cs tail : List Char}
    (ends : (quotation mark multiline cs).EndsBefore tail) :
    quotation mark multiline ((quotation mark multiline cs).taken ++ tail) =
      { quotation mark multiline cs with rest := tail } := by
  fun_induction quotation mark multiline cs with
  | case1 =>
    obtain rfl := ends.resolve_left (by simp)
    rfl
  | case2 =>
    obtain rfl := ends.resolve_left (by simp)
    rfl
  | case3 cs ih => exact congrArg (prepend ['\\', '\r', '\n']) (ih ends)
  | case4 c cs single ih =>
    have later := ih ends
    have head {x : Char} := head?_taken_append (x := x) (quotation_append mark multiline cs)
      taken_ne_nil_of_closed_quotation ends
    have step := quotation.eq_4 mark multiline c ((quotation mark multiline cs).taken ++ tail) (by
      intro more return_ feed
      have first := head (x := '\n') (by rw [feed]; rfl)
      obtain ⟨ds, rfl⟩ := List.head?_eq_some_iff.mp first
      exact single ds return_ rfl)
    exact step.trans (congrArg (prepend ['\\', c]) later)
  | case5 cs last _ escape =>
    have plain := not_backslash last escape
    exact (quotation_cons mark multiline tail plain).trans (if_pos rfl)
  | case6 c cs last _ escape other stops =>
    obtain rfl := ends.resolve_left (by simp)
    rfl
  | case7 c cs last _ escape other inside ih =>
    have plain := not_backslash last escape
    have step := quotation_cons mark multiline ((quotation mark multiline cs).taken ++ tail) plain
    rw [if_neg other, if_neg inside] at step
    exact step.trans (congrArg (prepend [c]) (ih ends))

end Delimited

theorem Breaks.startsWithDigit {tail : List Char} (breaks : Breaks tail) :
    startsWithDigit tail = false := by
  cases tail with
  | nil => rfl
  | cons c tail =>
    rw [breaks c rfl]
    rfl

namespace NumericRun

theorem accepts_lineFeed (r : NumericRun) (next : List Char) : r.accepts '\n' next = false := by
  have other : isIdentContinue '\n' = false := by decide
  simp [accepts, other]

theorem accepts_of_radixOf? (r : NumericRun) {c : Char} (radix : (Numeral.radixOf? c).isSome)
    (next : List Char) : r.accepts c next = true := by
  have letters : c = 'x' ∨ c = 'X' ∨ c = 'o' ∨ c = 'O' ∨ c = 'b' ∨ c = 'B' := by
    grind [Numeral.radixOf?]
  rcases letters with rfl | rfl | rfl | rfl | rfl | rfl <;> rfl

theorem startsWithRadix_iff {cs : List Char} :
    startsWithRadix cs = true ↔
      ∃ c rest, cs = '0' :: c :: rest ∧ (Numeral.radixOf? c).isSome := by
  constructor
  · intro radix
    unfold startsWithRadix at radix
    split at radix
    · exact ⟨_, _, rfl, radix⟩
    · cases radix
  · rintro ⟨c, rest, rfl, radix⟩
    exact radix

theorem span_of_breaks (r : NumericRun) {tail : List Char} (breaks : Breaks tail) :
    r.span tail = ([], tail) := by
  cases tail with
  | nil => rfl
  | cons c tail =>
    rw [breaks c rfl, span, if_neg (by simp [accepts_lineFeed])]

theorem span_of_accepts {r : NumericRun} {c : Char} {cs : List Char}
    (joins : r.accepts c cs = true) :
    r.span (c :: cs) = (c :: ((r.push c).span cs).1, ((r.push c).span cs).2) := by
  rw [span, if_pos joins]

theorem startsWithDigit_span (r : NumericRun) {cs : List Char} (tail : List Char)
    (digit : startsWithDigit cs = true) : startsWithDigit ((r.span cs).1 ++ tail) = true := by
  cases cs with
  | nil => cases digit
  | cons c cs =>
    rw [span_of_accepts (r.accepts_digit digit cs)]
    exact digit

theorem accepts_span {r r' : NumericRun} {c : Char} {cs : List Char} (tail : List Char)
    (joins : r.accepts c cs = true) : r.accepts c ((r'.span cs).1 ++ tail) = true := by
  unfold accepts at joins ⊢
  split
  · rw [if_pos (by assumption), Bool.or_eq_true] at joins
    rw [Bool.or_eq_true]
    exact joins.imp_right (r'.startsWithDigit_span tail)
  · rwa [if_neg (by assumption)] at joins

theorem span_taken (r : NumericRun) (cs : List Char) {tail : List Char} (breaks : Breaks tail) :
    r.span ((r.span cs).1 ++ tail) = ((r.span cs).1, tail) := by
  induction cs generalizing r with
  | nil => exact r.span_of_breaks breaks
  | cons c cs ih =>
    by_cases joins : r.accepts c cs = true
    · rw [span_of_accepts joins, List.cons_append, span_of_accepts (accepts_span tail joins), ih]
    · rw [span, if_neg joins]
      exact r.span_of_breaks breaks

theorem startsWithRadix_span (r : NumericRun) (cs : List Char) {tail : List Char}
    (breaks : Breaks tail) : startsWithRadix ((r.span cs).1 ++ tail) = startsWithRadix cs := by
  rw [Bool.eq_iff_iff]
  constructor
  · intro radix
    obtain ⟨c, rest, begins, isRadix⟩ := startsWithRadix_iff.mp radix
    have split := r.span_append cs
    rw [startsWithRadix_iff]
    cases run : (r.span cs).1 with
    | nil =>
      rw [run, List.nil_append] at begins
      exact absurd (breaks '0' (by simp [begins])) (by decide)
    | cons d more =>
      rw [run] at begins split
      cases more with
      | nil =>
        simp only [List.cons_append, List.nil_append, List.cons.injEq] at begins
        obtain rfl := breaks c (by simp [begins])
        cases isRadix
      | cons e more =>
        simp only [List.cons_append, List.cons.injEq] at begins split
        obtain ⟨rfl, rfl, _⟩ := begins
        exact ⟨e, more ++ (r.span cs).2, split.symm, isRadix⟩
  · intro radix
    obtain ⟨c, rest, rfl, isRadix⟩ := startsWithRadix_iff.mp radix
    rw [span_of_accepts (r.accepts_digit rfl _), span_of_accepts (accepts_of_radixOf? _ isRadix _)]
    exact isRadix

theorem ofText_taken (cs : List Char) {tail : List Char} (breaks : Breaks tail) :
    ofText ((ofText cs).1 ++ tail) = ((ofText cs).1, tail) := by
  rw [ofText, ofText, startsWithRadix_span _ cs breaks]
  exact span_taken _ cs breaks

end NumericRun

namespace Operator

def Settles (length? : List Char → Option Nat) (cs : List Char) : Prop :=
  ∀ n, length? cs = some n →
    n ≤ cs.length ∧ ∀ tail, Breaks tail → length? (cs.take n ++ tail) = some n

theorem optional_le_length (x : Char) (cs : List Char) : optional x cs ≤ cs.length := by
  cases cs with
  | nil => exact Nat.le_refl 0
  | cons c cs => exact Nat.le_trans (optional_le_one x (c :: cs)) (Nat.succ_pos _)

theorem optional_of_breaks {x : Char} {tail : List Char} (breaks : Breaks tail)
    (other : x ≠ '\n') : optional x tail = 0 := by
  rw [optional, if_neg (breaks.head?_ne other)]

theorem optional_taken {x : Char} {tail : List Char} (cs : List Char) (n : Nat)
    (breaks : Breaks tail) (other : x ≠ '\n') :
    optional x (cs.take n ++ tail) = if n = 0 then 0 else optional x cs := by
  cases n with
  | zero => exact optional_of_breaks breaks other
  | succ n =>
    cases cs with
    | nil => exact optional_of_breaks breaks other
    | cons c cs => rfl

theorem settles_zero (cs : List Char) : Settles (fun _ => some 0) cs := by
  intro n found
  obtain rfl := Option.some.inj found
  exact ⟨Nat.zero_le _, fun _ _ => rfl⟩

theorem settles_optional {x : Char} (other : x ≠ '\n') (cs : List Char) :
    Settles (fun ds => some (optional x ds)) cs := by
  intro n found
  obtain rfl := Option.some.inj found
  refine ⟨optional_le_length x cs, ?_⟩
  intro tail breaks
  simp only [optional_taken cs _ breaks other]
  split
  · exact congrArg some (Eq.symm ‹_›)
  · rfl

theorem settles_max {x y : Char} (other : x ≠ '\n') (other' : y ≠ '\n') (cs : List Char) :
    Settles (fun ds => some (max (optional x ds) (optional y ds))) cs := by
  intro n found
  obtain rfl := Option.some.inj found
  refine ⟨Nat.max_le.mpr ⟨optional_le_length x cs, optional_le_length y cs⟩, ?_⟩
  intro tail breaks
  simp only [optional_taken cs _ breaks other, optional_taken cs _ breaks other']
  split
  · rw [Nat.max_self, ‹max _ _ = 0›]
  · rfl

theorem head?_taken_ne {cs tail : List Char} {x : Char} (n : Nat) (breaks : Breaks tail)
    (other : x ≠ '\n') (head : cs.head? ≠ some x) : (cs.take n ++ tail).head? ≠ some x := by
  cases cs with
  | nil => simpa using breaks.head?_ne other
  | cons c cs =>
    cases n with
    | zero => exact breaks.head?_ne other
    | succ n => exact head

theorem settles_branch {x : Char} {more : List Char → Nat} {others : List Char → Option Nat}
    {cs : List Char} (other : x ≠ '\n') (then_ : ∀ ds, Settles (fun es => some (more es)) ds)
    (else_ : Settles others cs) :
    Settles (fun ds => if ds.head? = some x then some (1 + more (ds.drop 1)) else others ds)
      cs := by
  intro n found
  by_cases head : cs.head? = some x
  · simp only [if_pos head] at found
    obtain rfl := Option.some.inj found
    obtain ⟨ds, rfl⟩ := List.head?_eq_some_iff.mp head
    obtain ⟨inside, again⟩ := then_ ds (more ds) rfl
    constructor
    · simpa [Nat.add_comm] using inside
    · intro tail breaks
      simp [Nat.add_comm 1, Option.some.inj (again tail breaks)]
  · simp only [if_neg head] at found
    obtain ⟨inside, again⟩ := else_ n found
    refine ⟨inside, ?_⟩
    intro tail breaks
    simp only [if_neg (head?_taken_ne n breaks other head), again tail breaks]

theorem doubledThenEquals_eq_some (x : Char) (cs : List Char) :
    some (doubledThenEquals x cs) =
      if cs.head? = some x then some (1 + optional '=' (cs.drop 1))
      else some (optional '=' cs) := by
  by_cases head : cs.head? = some x
  · simp [doubledThenEquals, optional, head]
  · simp [doubledThenEquals, optional, head]

theorem settles_doubledThenEquals {x : Char} (other : x ≠ '\n') (cs : List Char) :
    Settles (fun ds => some (doubledThenEquals x ds)) cs := by
  simp only [doubledThenEquals_eq_some]
  exact settles_branch other (settles_optional (by decide)) (settles_optional (by decide) cs)

theorem settles_chain (cs : List Char) :
    Settles (fun ds => if ds.head? = some '.' && !startsWithDigit (ds.drop 1) then some 1
      else some 0) cs := by
  intro n found
  dsimp only at found ⊢
  split at found
  · rename_i chain
    obtain rfl := Option.some.inj found
    rw [Bool.and_eq_true, decide_eq_true_eq] at chain
    obtain ⟨ds, rfl⟩ := List.head?_eq_some_iff.mp chain.1
    refine ⟨Nat.succ_pos _, ?_⟩
    intro tail breaks
    rw [if_pos]
    simp [breaks.startsWithDigit]
  · obtain rfl := Option.some.inj found
    refine ⟨Nat.zero_le _, ?_⟩
    intro tail breaks
    rw [if_neg]
    simp [breaks.head?_ne (by decide : '.' ≠ '\n')]

theorem settles_tailLength? (c : Char) (cs : List Char) : Settles (tailLength? c) cs := by
  intro n found
  unfold tailLength? at found ⊢
  split at found
  case h_1 | h_2 => exact settles_max (by decide) (by decide) cs n found
  case h_3 | h_8 | h_10 | h_11 => exact settles_doubledThenEquals (by decide) cs n found
  case h_4 | h_5 | h_12 => exact settles_optional (by decide) cs n found
  case h_6 =>
    exact settles_branch (by decide) (settles_optional (by decide))
      (settles_optional (by decide) cs) n found
  case h_7 =>
    exact settles_branch (by decide) (settles_optional (by decide)) (settles_zero cs) n found
  case h_9 =>
    exact settles_branch (by decide) (settles_doubledThenEquals (by decide))
      (settles_optional (by decide) cs) n found
  case h_13 =>
    exact settles_branch (by decide) (settles_optional (by decide)) (settles_chain cs) n found
  case h_14 => exact settles_zero cs n found
  case h_15 => cases found

theorem tailLength?_eq_none {c : Char} {cs : List Char} (nothing : tailLength? c cs = none)
    (ds : List Char) : tailLength? c ds = none := by
  unfold tailLength? at nothing ⊢
  split at nothing
  case h_6 | h_7 | h_9 => split at nothing <;> cases nothing
  case h_13 =>
    split at nothing
    · cases nothing
    · split at nothing <;> cases nothing
  case h_15 => rfl
  all_goals cases nothing

end Operator

namespace Scan

def withRest (s : Scan) (tail : List Char) : Scan := { s with rest := tail }

def EndsBefore (s : Scan) (tail : List Char) : Prop :=
  tail = [] ∨ Breaks tail ∧ s.kind ≠ .whitespace ∧ s.kind ≠ .error

variable {c : Char} {cs tail : List Char} {s : Scan}

theorem EndsBefore.breaks (ends : s.EndsBefore tail) : Breaks tail := by
  obtain rfl | ⟨breaks, _⟩ := ends
  · exact breaks_nil
  · exact breaks

theorem EndsBefore.closed {opening : List Char} {kind : TokenKind} {fault : LexFault}
    {d : Delimited} (ends : (ofDelimited opening kind fault d).EndsBefore tail) :
    d.EndsBefore tail := by
  obtain rfl | ⟨_, _, proper⟩ := ends
  · exact .inr rfl
  · left
    cases closed : d.closed with
    | true => rfl
    | false => simp [ofDelimited, Scan.kind, closed] at proper

/-- Behind its first character, the scanner finds the lexeme it found in `cs` again wherever that
lexeme ends. -/
def FindsAgain (find : List Char → Scan) (cs : List Char) : Prop :=
  ∀ tail, (find cs).EndsBefore tail →
    find ((find cs).lexeme.tail ++ tail) = (find cs).withRest tail

theorem FindsAgain.ite {p : Prop} [Decidable p] {yes no : List Char → Scan}
    (then_ : p → FindsAgain yes cs) (else_ : ¬p → FindsAgain no cs) :
    FindsAgain (fun ds => if p then yes ds else no ds) cs := by
  by_cases cond : p
  · simpa only [if_pos cond] using then_ cond
  · simpa only [if_neg cond] using else_ cond

theorem findsAgain_whitespace (c : Char) (cs : List Char) :
    FindsAgain (fun ds => ⟨.ok .whitespace, c :: ds.takeWhile isWhitespace,
      ds.dropWhile isWhitespace⟩) cs := by
  intro tail ends
  obtain rfl := ends.resolve_right fun more => more.2.1 rfl
  have stops : ∀ c ∈ ([] : List Char).head?, isWhitespace c = false := by simp
  simp only [List.tail_cons, takeWhile_taken stops, dropWhile_taken stops, withRest]

theorem findsAgain_ofDelimited (c : Char) {kind : TokenKind} {fault : LexFault}
    {read : List Char → Delimited} {cs : List Char}
    (taken : ∀ tail, (read cs).EndsBefore tail →
      read ((read cs).taken ++ tail) = { read cs with rest := tail }) :
    FindsAgain (fun ds => ofDelimited [c] kind fault (read ds)) cs := by
  intro tail ends
  have again := taken tail ends.closed
  simp only [ofDelimited, List.singleton_append, List.tail_cons, again, withRest]

theorem findsAgain_slash (cs : List Char) : FindsAgain slash cs := by
  intro tail ends
  unfold slash at ends
  split at ends
  · rename_i cs
    have stops := ends.breaks.stops (p := (!isLineTerminator ·)) (by decide)
    simp only [slash, List.tail_cons, List.cons_append, takeWhile_taken stops,
      dropWhile_taken stops, withRest]
  · rename_i cs
    have again := Delimited.blockComment_taken ends.closed
    simp [slash, ofDelimited, again, withRest]
  · rfl
  · rename_i comment block equals
    have apart {x : Char} (other : x ≠ '\n') : ∀ ds, tail = x :: ds → False := by
      intro ds begins
      exact ends.breaks.head?_ne other (by rw [begins]; rfl)
    rw [slash.eq_4 cs comment block equals]
    exact slash.eq_4 tail (apart (by decide)) (apart (by decide)) (apart (by decide))

theorem findsAgain_number {c : Char} {cs : List Char}
    (begins : (c.isDigit || (c = '.' && startsWithDigit cs)) = true) :
    FindsAgain (fun ds => number (c :: ds)) cs := by
  intro tail ends
  have run := NumericRun.ofText_taken (c :: cs) ends.breaks
  obtain ⟨more, lexeme⟩ := number_lexeme begins
  have taken : (NumericRun.ofText (c :: cs)).1 = c :: more := lexeme
  rw [taken, List.cons_append] at run
  simp only [lexeme, List.tail_cons]
  simp only [number, run, taken, withRest]

theorem findsAgain_word (c : Char) (cs : List Char) : FindsAgain (word c) cs := by
  intro tail ends
  have stops := ends.breaks.stops (p := isIdentContinue) (by decide)
  simp only [word, List.tail_cons, takeWhile_taken stops, dropWhile_taken stops, withRest]

theorem findsAgain_operator (c : Char) (cs : List Char) : FindsAgain (operator c) cs := by
  intro tail ends
  cases found : Operator.tailLength? c cs with
  | none =>
    have nothing := Operator.tailLength?_eq_none found tail
    simp [operator, found, nothing, withRest]
  | some n =>
    obtain ⟨inside, again⟩ := Operator.settles_tailLength? c cs n found
    have whole : (cs.take n).length = n := by
      rw [List.length_take, Nat.min_eq_left inside]
    simp only [operator, found, List.tail_cons, again tail ends.breaks, withRest]
    rw [List.take_left' whole, List.drop_left' whole]

theorem startsWithDigit_number {cs : List Char} (tail : List Char)
    (digit : startsWithDigit cs = true) :
    startsWithDigit ((number ('.' :: cs)).lexeme.tail ++ tail) = true := by
  have joins : (NumericRun.mk (NumericRun.startsWithRadix ('.' :: cs)) none false false).accepts
      '.' cs = true := rfl
  rw [number, NumericRun.ofText, NumericRun.span_of_accepts joins]
  exact NumericRun.startsWithDigit_span _ tail digit

theorem findsAgain_dot (cs : List Char) :
    FindsAgain (fun ds =>
      if startsWithDigit ds then number ('.' :: ds) else ⟨.ok .punctuation, ['.'], ds⟩) cs := by
  intro tail ends
  by_cases fraction : startsWithDigit cs = true
  · simp only [if_pos fraction] at ends ⊢
    rw [if_pos (startsWithDigit_number tail fraction)]
    exact findsAgain_number (c := '.') (by simpa using fraction) tail ends
  · simp only [if_neg fraction] at ends ⊢
    rw [if_neg (by simp [ends.breaks.startsWithDigit])]
    rfl

theorem findsAgain_scan (c : Char) (cs : List Char) : FindsAgain (scan c) cs := by
  unfold scan
  refine .ite (fun _ => findsAgain_whitespace c cs) fun _ => ?_
  refine .ite (fun _ => findsAgain_slash cs) fun _ => ?_
  refine .ite (fun _ => findsAgain_ofDelimited c fun _ => Delimited.quotation_taken) fun _ => ?_
  refine .ite (fun _ => findsAgain_ofDelimited c fun _ => Delimited.quotation_taken) fun _ => ?_
  -- This condition depends on the text, so `ite` does not apply, but it does only for a dot.
  by_cases digit : c.isDigit = true
  · simp only [digit, Bool.true_or, if_true]
    exact findsAgain_number (by simp [digit])
  by_cases dot : c = '.'
  · subst dot
    exact findsAgain_dot cs
  simp only [digit, dot, decide_false, Bool.false_and, Bool.or_self, Bool.false_eq_true, if_false]
  refine .ite (fun _ => findsAgain_word c cs) fun _ => ?_
  refine .ite (fun _ _ _ => rfl) fun _ => ?_
  exact findsAgain_operator c cs

end Scan

/-- A lexeme is found again, with the same outcome, in any text in which it ends where it did. -/
theorem scan_lexeme {c : Char} {cs more tail : List Char} (lexeme : (scan c cs).lexeme = c :: more)
    (ends : (scan c cs).EndsBefore tail) : scan c (more ++ tail) = (scan c cs).withRest tail := by
  have again := Scan.findsAgain_scan c cs tail ends
  rwa [lexeme] at again

end ScriptLens
