import ScriptLens.Token.Scan

namespace ScriptLens

namespace Delimited

def extend (d : Delimited) (more : List Char) : Delimited := { d with rest := d.rest ++ more }

theorem extend_prepend (d : Delimited) (cs more : List Char) :
    (d.prepend cs).extend more = (d.extend more).prepend cs := rfl

theorem blockComment_extend {cs : List Char} (more : List Char)
    (goes : (blockComment cs).rest ≠ []) :
    blockComment (cs ++ more) = (blockComment cs).extend more := by
  fun_induction blockComment cs with
  | case1 => exact absurd rfl goes
  | case2 cs => rfl
  | case3 c cs other ih =>
    have later := ih goes
    cases cs with
    | nil => exact absurd rfl goes
    | cons d ds =>
      rw [extend_prepend, ← later]
      exact blockComment.eq_3 c (d :: ds ++ more) (by
        intro tail star slash
        obtain ⟨rfl, rfl⟩ := List.cons.inj slash
        exact other ds star rfl)

theorem not_backslash {c : Char} {cs : List Char} (last : c = '\\' → cs = [] → False)
    (escape : ∀ d ds, c = '\\' → cs = d :: ds → False) : c ≠ '\\' := by
  intro backslash
  cases cs with
  | nil => exact last backslash rfl
  | cons d ds => exact escape d ds backslash rfl

theorem quotation_cons (mark : Char) (multiline : Bool) {c : Char} (cs : List Char)
    (plain : c ≠ '\\') :
    quotation mark multiline (c :: cs) =
      if c = mark then ⟨true, [c], cs⟩
      else if !multiline && isLineTerminator c then ⟨false, [], c :: cs⟩
      else (quotation mark multiline cs).prepend [c] :=
  quotation.eq_5 mark multiline c cs (fun last _ => plain last) (fun _ first _ => plain first)
    (fun _ _ first _ => plain first)

theorem quotation_escape (mark : Char) (multiline : Bool) {c d : Char} (cs : List Char)
    (single : ¬(c = '\r' ∧ d = '\n')) :
    quotation mark multiline ('\\' :: c :: d :: cs) =
      (quotation mark multiline (d :: cs)).prepend ['\\', c] :=
  quotation.eq_4 mark multiline c (d :: cs) fun _ return_ feed =>
    single ⟨return_, (List.cons.inj feed).1⟩

theorem quotation_extend {mark : Char} {multiline : Bool} {cs : List Char} (more : List Char)
    (goes : (quotation mark multiline cs).rest ≠ []) :
    quotation mark multiline (cs ++ more) = (quotation mark multiline cs).extend more := by
  fun_induction quotation mark multiline cs with
  | case1 => exact absurd rfl goes
  | case2 => exact absurd rfl goes
  | case3 cs ih =>
    rw [extend_prepend, ← ih goes]
    exact quotation.eq_3 mark multiline (cs ++ more)
  | case4 c cs single ih =>
    rw [extend_prepend, ← ih goes]
    cases cs with
    | nil => exact absurd rfl goes
    | cons d ds =>
      exact quotation_escape mark multiline (ds ++ more) fun ⟨return_, feed⟩ =>
        single ds return_ (by rw [feed])
  | case5 cs last _ escape =>
    have plain := not_backslash last escape
    rw [List.cons_append, quotation_cons mark multiline (cs ++ more) plain, if_pos rfl]
    rfl
  | case6 c cs last _ escape other ends =>
    have plain := not_backslash last escape
    rw [List.cons_append, quotation_cons mark multiline (cs ++ more) plain, if_neg other,
      if_pos ends]
    rfl
  | case7 c cs last _ escape other inside ih =>
    have plain := not_backslash last escape
    rw [List.cons_append, quotation_cons mark multiline (cs ++ more) plain, if_neg other,
      if_neg inside, ih goes]
    rfl

end Delimited

theorem startsWithDigit_append {cs : List Char} (more : List Char) (goes : cs ≠ []) :
    startsWithDigit (cs ++ more) = startsWithDigit cs := by
  cases cs with
  | nil => exact absurd rfl goes
  | cons c cs => rfl

namespace NumericRun

theorem accepts_append (r : NumericRun) (c : Char) {next : List Char} (more : List Char)
    (goes : next ≠ []) : r.accepts c (next ++ more) = r.accepts c next := by
  rw [accepts, accepts, startsWithDigit_append more goes]

theorem startsWithRadix_append (c : Char) {cs : List Char} (more : List Char) (goes : cs ≠ []) :
    startsWithRadix (c :: cs ++ more) = startsWithRadix (c :: cs) := by
  cases cs with
  | nil => exact absurd rfl goes
  | cons d ds =>
    by_cases zero : c = '0'
    · rw [zero]
      rfl
    · simp [startsWithRadix, zero]

theorem span_extend (r : NumericRun) {cs : List Char} (more : List Char)
    (room : 2 ≤ (r.span cs).2.length) :
    r.span (cs ++ more) = ((r.span cs).1, (r.span cs).2 ++ more) := by
  induction cs generalizing r with
  | nil => simp [span] at room
  | cons c cs ih =>
    -- A dot joins the run or not by the character behind it, so that one has to be there.
    have goes : cs ≠ [] := by
      rintro rfl
      rw [span] at room
      split at room <;> simp [span] at room
    rw [List.cons_append, span, span, r.accepts_append c more goes]
    by_cases joins : r.accepts c cs = true
    · rw [span, if_pos joins] at room
      rw [if_pos joins, if_pos joins, ih (r.push c) room]
    · rw [if_neg joins, if_neg joins]
      rfl

theorem ofText_extend (c : Char) {cs : List Char} (more : List Char) (goes : cs ≠ [])
    (room : 2 ≤ (ofText (c :: cs)).2.length) :
    ofText (c :: cs ++ more) = ((ofText (c :: cs)).1, (ofText (c :: cs)).2 ++ more) := by
  rw [ofText, startsWithRadix_append c more goes]
  exact span_extend _ more room

end NumericRun

namespace Operator

theorem optional_le_one (x : Char) (cs : List Char) : optional x cs ≤ 1 := by
  rw [optional]
  split
  · exact Nat.le_refl 1
  · exact Nat.zero_le 1

theorem optional_append (x : Char) {cs : List Char} (more : List Char) (goes : cs ≠ []) :
    optional x (cs ++ more) = optional x cs := by
  cases cs with
  | nil => exact absurd rfl goes
  | cons c cs => rfl

theorem doubledThenEquals_append (x : Char) {cs : List Char} (more : List Char)
    (room : 2 ≤ cs.length) : doubledThenEquals x (cs ++ more) = doubledThenEquals x cs := by
  have small := optional_le_one x cs
  have goes : cs ≠ [] := List.ne_nil_of_length_pos (Nat.lt_of_lt_of_le Nat.zero_lt_two room)
  have left : cs.drop (optional x cs) ≠ [] := by
    apply List.ne_nil_of_length_pos
    rw [List.length_drop]
    omega
  rw [doubledThenEquals, doubledThenEquals, optional_append x more goes,
    List.drop_append_of_le_length (by omega), optional_append '=' more left]

theorem tailLength?_append (c : Char) {cs : List Char} (more : List Char) (room : 2 ≤ cs.length)
    (behind : ∀ n, tailLength? c cs = some n → n + 2 ≤ cs.length) :
    tailLength? c (cs ++ more) = tailLength? c cs := by
  have goes : cs ≠ [] := List.ne_nil_of_length_pos (Nat.lt_of_lt_of_le Nat.zero_lt_two room)
  have left : cs.drop 1 ≠ [] := by
    apply List.ne_nil_of_length_pos
    rw [List.length_drop]
    exact Nat.sub_pos_of_lt room
  have head : (cs ++ more).head? = cs.head? := by
    rw [List.head?_append, List.head?_eq_some_head goes, Option.some_or]
  have tail : (cs ++ more).drop 1 = cs.drop 1 ++ more :=
    List.drop_append_of_le_length (Nat.le_of_succ_le room)
  have first := fun x => optional_append x more goes
  have second := fun x => optional_append x more left
  have double := fun x => doubledThenEquals_append x more room
  have digit := startsWithDigit_append more left
  unfold tailLength? at behind ⊢
  split
  case h_9 =>
    rw [head, tail, first]
    by_cases shifts : cs.head? = some '>'
    · have goesOn := behind (1 + doubledThenEquals '>' (cs.drop 1)) (if_pos shifts)
      have room' : 2 ≤ (cs.drop 1).length := by
        rw [List.length_drop]
        omega
      rw [doubledThenEquals_append '>' more room']
    · rw [if_neg shifts, if_neg shifts]
  all_goals simp only [head, tail, first, second, double, digit]

end Operator

namespace Scan

def extend (s : Scan) (more : List Char) : Scan := { s with rest := s.rest ++ more }

theorem rest_extend (s : Scan) (more : List Char) :
    (s.extend more).rest = s.rest ++ more := rfl

theorem run_append (finding : List Char → Except LexFault TokenKind) (opening : List Char)
    (p : Char → Bool) {cs : List Char} (more : List Char) (stop : cs.dropWhile p ≠ []) :
    Scan.mk (finding ((cs ++ more).takeWhile p)) (opening ++ (cs ++ more).takeWhile p)
        ((cs ++ more).dropWhile p) =
      (Scan.mk (finding (cs.takeWhile p)) (opening ++ cs.takeWhile p)
        (cs.dropWhile p)).extend more := by
  have whole := congrArg List.length (List.takeWhile_append_dropWhile (p := p) (l := cs))
  have positive := List.length_pos_iff.mpr stop
  rw [List.length_append] at whole
  rw [List.takeWhile_append, if_neg (by omega), List.dropWhile_append,
    if_neg (by rwa [List.isEmpty_iff])]
  rfl

theorem quotation_extend {mark : Char} {multiline : Bool} {cs opening : List Char}
    {kind : TokenKind} {fault : LexFault} (more : List Char)
    (goes : (ofDelimited opening kind fault (.quotation mark multiline cs)).rest ≠ []) :
    ofDelimited opening kind fault (.quotation mark multiline (cs ++ more)) =
      (ofDelimited opening kind fault (.quotation mark multiline cs)).extend more := by
  rw [Delimited.quotation_extend more goes]
  rfl

theorem ne_nil_of_room {s : Scan} (room : 2 ≤ s.rest.length) : s.rest ≠ [] :=
  List.ne_nil_of_length_pos (Nat.lt_of_lt_of_le Nat.zero_lt_two room)

theorem slash_extend {cs : List Char} (more : List Char) (goes : (slash cs).rest ≠ []) :
    slash (cs ++ more) = (slash cs).extend more := by
  unfold slash at goes
  split at goes
  · exact run_append (fun _ => .ok .comment) ['/', '/'] _ more goes
  · rename_i cs
    rw [List.cons_append, slash, slash, Delimited.blockComment_extend more goes]
    rfl
  · rfl
  · rename_i comment block equals
    cases cs with
    | nil => exact absurd rfl goes
    | cons c cs =>
      have same : ∀ {d ds}, c :: cs ++ more = d :: ds → c :: cs = d :: cs := by
        intro d ds split
        rw [(List.cons.inj split).1]
      rw [slash.eq_4 (c :: cs) comment block equals]
      exact slash.eq_4 (c :: cs ++ more) (fun ds split => comment cs (same split))
        (fun ds split => block cs (same split)) (fun ds split => equals cs (same split))

theorem number_extend (c : Char) {cs : List Char} (more : List Char) (goes : cs ≠ [])
    (room : 2 ≤ (number (c :: cs)).rest.length) :
    number (c :: cs ++ more) = (number (c :: cs)).extend more := by
  rw [number, NumericRun.ofText_extend c more goes room]
  rfl

theorem word_extend (c : Char) {cs : List Char} (more : List Char)
    (goes : (word c cs).rest ≠ []) : word c (cs ++ more) = (word c cs).extend more :=
  run_append (fun letters =>
    .ok (if isKeyword (String.ofList (c :: letters)) then .keyword else .identifier)) [c] _ more goes

theorem operator_extend (c : Char) {cs : List Char} (more : List Char)
    (room : 2 ≤ (operator c cs).rest.length) :
    operator c (cs ++ more) = (operator c cs).extend more := by
  unfold operator at room
  split at room
  · rename_i n found
    have behind : n + 2 ≤ cs.length := by
      rw [List.length_drop] at room
      omega
    have stays := Operator.tailLength?_append c more (Nat.le_of_add_left_le behind) (by
      intro m found'
      rw [found] at found'
      rwa [← Option.some.inj found'])
    rw [operator, operator, stays, found]
    simp only [extend]
    rw [List.take_append_of_le_length (by omega), List.drop_append_of_le_length (by omega)]
  · rename_i found
    have stays := Operator.tailLength?_append c more room (by
      intro n found'
      rw [found] at found'
      cases found')
    rw [operator, operator, stays, found]
    rfl

theorem ite_extend {p : Prop} [Decidable p] {more : List Char} {yes no yes' no' : Scan}
    (then_ : 2 ≤ yes.rest.length → yes' = yes.extend more)
    (else_ : 2 ≤ no.rest.length → no' = no.extend more)
    (room : 2 ≤ (if p then yes else no).rest.length) :
    (if p then yes' else no') = (if p then yes else no).extend more := by
  by_cases cond : p
  · rw [if_pos cond] at room
    rw [if_pos cond, if_pos cond, then_ room]
  · rw [if_neg cond] at room
    rw [if_neg cond, if_neg cond, else_ room]

end Scan

/-- A token with two characters behind it stays as it is, whatever comes after these two. -/
theorem scan_extend (c : Char) {cs : List Char} (more : List Char)
    (room : 2 ≤ (scan c cs).rest.length) : scan c (cs ++ more) = (scan c cs).extend more := by
  have goes : cs ≠ [] :=
    List.ne_nil_of_length_pos (Nat.lt_of_lt_of_le Nat.zero_lt_two
      (Nat.le_trans room (length_rest_scan c cs)))
  unfold scan at room ⊢
  rw [startsWithDigit_append more goes]
  apply Scan.ite_extend _ _ room
  · intro room
    exact Scan.run_append (fun _ => .ok .whitespace) [c] _ more (Scan.ne_nil_of_room room)
  apply Scan.ite_extend
  · intro room
    exact Scan.slash_extend more (Scan.ne_nil_of_room room)
  apply Scan.ite_extend
  · intro room
    exact Scan.quotation_extend more (Scan.ne_nil_of_room room)
  apply Scan.ite_extend
  · intro room
    exact Scan.quotation_extend more (Scan.ne_nil_of_room room)
  apply Scan.ite_extend
  · intro room
    exact Scan.number_extend c more goes room
  apply Scan.ite_extend
  · intro room
    exact Scan.word_extend c more (Scan.ne_nil_of_room room)
  apply Scan.ite_extend
  · intro _
    rfl
  · intro room
    exact Scan.operator_extend c more room

end ScriptLens
