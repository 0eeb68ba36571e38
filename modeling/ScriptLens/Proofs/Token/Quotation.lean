import ScriptLens.Proofs.Token.Lookahead

namespace ScriptLens.Quotation

open Delimited

/-- An item in front of the text `after`.  A backslash takes the next character with it, and a
carriage return never without its line feed. -/
inductive Item (mark : Char) (multiline : Bool) (after : List Char) : List Char → Prop
  | plain {c : Char} : c ≠ mark → c ≠ '\\' → multiline = true ∨ isLineTerminator c = false →
    Item mark multiline after [c]
  | escape {c : Char} : ¬(c = '\r' ∧ after.head? = some '\n') → Item mark multiline after ['\\', c]
  | escapedBreak : Item mark multiline after ['\\', '\r', '\n']

inductive Items (mark : Char) (multiline : Bool) (after : List Char) : List Char → Prop
  | nil : Items mark multiline after []
  | cons {item items : List Char} : Item mark multiline (items ++ after) item →
    Items mark multiline after items → Items mark multiline after (item ++ items)

inductive Stops (mark : Char) (multiline : Bool) : List Char → Prop
  | atEnd : Stops mark multiline []
  | atBackslash : Stops mark multiline ['\\']
  | atMark {after : List Char} : Stops mark multiline (mark :: after)
  | atBreak {c : Char} {after : List Char} : multiline = false → isLineTerminator c = true →
    Stops mark multiline (c :: after)

structure Longest (mark : Char) (multiline : Bool) (cs items rest : List Char) : Prop where
  split : cs = items ++ rest
  whole : Items mark multiline rest items
  longest : ∀ items' rest', cs = items' ++ rest' → Items mark multiline rest' items' →
    items'.length ≤ items.length

def strayBackslash (rest : List Char) : List Char := if rest = ['\\'] then rest else []

variable {mark : Char} {multiline : Bool} {after after' item item' items items' more : List Char}

section items

theorem Item.ne_nil (isItem : Item mark multiline after item) : item ≠ [] := by
  cases isItem <;> nofun

theorem Item.unique (first : Item mark multiline after item)
    (second : Item mark multiline after' item') (same : item ++ after = item' ++ after') :
    item = item' := by
  cases first with
  | plain _ backslash _ => cases second <;> simp_all
  | escape single =>
    cases second with
    | plain _ backslash _ => exact absurd (List.cons.inj same).1.symm backslash
    | escape => simp_all
    | escapedBreak => simp_all
  | escapedBreak =>
    cases second with
    | plain _ backslash _ => exact absurd (List.cons.inj same).1.symm backslash
    | escape single =>
      simp only [List.cons_append, List.nil_append, List.cons.injEq, true_and] at same
      exact absurd ⟨same.1.symm, by rw [← same.2]; rfl⟩ single
    | escapedBreak => rfl

/-- Of two ways to cut a text the one that goes further goes on from the other. -/
theorem Items.exists_append {rest rest' : List Char} (short : Items mark multiline rest items)
    (long : Items mark multiline rest' items') (same : items ++ rest = items' ++ rest')
    (length : items.length ≤ items'.length) :
    ∃ more, rest = more ++ rest' ∧ Items mark multiline rest' more := by
  induction short generalizing items' with
  | nil => exact ⟨items', same, long⟩
  | @cons item items isItem _ ih =>
    cases long with
    | nil =>
      have nothing := List.eq_nil_of_length_eq_zero (Nat.le_zero.mp length)
      exact absurd (List.append_eq_nil_iff.mp nothing).1 isItem.ne_nil
    | @cons item' items' isItem' long =>
      rw [List.append_assoc, List.append_assoc] at same
      obtain rfl := isItem.unique isItem' same
      apply ih long (List.append_cancel_left same)
      simpa using length

end items

section stops

theorem Stops.not_item (stops : Stops mark multiline (item ++ after)) (proper : mark ≠ '\\') :
    ¬Item mark multiline after item := by
  intro isItem
  cases isItem with
  | plain other backslash inside =>
    cases stops with
    | atBackslash => exact backslash rfl
    | atMark => exact other rfl
    | atBreak oneLine ends =>
      rw [oneLine, ends] at inside
      simp at inside
  | escape =>
    cases stops with
    | atMark => exact proper rfl
    | atBreak _ ends => cases ends
  | escapedBreak =>
    cases stops with
    | atMark => exact proper rfl
    | atBreak _ ends => cases ends

theorem stops_or_exists_item (mark : Char) (multiline : Bool) (cs : List Char) :
    Stops mark multiline cs ∨
      ∃ item after, cs = item ++ after ∧ Item mark multiline after item := by
  cases cs with
  | nil => exact .inl .atEnd
  | cons c cs =>
    by_cases closes : c = mark
    · exact .inl (closes ▸ .atMark)
    by_cases backslash : c = '\\'
    · subst backslash
      cases cs with
      | nil => exact .inl .atBackslash
      | cons d ds =>
        by_cases lineBreak : d = '\r' ∧ ds.head? = some '\n'
        · obtain ⟨rfl, feed⟩ := lineBreak
          obtain ⟨after, rfl⟩ := List.head?_eq_some_iff.mp feed
          exact .inr ⟨_, after, rfl, .escapedBreak⟩
        · exact .inr ⟨_, ds, rfl, .escape lineBreak⟩
    by_cases ends : multiline = false ∧ isLineTerminator c = true
    · exact .inl (.atBreak ends.1 ends.2)
    · refine .inr ⟨[c], cs, rfl, .plain closes backslash ?_⟩
      cases multiline <;> simp_all

theorem Items.longest {rest : List Char} (isItems : Items mark multiline rest items)
    (stops : Stops mark multiline rest) (proper : mark ≠ '\\') :
    Longest mark multiline (items ++ rest) items rest where
  split := rfl
  whole := isItems
  longest := by
    intro items' rest' same others
    apply Nat.le_of_not_lt
    intro longer
    obtain ⟨more, rfl, goesOn⟩ := isItems.exists_append others same (Nat.le_of_lt longer)
    cases goesOn with
    | nil =>
      rw [List.nil_append, List.append_cancel_right_eq] at same
      exact Nat.lt_irrefl _ (same ▸ longer)
    | cons isItem _ =>
      rw [List.append_assoc] at stops
      exact stops.not_item proper isItem

theorem exists_stops (mark : Char) (multiline : Bool) (cs : List Char) :
    ∃ items rest, cs = items ++ rest ∧ Items mark multiline rest items ∧
      Stops mark multiline rest := by
  obtain stops | ⟨item, after, split, isItem⟩ := stops_or_exists_item mark multiline cs
  · exact ⟨[], cs, rfl, .nil, stops⟩
  · have positive := List.length_pos_iff.mpr isItem.ne_nil
    obtain ⟨items, rest, rfl, isItems, stops⟩ := exists_stops mark multiline after
    exact ⟨item ++ items, rest, by rw [split, List.append_assoc], .cons isItem isItems, stops⟩
termination_by cs.length
decreasing_by
  rw [split, List.length_append]
  omega

end stops

section scanning

theorem quotation_items {rest : List Char} (isItems : Items mark multiline rest items) :
    quotation mark multiline (items ++ rest) = (quotation mark multiline rest).prepend items := by
  induction isItems with
  | nil => rfl
  | @cons item items isItem _ ih =>
    have step : quotation mark multiline (item ++ (items ++ rest)) =
        (quotation mark multiline (items ++ rest)).prepend item := by
      cases isItem with
      | @plain c other backslash inside =>
        have goesOn : ¬(!multiline && isLineTerminator c) = true := by
          obtain many | no := inside
          · simp [many]
          · simp [no]
        rw [List.singleton_append, quotation_cons mark multiline _ backslash, if_neg other,
          if_neg goesOn]
      | @escape c single =>
        refine quotation.eq_4 mark multiline c (items ++ rest) fun more return_ feed => ?_
        exact single ⟨return_, by rw [feed]; rfl⟩
      | escapedBreak => exact quotation.eq_3 mark multiline _
    rw [List.append_assoc, step, ih]
    simp [prepend]

theorem quotation_mark (proper : mark ≠ '\\') (after : List Char) :
    quotation mark multiline (mark :: after) = ⟨true, [mark], after⟩ := by
  rw [quotation_cons mark multiline after proper, if_pos rfl]

theorem quotation_closed (proper : mark ≠ '\\')
    (isItems : Items mark multiline (mark :: after) items) :
    quotation mark multiline (items ++ mark :: after) = ⟨true, items ++ [mark], after⟩ := by
  rw [quotation_items isItems, quotation_mark proper]
  rfl

theorem quotation_open {rest : List Char} (isItems : Items mark multiline rest items)
    (stops : Stops mark multiline rest) (unmarked : ∀ after, rest ≠ mark :: after) :
    ∃ left, quotation mark multiline (items ++ rest) = ⟨false, items ++ strayBackslash rest, left⟩ ∧
      (left = [] ∨ multiline = false ∧
        ∃ c after, left = c :: after ∧ isLineTerminator c = true) := by
  rw [quotation_items isItems]
  cases stops with
  | atEnd => exact ⟨[], rfl, .inl rfl⟩
  | atBackslash => exact ⟨[], rfl, .inl rfl⟩
  | atMark => exact absurd rfl (unmarked _)
  | @atBreak c after oneLine ends =>
    have backslash : c ≠ '\\' := by
      rintro rfl
      cases ends
    have other : c ≠ mark := by
      rintro rfl
      exact unmarked after rfl
    refine ⟨c :: after, ?_, .inr ⟨oneLine, c, after, rfl, ends⟩⟩
    rw [quotation_cons mark multiline after backslash, if_neg other,
      if_pos (by simp [oneLine, ends])]
    simp [prepend, strayBackslash, backslash]

end scanning

section replacing

structure Keeps (f : Char → Char) (mark : Char) : Prop where
  delimiter : ∀ c, f c = mark ↔ c = mark
  backslash : ∀ c, f c = '\\' ↔ c = '\\'
  carriageReturn : ∀ c, f c = '\r' ↔ c = '\r'
  lineFeed : ∀ c, f c = '\n' ↔ c = '\n'

variable {f : Char → Char}

theorem Item.map (keeps : Keeps f mark) (isItem : Item mark true after item) :
    Item mark true (after.map f) (item.map f) := by
  cases isItem with
  | plain other backslash _ =>
    exact .plain (mt (keeps.delimiter _).mp other) (mt (keeps.backslash _).mp backslash) (.inl rfl)
  | escape single =>
    simp only [List.map_cons, List.map_nil, (keeps.backslash _).mpr rfl]
    refine .escape ?_
    simpa [keeps.carriageReturn, keeps.lineFeed] using single
  | escapedBreak =>
    simp only [List.map_cons, List.map_nil, (keeps.backslash _).mpr rfl,
      (keeps.carriageReturn _).mpr rfl, (keeps.lineFeed _).mpr rfl]
    exact .escapedBreak

theorem Items.map (keeps : Keeps f mark) (isItems : Items mark true after items) :
    Items mark true (after.map f) (items.map f) := by
  induction isItems with
  | nil => exact .nil
  | cons isItem _ ih =>
    have mapped := isItem.map keeps
    rw [List.map_append] at mapped ⊢
    exact .cons mapped ih

theorem quotation_map (keeps : Keeps f mark) (proper : mark ≠ '\\') (cs : List Char) :
    quotation mark true (cs.map f) =
      ⟨(quotation mark true cs).closed, (quotation mark true cs).taken.map f,
        (quotation mark true cs).rest.map f⟩ := by
  obtain ⟨items, rest, rfl, isItems, stops⟩ := exists_stops mark true cs
  rw [List.map_append, quotation_items (isItems.map keeps), quotation_items isItems]
  cases stops with
  | atEnd => simp [prepend, quotation]
  | atBackslash => simp [prepend, quotation, (keeps.backslash _).mpr rfl]
  | atMark =>
    rw [List.map_cons, (keeps.delimiter _).mpr rfl, quotation_mark proper, quotation_mark proper]
    simp [prepend, (keeps.delimiter _).mpr rfl]
  | atBreak oneLine => cases oneLine

end replacing

end ScriptLens.Quotation
