import Mathlib.Data.List.Basic

/-! # What can be read back

A way to write values is readable when a text that begins with a value tells which value it is, and
where it ends.  Some values, such as numbers, end only with what comes after them. -/

namespace ScriptLens.Text

variable {α β : Type}

/-- A value and a text after it can be told apart, if the text is one of those in `ends`. -/
def Readable (ends : List Char → Prop) (write : α → List Char) : Prop :=
  ∀ ⦃a b xs ys⦄, ends xs → ends ys → write a ++ xs = write b ++ ys → a = b ∧ xs = ys

def AnyText (_ : List Char) : Prop := True

def NoDigit (xs : List Char) : Prop := ∀ c ∈ xs.head?, c.isDigit = false

theorem toList_intercalate_cons (separator s : String) (ss : List String) :
    (separator.intercalate (s :: ss)).toList =
      s.toList ++ ss.flatMap fun t => separator.toList ++ t.toList := by
  induction ss generalizing s with
  | nil => simp
  | cons t ss ih =>
    rw [String.intercalate_cons_of_ne_nil (by simp), String.toList_append, String.toList_append,
      ih, List.flatMap_cons, List.append_assoc, List.append_assoc]

theorem noDigit_cons {c : Char} (other : c.isDigit = false) (xs : List Char) :
    NoDigit (c :: xs) := by
  intro d member
  obtain rfl := Option.some.inj member
  exact other

variable {ends : List Char → Prop} {write : α → List Char}

namespace Readable

theorem injective (here : Readable ends write) (nothing : ends []) :
    Function.Injective write := by
  intro a b same
  exact (here nothing nothing (congrArg (· ++ []) same)).1

theorem append_left (before : List Char) (here : Readable ends write) :
    Readable ends fun a => before ++ write a := by
  intro a b xs ys left right same
  dsimp only at same
  rw [List.append_assoc, List.append_assoc] at same
  exact here left right (List.append_cancel_left same)

theorem ends_flatMap {stop : List Char} (before : ∀ a xs, ends (write a ++ xs))
    (after : ∀ xs, ends (stop ++ xs)) (as : List α) (xs : List Char) :
    ends (as.flatMap write ++ stop ++ xs) := by
  cases as with
  | nil => exact after xs
  | cons a as =>
    rw [List.flatMap_cons, List.append_assoc, List.append_assoc]
    exact before a _

theorem flatMap {stop : List Char} (each : Readable ends write)
    (before : ∀ a xs, ends (write a ++ xs)) (after : ∀ xs, ends (stop ++ xs))
    (apart : ∀ a xs ys, write a ++ xs ≠ stop ++ ys) :
    Readable AnyText fun as : List α => as.flatMap write ++ stop := by
  have text (a : α) (as : List α) (xs : List Char) :
      (a :: as).flatMap write ++ stop ++ xs = write a ++ (as.flatMap write ++ stop ++ xs) := by
    rw [List.flatMap_cons, List.append_assoc, List.append_assoc, List.append_assoc]
  intro as bs xs ys _ _ same
  dsimp only at same
  -- Both lists at once: where one of them ends, `apart` says that the other does too.
  induction as generalizing bs with
  | nil =>
    cases bs with
    | nil => exact ⟨rfl, List.append_cancel_left same⟩
    | cons b bs => exact absurd ((text b bs ys).symm.trans same.symm) (apart b _ xs)
  | cons a as ih =>
    rw [text] at same
    cases bs with
    | nil => exact absurd same (apart a _ ys)
    | cons b bs =>
      rw [text] at same
      obtain ⟨rfl, later⟩ :=
        each (ends_flatMap before after as xs) (ends_flatMap before after bs ys) same
      obtain ⟨rfl, rest⟩ := ih later
      exact ⟨rfl, rest⟩

theorem separated {write : α → String} {separator stop : String}
    (each : Readable ends fun a => (write a).toList)
    (between : ∀ xs, ends (separator.toList ++ xs)) (after : ∀ xs, ends (stop.toList ++ xs))
    (starts : ∀ a xs ys, (write a).toList ++ xs ≠ stop.toList ++ ys)
    (apart : ∀ xs ys, separator.toList ++ xs ≠ stop.toList ++ ys) :
    Readable AnyText fun as : List α =>
      (separator.intercalate (as.map write) ++ stop).toList := by
  have before (a : α) (xs : List Char) : ends ((separator.toList ++ (write a).toList) ++ xs) := by
    rw [List.append_assoc]
    exact between _
  have tail : Readable AnyText fun as : List α =>
      (as.flatMap fun a => separator.toList ++ (write a).toList) ++ stop.toList := by
    refine (each.append_left separator.toList).flatMap before after fun a xs ys => ?_
    rw [List.append_assoc]
    exact apart _ ys
  have text (a : α) (as : List α) (xs : List Char) :
      (separator.intercalate ((a :: as).map write) ++ stop).toList ++ xs =
        (write a).toList ++
          ((as.flatMap fun a => separator.toList ++ (write a).toList) ++ stop.toList ++ xs) := by
    rw [List.map_cons, String.toList_append, toList_intercalate_cons, List.flatMap_map,
      List.append_assoc, List.append_assoc, List.append_assoc]
  have empty (xs : List Char) :
      (separator.intercalate (([] : List α).map write) ++ stop).toList ++ xs =
        stop.toList ++ xs := by
    rw [List.map_nil, String.intercalate_nil, String.empty_append]
  intro as bs xs ys _ _ same
  dsimp only at same
  cases as with
  | nil =>
    rw [empty] at same
    cases bs with
    | nil => exact ⟨rfl, List.append_cancel_left (same.trans (empty ys))⟩
    | cons b bs => exact absurd ((text b bs ys).symm.trans same.symm) (starts b _ xs)
  | cons a as =>
    rw [text] at same
    cases bs with
    | nil => exact absurd (same.trans (empty ys)) (starts a _ ys)
    | cons b bs =>
      rw [text] at same
      obtain ⟨rfl, later⟩ :=
        each (ends_flatMap before after as xs) (ends_flatMap before after bs ys) same
      obtain ⟨rfl, rest⟩ := tail trivial trivial later
      exact ⟨rfl, rest⟩

theorem repr : Readable NoDigit fun n : Nat => n.repr.toList := by
  have digits (n : Nat) : ∀ c ∈ n.repr.toList, c.isDigit = true := by
    intro c member
    rw [Nat.toList_repr] at member
    exact Nat.isDigit_of_mem_toDigits (by decide) (by decide) member
  have run (n : Nat) {xs : List Char} (stop : NoDigit xs) :
      (n.repr.toList ++ xs).takeWhile Char.isDigit = n.repr.toList := by
    rw [List.takeWhile_append_of_pos (digits n)]
    cases xs with
    | nil => simp
    | cons c xs =>
      have other := stop c rfl
      rw [List.takeWhile_cons_of_neg (by simp [other]), List.append_nil]
  intro m n xs ys left right same
  have written : m.repr.toList = n.repr.toList := by
    rw [← run m left, same, run n right]
  have value (n : Nat) : Nat.ofDigitChars 10 n.repr.toList 0 = n := by
    rw [Nat.toList_repr, Nat.ofDigitChars_ten_toDigits]
  obtain rfl : m = n := by rw [← value m, written, value n]
  exact ⟨rfl, List.append_cancel_left same⟩

end Readable

end ScriptLens.Text
