import ScriptLens.Text.Align
import ScriptLens.Text.Quoted

namespace ScriptLens.Text

def IsLine (s : String) : Prop := '\n' ∉ s.toList

instance (s : String) : Decidable (IsLine s) := inferInstanceAs (Decidable ('\n' ∉ s.toList))

@[simp] theorem isLine_append {s t : String} : IsLine (s ++ t) ↔ IsLine s ∧ IsLine t := by
  simp [IsLine]

@[simp] theorem isLine_ofList {cs : List Char} : IsLine (String.ofList cs) ↔ '\n' ∉ cs := by
  simp [IsLine]

theorem isLine_fill (n : Nat) {c : Char} (other : c ≠ '\n') : IsLine (fill n c) := by
  rw [IsLine, toList_fill, List.mem_replicate]
  rintro ⟨_, rfl⟩
  exact other rfl

theorem exists_of_mem_toDigits {base : Nat} (more : 1 < base) {n : Nat} {c : Char}
    (member : c ∈ Nat.toDigits base n) : ∃ d < base, Nat.digitChar d = c := by
  induction n using Nat.strongRecOn with
  | ind n ih =>
    rw [Nat.toDigits_eq_if more] at member
    split at member
    · rename_i small
      exact ⟨n, small, (List.mem_singleton.mp member).symm⟩
    · rename_i large
      obtain earlier | last := List.mem_append.mp member
      · exact ih (n / base) (Nat.div_lt_self (by omega) more) earlier
      · exact ⟨n % base, Nat.mod_lt n (by omega), (List.mem_singleton.mp last).symm⟩

theorem digitChar_ne_lineFeed (d : Nat) : Nat.digitChar d ≠ '\n' := by
  grind [Nat.digitChar]

theorem lineFeed_not_mem_toDigits {base : Nat} (more : 1 < base) (n : Nat) :
    '\n' ∉ Nat.toDigits base n := by
  intro member
  obtain ⟨d, _, feed⟩ := exists_of_mem_toDigits more member
  exact digitChar_ne_lineFeed d feed

@[simp] theorem isLine_repr (n : Nat) : IsLine n.repr := by
  rw [IsLine, Nat.toList_repr]
  exact lineFeed_not_mem_toDigits (by decide) n

@[simp] theorem isLine_zeroPadded (width n : Nat) : IsLine (zeroPadded width n) := by
  simp [zeroPadded, isLine_fill]

@[simp] theorem isLine_alignRight {width : Nat} {s : String} :
    IsLine (alignRight width s) ↔ IsLine s := by
  simp [alignRight, isLine_fill]

theorem isLine_intercalate {separator : String} (line : IsLine separator) {ls : List String}
    (lines : ∀ l ∈ ls, IsLine l) : IsLine (separator.intercalate ls) := by
  induction ls with
  | nil => simp [IsLine]
  | cons l ls ih =>
    obtain ⟨first, later⟩ := List.forall_mem_cons.mp lines
    by_cases last : ls = []
    · simpa [last] using first
    · rw [String.intercalate_cons_of_ne_nil last]
      simp [line, first, ih later]

theorem lineFeed_not_mem_escaped {mark : Char} (other : mark ≠ '\n') (c : Char) :
    '\n' ∉ escaped mark c := by
  by_cases feed : c = '\n'
  · simp [escaped, feed]
  · unfold escaped
    repeat' split
    all_goals simp [lineFeed_not_mem_toDigits, other.symm, Ne.symm feed]

theorem isLine_quotedChar (c : Char) : IsLine (quotedChar c) := by
  have quote : '\'' ≠ '\n' := by decide
  rw [quotedChar, isLine_ofList]
  simp [quotedWith, lineFeed_not_mem_escaped quote]

theorem isLine_quoted (s : String) : IsLine (quoted s) := by
  have quote : '"' ≠ '\n' := by decide
  rw [quoted, isLine_ofList]
  simp [quotedWith, lineFeed_not_mem_escaped quote]

theorem count_lineFeed_append {s t : String} (line : IsLine t) :
    (s ++ t).toList.count '\n' = s.toList.count '\n' := by
  rw [String.toList_append, List.count_append, List.count_eq_zero.mpr line, Nat.add_zero]

def unlines (ls : List String) : String := String.join (ls.map (· ++ "\n"))

@[simp] theorem unlines_nil : unlines [] = "" := rfl

theorem toList_unlines_cons (l : String) (ls : List String) :
    (unlines (l :: ls)).toList = l.toList ++ '\n' :: (unlines ls).toList := by
  simp [unlines]

theorem count_lineFeed_unlines {ls : List String} (lines : ∀ l ∈ ls, IsLine l) :
    (unlines ls).toList.count '\n' = ls.length := by
  induction ls with
  | nil => rfl
  | cons l ls ih =>
    have first : l.toList.count '\n' = 0 := List.count_eq_zero.mpr (lines l List.mem_cons_self)
    have later := ih fun m member => lines m (List.mem_cons_of_mem l member)
    rw [toList_unlines_cons, List.count_append, List.count_cons_self, first, later,
      List.length_cons, Nat.zero_add]

end ScriptLens.Text
