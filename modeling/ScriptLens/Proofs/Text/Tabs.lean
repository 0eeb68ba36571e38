import ScriptLens.Text.Align

namespace ScriptLens.Text

variable {stop : Nat}

def nextCell (stop cell : Nat) (c : Char) : Nat :=
  if c = '\t' then (cell / stop + 1) * stop else cell + 1

def glyph (stop cell : Nat) (c : Char) : List Char :=
  if c = '\t' then List.replicate (nextCell stop cell c - cell) ' ' else [c]

def displayFrom (stop cell : Nat) : List Char → List Char
  | [] => []
  | c :: cs => glyph stop cell c ++ displayFrom stop (nextCell stop cell c) cs

def display (stop : Nat) (row : String) : List Char := displayFrom stop 0 row.toList

theorem nextCell_eq (apart : 0 < stop) (cell : Nat) (c : Char) :
    nextCell stop cell c = cell + (glyph stop cell c).length := by
  by_cases tab : c = '\t'
  · have beyond : cell < (cell / stop + 1) * stop := Nat.lt_mul_of_div_lt (Nat.lt_succ_self _) apart
    simp only [glyph, nextCell, if_pos tab, List.length_replicate]
    omega
  · simp [glyph, nextCell, tab]

theorem displayFrom_append (apart : 0 < stop) (cell : Nat) (as bs : List Char) :
    displayFrom stop cell (as ++ bs) =
      displayFrom stop cell as ++
        displayFrom stop (cell + (displayFrom stop cell as).length) bs := by
  induction as generalizing cell with
  | nil => rfl
  | cons c as ih =>
    rw [List.cons_append, displayFrom, displayFrom, ih, nextCell_eq apart, List.length_append,
      List.append_assoc, Nat.add_assoc]

theorem displayFrom_of_not_mem {cs : List Char} (plain : '\t' ∉ cs) (cell : Nat) :
    displayFrom stop cell cs = cs := by
  induction cs generalizing cell with
  | nil => rfl
  | cons c cs ih =>
    obtain ⟨other, later⟩ := not_or.mp (mt List.mem_cons.mpr plain)
    rw [displayFrom, glyph, if_neg (Ne.symm other), ih later, List.singleton_append]

/-- Below each character stands one that goes on to the same cell. -/
theorem displayFrom_below (stop cell : Nat) (cs : List Char) :
    displayFrom stop cell (cs.map fun c => if c = '\t' then '\t' else ' ') =
      List.replicate (displayFrom stop cell cs).length ' ' := by
  induction cs generalizing cell with
  | nil => rfl
  | cons c cs ih =>
    rw [List.map_cons, displayFrom, displayFrom, List.length_append,
      ← List.replicate_append_replicate]
    by_cases tab : c = '\t'
    · simp [tab, ih, glyph]
    · simp [tab, ih, glyph, nextCell]

theorem display_append {front : String} (plain : '\t' ∉ front.toList) (apart : 0 < stop)
    (cs : List Char) :
    display stop (front ++ .ofList cs) = front.toList ++ displayFrom stop front.length cs := by
  rw [display, String.toList_append, String.toList_ofList, displayFrom_append apart,
    displayFrom_of_not_mem plain, Nat.zero_add, String.length_toList]

end ScriptLens.Text
