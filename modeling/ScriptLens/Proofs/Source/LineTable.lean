import Mathlib.Data.List.Induction
import ScriptLens.Proofs.Source.Walk
import ScriptLens.Source.File

namespace ScriptLens

namespace Text

def lastLine (cs : List Char) : List Char := (cs.reverse.takeWhile (· ≠ '\n')).reverse

def earlierLines (cs : List Char) : List Char := (cs.reverse.dropWhile (· ≠ '\n')).reverse

theorem earlierLines_append_lastLine (cs : List Char) : earlierLines cs ++ lastLine cs = cs := by
  rw [earlierLines, lastLine, ← List.reverse_append, List.takeWhile_append_dropWhile,
    List.reverse_reverse]

theorem lastLine_concat (cs : List Char) (c : Char) :
    lastLine (cs ++ [c]) = if c = '\n' then [] else lastLine cs ++ [c] := by
  by_cases feed : c = '\n' <;> simp [lastLine, feed]

theorem earlierLines_concat (cs : List Char) (c : Char) :
    earlierLines (cs ++ [c]) = if c = '\n' then cs ++ [c] else earlierLines cs := by
  by_cases feed : c = '\n' <;> simp [earlierLines, feed]

theorem length_lastLine_le (cs : List Char) : (lastLine cs).length ≤ cs.length := by
  have whole := congrArg List.length (earlierLines_append_lastLine cs)
  rw [List.length_append] at whole
  omega

def firstLine (cs : List Char) : List Char := cs.takeWhile (· ≠ '\n')

theorem lineFeed_not_mem_firstLine (cs : List Char) : '\n' ∉ firstLine cs := by
  intro member
  simpa using List.all_eq_true.mp List.all_takeWhile _ member

theorem lineFeed_not_mem_lastLine (cs : List Char) : '\n' ∉ lastLine cs := by
  rw [lastLine, List.mem_reverse]
  exact lineFeed_not_mem_firstLine cs.reverse

@[simp] theorem firstLine_cons (c : Char) (cs : List Char) :
    firstLine (c :: cs) = if c = '\n' then [] else c :: firstLine cs := by
  by_cases feed : c = '\n' <;> simp [firstLine, feed]

theorem firstLine_cases (cs : List Char) :
    cs = firstLine cs ∨ ∃ more, cs = firstLine cs ++ '\n' :: more := by
  induction cs with
  | nil => exact .inl rfl
  | cons c cs ih =>
    by_cases feed : c = '\n'
    · exact .inr ⟨cs, by simp [feed]⟩
    · rw [firstLine_cons, if_neg feed]
      obtain last | ⟨more, next⟩ := ih
      · exact .inl (congrArg (c :: ·) last)
      · exact .inr ⟨more, congrArg (c :: ·) next⟩

end Text

open Text

theorem Position.afterAll_first (cs : List Char) :
    Position.first.afterAll cs =
      ⟨.ofNat (cs.count '\n' + 1), .ofNat ((lastLine cs).length + 1)⟩ := by
  -- From the end, as the cursor goes: the last character decides what the last line is.
  induction cs using List.reverseRecOn with
  | nil => rfl
  | append_singleton cs c ih =>
    rw [afterAll_append, ih, lastLine_concat, List.count_append]
    by_cases feed : c = '\n'
    · simp [afterAll, after, feed, UInt32.ofNat_add]
    · simp [afterAll, after, feed, UInt32.ofNat_add]

section lineStarts

theorem lineStartsFrom_append (offset : Nat) (as bs : List Char) :
    lineStartsFrom offset (as ++ bs) =
      lineStartsFrom offset as ++ lineStartsFrom (offset + byteLength as) bs := by
  induction as generalizing offset with
  | nil => simp [lineStartsFrom]
  | cons a as ih =>
    simp only [List.cons_append, lineStartsFrom, byteLength_cons, ih, ← Nat.add_assoc]
    split
    · rfl
    · rfl

theorem length_lineStartsFrom (offset : Nat) (cs : List Char) :
    (lineStartsFrom offset cs).length = cs.count '\n' := by
  induction cs generalizing offset with
  | nil => rfl
  | cons c cs ih => by_cases feed : c = '\n' <;> simp [lineStartsFrom, feed, ih]

theorem bounds_of_mem_lineStartsFrom {offset start : Nat} {cs : List Char}
    (member : start ∈ lineStartsFrom offset cs) :
    offset < start ∧ start ≤ offset + byteLength cs := by
  induction cs generalizing offset with
  | nil => cases member
  | cons c cs ih =>
    have positive := c.utf8Size_pos
    have later : start ∈ lineStartsFrom (offset + c.utf8Size) cs →
        offset < start ∧ start ≤ offset + byteLength (c :: cs) := by
      intro member
      have bounds := ih member
      rw [byteLength_cons]
      omega
    rw [lineStartsFrom] at member
    split at member
    · cases List.mem_cons.mp member with
      | inl first => rw [first, byteLength_cons]; omega
      | inr member => exact later member
    · exact later member

theorem lineStart_lastLine (cs : List Char) :
    (0 :: lineStartsFrom 0 cs)[cs.count '\n']? = some (byteLength (earlierLines cs)) := by
  induction cs using List.reverseRecOn with
  | nil => rfl
  | append_singleton cs c ih =>
    rw [lineStartsFrom_append, earlierLines_concat, List.count_append, ← List.cons_append]
    by_cases feed : c = '\n'
    · have last : cs.count '\n' + 1 = (0 :: lineStartsFrom 0 cs).length := by
        rw [List.length_cons, length_lineStartsFrom]
      simp [feed, lineStartsFrom, last]
    · have inside : cs.count '\n' < (0 :: lineStartsFrom 0 cs).length := by
        rw [List.length_cons, length_lineStartsFrom]
        omega
      simpa [feed, lineStartsFrom, List.count_singleton] using ih

end lineStarts

theorem partitionPoint_eq {below : Nat → Bool} {low high k : Nat}
    (turn : ∀ i, i < high → (below i = true ↔ i < k)) (from_low : low ≤ k) (to_high : k ≤ high) :
    partitionPoint below low high = k := by
  rw [partitionPoint]
  split
  · rename_i more
    have inside : (low + high) / 2 < high := by omega
    have side := turn _ inside
    dsimp only
    split
    · rename_i holds
      have := side.mp holds
      exact partitionPoint_eq turn (by omega) to_high
    · rename_i fails
      have : ¬ (low + high) / 2 < k := by
        intro before
        exact fails (side.mpr before)
      apply partitionPoint_eq
      · intro i here
        exact turn i (by omega)
      · exact from_low
      · omega
  · omega
termination_by high - low

namespace SourceFile

variable {f : SourceFile} {before after : List Char}

theorem lineStart_eq (f : SourceFile) (i : Nat) :
    f.lineStart i = (0 :: lineStartsFrom 0 f.content.toList)[i]?.getD 0 := by
  rw [lineStart, f.lineStarts_eq, lineStartsOf, Array.getD_eq_getD_getElem?,
    List.getElem?_toArray]

theorem lineCount_eq (f : SourceFile) : f.lineCount = f.content.toList.count '\n' + 1 := by
  rw [lineCount, f.lineStarts_eq, lineStartsOf, List.size_toArray, List.length_cons,
    length_lineStartsFrom]

theorem lineStart_le_iff (split : f.content.toList = before ++ after) {i : Nat}
    (listed : i < f.lineCount) :
    f.lineStart i ≤ byteLength before ↔ i < before.count '\n' + 1 := by
  have front : (0 :: lineStartsFrom 0 before).length = before.count '\n' + 1 := by
    rw [List.length_cons, length_lineStartsFrom]
  have back : (lineStartsFrom (byteLength before) after).length = after.count '\n' :=
    length_lineStartsFrom _ _
  rw [lineCount_eq, split, List.count_append] at listed
  rw [lineStart_eq, split, lineStartsFrom_append, ← List.cons_append, Nat.zero_add, ← front]
  by_cases early : i < (0 :: lineStartsFrom 0 before).length
  · have member := List.getElem_mem early
    rw [List.getElem?_append_left early, List.getElem?_eq_getElem early, Option.getD_some]
    apply iff_of_true _ early
    cases List.mem_cons.mp member with
    | inl first => rw [first]; exact Nat.zero_le _
    | inr member =>
      have bounds := bounds_of_mem_lineStartsFrom member
      omega
  · have late : i - (0 :: lineStartsFrom 0 before).length <
        (lineStartsFrom (byteLength before) after).length := by omega
    have bounds := bounds_of_mem_lineStartsFrom (List.getElem_mem late)
    rw [List.getElem?_append_right (Nat.le_of_not_lt early), List.getElem?_eq_getElem late,
      Option.getD_some]
    apply iff_of_false _ early
    omega

theorem lineIndexAt_of_split (split : f.content.toList = before ++ after) :
    f.lineIndexAt (byteLength before) = before.count '\n' := by
  have found : partitionPoint (fun i => decide (f.lineStart i ≤ byteLength before)) 0
      f.lineCount = before.count '\n' + 1 := by
    apply partitionPoint_eq
    · intro i listed
      rw [decide_eq_true_iff]
      exact lineStart_le_iff split listed
    · exact Nat.zero_le _
    · rw [lineCount_eq, split, List.count_append]
      omega
  rw [lineIndexAt, found, Nat.add_sub_cancel]

theorem lineStart_of_split (split : f.content.toList = before ++ after) :
    f.lineStart (before.count '\n') = byteLength (earlierLines before) := by
  have inside : before.count '\n' < (0 :: lineStartsFrom 0 before).length := by
    rw [List.length_cons, length_lineStartsFrom]
    exact Nat.lt_succ_self _
  rw [lineStart_eq, split, lineStartsFrom_append, ← List.cons_append,
    List.getElem?_append_left inside, lineStart_lastLine, Option.getD_some]

theorem lineColumn_of_split (split : f.content.toList = before ++ after) :
    f.lineColumn (byteLength before) =
      (before.count '\n' + 1, (lastLine before).length + 1) := by
  have inside : min (byteLength before) f.content.utf8ByteSize = byteLength before := by
    rw [← byteLength_toList, split, byteLength_append]
    omega
  have line := slice?_append (earlierLines before) (lastLine before) after
  rw [earlierLines_append_lastLine, ← split, ← byteLength_append,
    earlierLines_append_lastLine] at line
  simp only [lineColumn, inside, lineIndexAt_of_split split, lineStart_of_split split, line]

end SourceFile

end ScriptLens
