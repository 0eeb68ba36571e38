import ScriptLens.Source.Cursor

namespace ScriptLens

namespace Text

theorem utf8ByteSize_ofList (cs : List Char) :
    (String.ofList cs).utf8ByteSize = byteLength cs := by
  induction cs with
  | nil => rfl
  | cons c cs ih =>
    calc
      (String.ofList (c :: cs)).utf8ByteSize =
          (String.ofList [c] ++ String.ofList cs).utf8ByteSize := by
        rw [← String.ofList_append]
        rfl
      _ = c.utf8Size + byteLength cs := by
        rw [String.utf8ByteSize_append, ih, ← String.singleton_eq_ofList,
          String.utf8ByteSize_singleton]
      _ = byteLength (c :: cs) := (byteLength_cons c cs).symm

theorem byteLength_toList (s : String) : byteLength s.toList = s.utf8ByteSize := by
  rw [← utf8ByteSize_ofList, String.ofList_toList]

theorem length_le_byteLength (cs : List Char) : cs.length ≤ byteLength cs := by
  induction cs with
  | nil => exact Nat.le_refl _
  | cons c cs ih =>
    rw [byteLength_cons, List.length_cons]
    have wide := c.utf8Size_pos
    omega

theorem length_le_utf8ByteSize (s : String) : s.length ≤ s.utf8ByteSize := by
  rw [← byteLength_toList, ← String.length_toList]
  exact length_le_byteLength _

theorem slice?_append (before middle after : List Char) :
    slice? (before ++ middle ++ after) (byteLength before)
      (byteLength before + byteLength middle) = some middle :=
  slice?_eq_some_iff.mpr ⟨before, after, rfl, rfl, rfl⟩

end Text

open Text

def IsBoundary (source : String) (offset : Nat) : Prop := String.Pos.Raw.IsValid source ⟨offset⟩

theorem isBoundary_of_split {source : String} {before after : List Char}
    (split : source.toList = before ++ after) : IsBoundary source (byteLength before) := by
  apply String.Pos.Raw.isValid_iff_exists_append.mpr
  refine ⟨String.ofList before, String.ofList after, ?_, ?_⟩
  · rw [← String.ofList_append, ← split, String.ofList_toList]
  · rw [String.Pos.Raw.ext_iff]
    exact (utf8ByteSize_ofList before).symm

theorem exists_split_of_isBoundary {source : String} {offset : Nat}
    (boundary : IsBoundary source offset) :
    ∃ before after, source.toList = before ++ after ∧ byteLength before = offset := by
  obtain ⟨before, after, rfl, here⟩ := String.Pos.Raw.isValid_iff_exists_append.mp boundary
  refine ⟨before.toList, after.toList, String.toList_append, ?_⟩
  rw [byteLength_toList]
  exact (congrArg String.Pos.Raw.byteIdx here).symm

theorem append_inj_of_byteLength {before before' after after' : List Char}
    (same : before ++ after = before' ++ after')
    (size : byteLength before = byteLength before') : before = before' ∧ after = after' := by
  have here : takeBytes? (before ++ after) (byteLength before) = some before :=
    takeBytes?_eq_some_iff.mpr ⟨after, rfl, rfl⟩
  have here' : takeBytes? (before ++ after) (byteLength before) = some before' :=
    takeBytes?_eq_some_iff.mpr ⟨after', same, size.symm⟩
  obtain rfl := Option.some.inj (here.symm.trans here')
  exact ⟨rfl, List.append_cancel_left same⟩

theorem exists_split_of_boundaries {source : String} {start stop : Nat} (inOrder : start ≤ stop)
    (starts : IsBoundary source start) (stops : IsBoundary source stop) :
    ∃ before middle after, source.toList = before ++ middle ++ after ∧
      byteLength before = start ∧ byteLength before + byteLength middle = stop := by
  obtain ⟨before, rest, split, rfl⟩ := exists_split_of_isBoundary starts
  obtain ⟨before', after, split', rfl⟩ := exists_split_of_isBoundary stops
  obtain ⟨middle, rfl, rfl⟩ | ⟨more, rfl, rfl⟩ :=
    List.append_eq_append_iff.mp (split.symm.trans split')
  · exact ⟨before, middle, after, by simpa using split', rfl, (byteLength_append ..).symm⟩
  · -- The places are in order, so nothing lies between the later one and the earlier one.
    rw [byteLength_append] at inOrder
    cases more with
    | nil => exact ⟨before', [], rest, by simpa using split, by simp, by simp⟩
    | cons c cs =>
      have := c.utf8Size_pos
      rw [byteLength_cons] at inOrder
      omega

namespace Cursor

/-- The characters `passed` lie between the beginning of the source and the cursor. -/
structure HasPassed (c : Cursor) (passed : List Char) : Prop where
  split : c.source.toList = passed ++ c.rest
  offset : c.offset = byteLength passed
  position : c.position = Position.first.afterAll passed

theorem hasPassed_ofSource (source : String) : (ofSource source).HasPassed [] :=
  ⟨rfl, rfl, rfl⟩

variable {c : Cursor} {passed : List Char}

theorem HasPassed.advance {x : Char} {rest : List Char} (here : c.HasPassed passed)
    (ahead : c.rest = x :: rest) : c.advance.HasPassed (passed ++ [x]) := by
  obtain ⟨split, offset, position⟩ := here
  have moved : c.advance =
      { c with rest := rest, offset := c.offset + x.utf8Size,
               position := c.position.after x } := by
    rw [Cursor.advance, ahead]
  rw [moved]
  constructor
  · simp [split, ahead]
  · simp [offset]
  · simp [position]

theorem HasPassed.advanceMany (here : c.HasPassed passed) (n : Nat) :
    (advanceMany n c).HasPassed (passed ++ c.rest.take n) := by
  induction n generalizing c passed with
  | zero => simpa using here
  | succ n ih =>
    cases ahead : c.rest with
    | nil =>
      have stuck : Cursor.advanceMany (n + 1) c = c := by
        simp [Cursor.advanceMany, atEnd, ahead]
      rw [stuck]
      simpa using here
    | cons x rest =>
      have moved : Cursor.advanceMany (n + 1) c = Cursor.advanceMany n c.advance := by
        simp [Cursor.advanceMany, atEnd, ahead]
      have next := ih (here.advance ahead)
      rw [moved]
      simpa [ahead] using next

@[simp] theorem source_advanceMany (n : Nat) (c : Cursor) :
    (advanceMany n c).source = c.source := by
  induction n generalizing c with
  | zero => rfl
  | succ n ih =>
    rw [advanceMany]
    split
    · rfl
    · rw [ih, source_advance]

theorem HasPassed.sliceFrom {run : List Char} (here : c.HasPassed (passed ++ run)) :
    c.sliceFrom (byteLength passed) = some (String.ofList run) := by
  have slice : slice? c.source.toList (byteLength passed) c.offset = some run := by
    rw [here.split, here.offset, byteLength_append]
    exact slice?_append passed run c.rest
  rw [Cursor.sliceFrom, slice]
  rfl

theorem HasPassed.slice?_rest (here : c.HasPassed passed) :
    slice? c.source.toList c.offset c.source.utf8ByteSize = some c.rest := by
  have whole := slice?_append passed c.rest []
  rw [List.append_nil, ← byteLength_append, ← here.split, byteLength_toList] at whole
  rw [here.offset]
  exact whole

theorem HasPassed.offset_of_rest_nil (here : c.HasPassed passed) (ended : c.rest = []) :
    c.offset = c.source.utf8ByteSize := by
  rw [here.offset, ← byteLength_toList, here.split, ended, List.append_nil]

end Cursor

end ScriptLens
