import ScriptLens.Proofs.Source.Bytes
import ScriptLens.Proofs.Source.LineTable

namespace ScriptLens

open Text

/-- What can be done with a cursor.  `save` keeps a copy of it, and `restore` goes back to a copy,
which stays kept.  The copies are numbered from the last one kept. -/
inductive Move
  | advance
  | advanceMany (n : Nat)
  | eatWhile (p : Char → Bool)
  | accept (x : Char)
  | save
  | restore (i : Nat)

structure Marked (α : Type) where
  cursor : α
  marks : List α

namespace Marked

variable {α β : Type}

def map (f : α → β) (m : Marked α) : Marked β := ⟨f m.cursor, m.marks.map f⟩

def save (m : Marked α) : Marked α := { m with marks := m.cursor :: m.marks }

def restore (m : Marked α) (i : Nat) : Marked α := { m with cursor := m.marks[i]?.getD m.cursor }

theorem map_restore (f : α → β) (m : Marked α) (i : Nat) :
    (m.map f).restore i = (m.restore i).map f := by
  rw [restore, map, List.getElem?_map, Option.getD_map]
  rfl

theorem cursor_restore_mem (m : Marked α) (i : Nat) :
    (m.restore i).cursor ∈ m.cursor :: m.marks := by
  rw [restore]
  cases kept : m.marks[i]? with
  | none => exact List.mem_cons_self
  | some c => exact List.mem_cons_of_mem _ (List.mem_of_getElem? kept)

end Marked

namespace Cursor

def perform (m : Marked Cursor) : Move → Marked Cursor
  | .advance => { m with cursor := m.cursor.advance }
  | .advanceMany n => { m with cursor := m.cursor.advanceMany n }
  | .eatWhile p => { m with cursor := m.cursor.eatWhile p }
  | .accept x => { m with cursor := (m.cursor.accept x).2 }
  | .save => m.save
  | .restore i => m.restore i

def run (source : String) (moves : List Move) : Marked Cursor :=
  moves.foldl perform ⟨ofSource source, []⟩

end Cursor

namespace ByteCursor

def perform? (m : Marked ByteCursor) : Move → Option (Marked ByteCursor)
  | .advance => m.cursor.advance?.map ({ m with cursor := · })
  | .advanceMany n => (m.cursor.advanceMany? n).map ({ m with cursor := · })
  | .eatWhile p => (m.cursor.eatWhile? p).map ({ m with cursor := · })
  | .accept x => (m.cursor.accept? x).map fun (_, c) => { m with cursor := c }
  | .save => some m.save
  | .restore i => some (m.restore i)

def run? (source : String) (moves : List Move) : Option (Marked ByteCursor) :=
  moves.foldlM perform? ⟨ofSource source, []⟩

structure Sees (b : ByteCursor) (c : Cursor) : Prop where
  atEnd : b.atEnd = c.atEnd
  current : b.current? = some c.current
  peek : ∀ n, b.peek? n = some (c.peek n)
  accept : ∀ x, b.accept? x = some ((c.accept x).1, (c.accept x).2.toBytes)
  slice : ∀ start, IsBoundary c.source start → start ≤ c.offset →
    b.sliceFrom? start = c.sliceFrom start

end ByteCursor

namespace Cursor

structure Between (c : Cursor) (consumed remaining : List Char) : Prop where
  split : c.source.toList = consumed ++ remaining
  offset : c.offset = byteLength consumed
  boundary : IsBoundary c.source c.offset
  inside : c.offset ≤ c.source.utf8ByteSize
  position : c.position =
    ⟨.ofNat (1 + consumed.count '\n'), .ofNat (1 + (lastLine consumed).length)⟩
  atEnd : c.atEnd = true ↔ remaining = []
  current : c.current = remaining.head?.getD beyond
  peek : ∀ n, c.peek n = remaining[n]?.getD beyond
  accepts : ∀ x, (c.accept x).1 = true ↔ ∃ more, remaining = x :: more
  consumes : ∀ x more, remaining = x :: more →
    (c.accept x).2.HasPassed (consumed ++ [x]) ∧ (c.accept x).2.rest = more
  stays : ∀ x, (¬∃ more, remaining = x :: more) → (c.accept x).2 = c
  again : ∀ a b, (c.advanceMany a).advanceMany b = c.advanceMany (a + b)
  slice : ∀ before run, consumed = before ++ run →
    c.sliceFrom (byteLength before) = some (.ofList run)

variable {c : Cursor} {passed : List Char}

theorem advanceMany_of_atEnd (ended : c.atEnd = true) (n : Nat) : c.advanceMany n = c := by
  cases n with
  | zero => rfl
  | succ n => rw [advanceMany, if_pos ended]

theorem advanceMany_add (c : Cursor) (a b : Nat) :
    (c.advanceMany a).advanceMany b = c.advanceMany (a + b) := by
  induction a generalizing c with
  | zero => rw [Nat.zero_add, advanceMany_zero]
  | succ a ih =>
    rw [Nat.succ_add, advanceMany, advanceMany]
    cases ended : c.atEnd with
    | true => exact advanceMany_of_atEnd ended b
    | false => exact ih c.advance

theorem accept_of_head {x : Char} {more : List Char} (ahead : c.rest = x :: more) :
    c.accept x = (true, c.advance) := by
  rw [accept, ahead, List.head?_cons, if_pos rfl]

theorem accept_of_not_head {x : Char} (other : ¬∃ more, c.rest = x :: more) :
    c.accept x = (false, c) := by
  rw [accept, if_neg (by rwa [List.head?_eq_some_iff])]

theorem HasPassed.between (here : c.HasPassed passed) : c.Between passed c.rest where
  split := here.split
  offset := here.offset
  boundary := here.offset ▸ isBoundary_of_split here.split
  inside := by
    rw [here.offset, ← byteLength_toList, here.split, byteLength_append]
    exact Nat.le_add_right ..
  position := by
    rw [here.position, Position.afterAll_first, Nat.add_comm, Nat.add_comm (lastLine _).length]
  atEnd := List.isEmpty_iff
  current := by rw [Cursor.current, Cursor.peek, List.head?_eq_getElem?]
  peek _ := rfl
  accepts x := by
    by_cases begins : ∃ more, c.rest = x :: more
    · obtain ⟨more, ahead⟩ := begins
      simp [accept_of_head ahead, ahead]
    · simp only [accept_of_not_head begins, begins, Bool.false_eq_true]
  consumes x more ahead := by
    rw [accept_of_head ahead, rest_advance, ahead]
    exact ⟨here.advance ahead, rfl⟩
  stays x other := by rw [accept_of_not_head other]
  again := c.advanceMany_add
  slice before run split := (split ▸ here).sliceFrom

theorem HasPassed.sees (here : c.HasPassed passed) : c.toBytes.Sees c where
  atEnd := here.atEnd_toBytes
  current := here.current?_toBytes
  peek := here.peek?_toBytes
  accept := here.accept?_toBytes
  slice start starts earlier := by
    have stops : IsBoundary c.source c.offset := here.between.boundary
    obtain ⟨before, run, after, split, rfl, size⟩ :=
      exists_split_of_boundaries earlier starts stops
    rw [← byteLength_append, here.offset] at size
    obtain ⟨rfl, rfl⟩ := append_inj_of_byteLength (split.symm.trans here.split) size
    rw [here.sliceFrom?_toBytes, here.sliceFrom]

def Walks (source : String) (c : Cursor) : Prop :=
  c.source = source ∧ ∃ passed, c.HasPassed passed

variable {source : String}

theorem Walks.advanceMany (walks : c.Walks source) (n : Nat) : (c.advanceMany n).Walks source := by
  obtain ⟨rfl, passed, here⟩ := walks
  exact ⟨source_advanceMany n c, _, here.advanceMany n⟩

theorem Walks.advance (walks : c.Walks source) : c.advance.Walks source := by
  have one : c.advanceMany 1 = c.advance := by
    rw [Cursor.advanceMany, Cursor.advance, atEnd]
    cases c.rest <;> rfl
  rw [← one]
  exact walks.advanceMany 1

theorem Walks.accept (walks : c.Walks source) (x : Char) : (c.accept x).2.Walks source := by
  rw [Cursor.accept]
  split
  · exact walks.advance
  · exact walks

end Cursor

namespace Marked

def Walks (source : String) (m : Marked Cursor) : Prop :=
  ∀ c ∈ m.cursor :: m.marks, c.Walks source

variable {source : String} {m : Marked Cursor}

theorem Walks.moved (walks : m.Walks source) {c : Cursor} (there : c.Walks source) :
    Walks source { m with cursor := c } := by
  intro d member
  obtain rfl | kept := List.mem_cons.mp member
  · exact there
  · exact walks d (List.mem_cons_of_mem _ kept)

theorem Walks.perform (walks : m.Walks source) (x : Move) :
    (Cursor.perform m x).Walks source ∧
      ByteCursor.perform? (m.map Cursor.toBytes) x =
        some ((Cursor.perform m x).map Cursor.toBytes) := by
  have here := walks m.cursor List.mem_cons_self
  obtain ⟨_, passed, way⟩ := id here
  cases x with
  | advance =>
    refine ⟨walks.moved here.advance, ?_⟩
    rw [ByteCursor.perform?, map, way.advance?_toBytes]
    rfl
  | advanceMany n =>
    refine ⟨walks.moved (here.advanceMany n), ?_⟩
    rw [ByteCursor.perform?, map, way.advanceMany?_toBytes]
    rfl
  | eatWhile p =>
    refine ⟨walks.moved (here.advanceMany _), ?_⟩
    rw [ByteCursor.perform?, map, way.eatWhile?_toBytes]
    rfl
  | accept y =>
    refine ⟨walks.moved (here.accept y), ?_⟩
    rw [ByteCursor.perform?, map, way.accept?_toBytes]
    rfl
  | save =>
    refine ⟨?_, rfl⟩
    intro c member
    obtain rfl | kept := List.mem_cons.mp member
    · exact here
    · exact walks c kept
  | restore i =>
    exact ⟨walks.moved (walks _ (m.cursor_restore_mem i)), congrArg some (m.map_restore _ i)⟩

theorem Walks.run (walks : m.Walks source) (moves : List Move) :
    (moves.foldl Cursor.perform m).Walks source ∧
      moves.foldlM ByteCursor.perform? (m.map Cursor.toBytes) =
        some ((moves.foldl Cursor.perform m).map Cursor.toBytes) := by
  induction moves generalizing m with
  | nil => exact ⟨walks, rfl⟩
  | cons x moves ih =>
    obtain ⟨there, alike⟩ := walks.perform x
    rw [List.foldl_cons, List.foldlM_cons, alike]
    exact ih there

end Marked

/-- After any moves the cursor is between two parts of its source, and the cursor on bytes is at the
same place and sees the same. -/
theorem moves_refine (source : String) (moves : List Move) :
    let m := Cursor.run source moves
    ByteCursor.run? source moves = some (m.map Cursor.toBytes) ∧
      m.cursor.toBytes.Sees m.cursor ∧ m.cursor.source = source ∧
      ∃ consumed remaining, m.cursor.Between consumed remaining := by
  have start : Marked.Walks source ⟨.ofSource source, []⟩ := by
    intro c member
    rw [List.mem_singleton.mp member]
    exact ⟨rfl, [], Cursor.hasPassed_ofSource source⟩
  obtain ⟨walks, alike⟩ := start.run moves
  obtain ⟨same, passed, here⟩ := walks _ List.mem_cons_self
  exact ⟨alike, here.sees, same, passed, _, here.between⟩

example : ((Cursor.ofSource "\x00").accept '\x00').1 = true ∧
    ((Cursor.ofSource "").accept '\x00').1 = false := by decide

end ScriptLens
