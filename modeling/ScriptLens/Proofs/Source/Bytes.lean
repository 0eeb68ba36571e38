import ScriptLens.Proofs.Source.Walk
import ScriptLens.Proofs.Text.Utf8

/-! # Cursors on bytes

A cursor can do with the bytes of its source and an offset into them.  It then takes a byte below
128 for a character as it is and decodes a character only elsewhere, which fails where none begins.
On its way from the beginning of a text it never fails, and sees and does what a cursor on the
characters of the text does. -/

namespace ScriptLens

open Text

structure ByteCursor where
  bytes : List UInt8
  offset : Nat
  position : Position

namespace ByteCursor

def ofSource (source : String) : ByteCursor := ⟨Utf8.encode source, 0, .first⟩

def ahead (b : ByteCursor) : List UInt8 := b.bytes.drop b.offset

def atEnd (b : ByteCursor) : Bool := b.bytes.length ≤ b.offset

def remaining? (b : ByteCursor) : Option String := Utf8.decode? b.ahead

def current? (b : ByteCursor) : Option Char :=
  match b.ahead with
  | [] => some Cursor.beyond
  | x :: xs => if x < 0x80 then some (.ofNat x.toNat) else (Utf8.firstUnit x xs).1

def peek? (b : ByteCursor) (n : Nat) : Option Char :=
  if n = 0 then b.current? else b.remaining?.map fun text => text.toList[n]?.getD Cursor.beyond

def pass (b : ByteCursor) (size : Nat) (newline : Bool) : ByteCursor :=
  { b with
    offset := b.offset + size
    position :=
      if newline then ⟨b.position.line + 1, 1⟩ else ⟨b.position.line, b.position.column + 1⟩ }

@[simp] theorem bytes_pass (b : ByteCursor) (size : Nat) (newline : Bool) :
    (b.pass size newline).bytes = b.bytes := rfl

@[simp] theorem offset_pass (b : ByteCursor) (size : Nat) (newline : Bool) :
    (b.pass size newline).offset = b.offset + size := rfl

def advance? (b : ByteCursor) : Option ByteCursor :=
  match b.ahead with
  | [] => some b
  | x :: xs =>
    if x < 0x80 then some (b.pass 1 (x = 0x0A))
    else (Utf8.firstUnit x xs).1.map fun c => b.pass c.utf8Size false

def advanceMany? : Nat → ByteCursor → Option ByteCursor
  | 0, b => some b
  | n + 1, b => if b.atEnd then some b else b.advance?.bind (advanceMany? n)

theorem length_ahead (b : ByteCursor) : b.ahead.length = b.bytes.length - b.offset :=
  List.length_drop

theorem length_ahead_advance? {b next : ByteCursor} (more : b.atEnd = false)
    (moved : b.advance? = some next) : next.ahead.length < b.ahead.length := by
  have inside : b.offset < b.bytes.length := by simpa [atEnd] using more
  have further (size : Nat) (positive : 0 < size) (newline : Bool) :
      (b.pass size newline).ahead.length < b.ahead.length := by
    rw [length_ahead, length_ahead, bytes_pass, offset_pass]
    omega
  cases text : b.ahead with
  | nil =>
    have none := b.length_ahead
    rw [text, List.length_nil] at none
    omega
  | cons x xs =>
    rw [advance?, text] at moved
    rw [← text]
    dsimp only at moved
    split at moved
    · obtain rfl := Option.some.inj moved
      exact further 1 Nat.one_pos _
    · obtain ⟨c, _, rfl⟩ := Option.map_eq_some_iff.mp moved
      exact further c.utf8Size c.utf8Size_pos false

def eatWhile? (p : Char → Bool) (b : ByteCursor) : Option ByteCursor :=
  if _more : b.atEnd = true then some b
  else
    match b.current? with
    | none => none
    | some c =>
      if p c then
        match _moved : b.advance? with
        | none => none
        | some next => eatWhile? p next
      else some b
termination_by b.ahead.length
decreasing_by exact length_ahead_advance? (Bool.eq_false_iff.mpr _more) _moved

def accept? (x : Char) (b : ByteCursor) : Option (Bool × ByteCursor) :=
  if b.atEnd then some (false, b)
  else b.current?.bind fun c => if c = x then b.advance?.map (true, ·) else some (false, b)

def sliceFrom? (b : ByteCursor) (start : Nat) : Option String :=
  if start ≤ b.offset then Utf8.decode? ((b.bytes.take b.offset).drop start) else none

end ByteCursor

def Cursor.toBytes (c : Cursor) : ByteCursor := ⟨Utf8.encode c.source, c.offset, c.position⟩

namespace Text.Utf8

open String (utf8EncodeChar)

theorem length_flatMap_encode (cs : List Char) :
    (cs.flatMap utf8EncodeChar).length = byteLength cs := by
  induction cs with
  | nil => rfl
  | cons c cs ih =>
    rw [List.flatMap_cons, List.length_append, String.length_utf8EncodeChar, ih, byteLength_cons]

/-- A character that is not one byte begins with a byte that is no character, and so with no line
feed. -/
theorem exists_first_byte (c : Char) (rest : List UInt8) :
    ∃ x xs, utf8EncodeChar c ++ rest = x :: xs ∧ (firstUnit x xs).1 = some c ∧
      (x < 0x80 → c = .ofNat x.toNat ∧ c.utf8Size = 1) ∧ (x = 0x0A ↔ c = '\n') := by
  obtain ⟨x, xs, split, read⟩ := exists_firstUnit_encode c rest
  refine ⟨x, xs, split, congrArg Prod.fst read, ?_, ?_⟩
  · intro ascii
    have direct : firstUnit x xs = (some (.ofNat x.toNat), xs) := if_pos ascii
    obtain ⟨same, rfl⟩ := Prod.mk.inj (read.symm.trans direct)
    have size := congrArg List.length split
    rw [List.length_append, String.length_utf8EncodeChar, List.length_cons] at size
    exact ⟨Option.some.inj same, by omega⟩
  · constructor
    · rintro rfl
      have direct : firstUnit 0x0A xs = (some '\n', xs) := rfl
      exact Option.some.inj (congrArg Prod.fst (read.symm.trans direct))
    · rintro rfl
      exact (List.cons.inj split).1.symm

end Text.Utf8

namespace Cursor

open String (utf8EncodeChar)

variable {c : Cursor} {passed : List Char}

theorem HasPassed.encode_source (here : c.HasPassed passed) : Utf8.encode c.source =
    passed.flatMap utf8EncodeChar ++ c.rest.flatMap utf8EncodeChar := by
  rw [Utf8.encode, here.split, List.flatMap_append]

theorem HasPassed.ahead_toBytes (here : c.HasPassed passed) :
    c.toBytes.ahead = c.rest.flatMap utf8EncodeChar := by
  rw [ByteCursor.ahead, toBytes, here.encode_source, here.offset,
    List.drop_left' (Utf8.length_flatMap_encode _)]

theorem HasPassed.atEnd_toBytes (here : c.HasPassed passed) : c.toBytes.atEnd = c.atEnd := by
  have left := congrArg List.length here.ahead_toBytes
  rw [ByteCursor.length_ahead, Utf8.length_flatMap_encode] at left
  rw [ByteCursor.atEnd, atEnd]
  cases ahead : c.rest with
  | nil =>
    rw [ahead, byteLength_nil] at left
    exact decide_eq_true (Nat.le_of_sub_eq_zero left)
  | cons x rest =>
    have := x.utf8Size_pos
    rw [ahead, byteLength_cons] at left
    exact decide_eq_false (by omega)

theorem HasPassed.remaining?_toBytes (here : c.HasPassed passed) :
    c.toBytes.remaining? = some c.remaining := by
  rw [ByteCursor.remaining?, here.ahead_toBytes, Utf8.decode?_eq_some_iff, Utf8.encode,
    remaining, String.toList_ofList]

theorem HasPassed.current?_toBytes (here : c.HasPassed passed) :
    c.toBytes.current? = some c.current := by
  rw [ByteCursor.current?, here.ahead_toBytes, current, peek]
  cases c.rest with
  | nil => rfl
  | cons x rest =>
    obtain ⟨b, bs, split, read, ascii, _⟩ :=
      Utf8.exists_first_byte x (rest.flatMap utf8EncodeChar)
    rw [List.flatMap_cons, split]
    dsimp only
    split
    · rename_i single
      rw [← (ascii single).1]
      rfl
    · exact read

theorem HasPassed.peek?_toBytes (here : c.HasPassed passed) (n : Nat) :
    c.toBytes.peek? n = some (c.peek n) := by
  rw [ByteCursor.peek?]
  split
  · rename_i first
    rw [here.current?_toBytes, first, current]
  · rw [here.remaining?_toBytes, Option.map_some, remaining, String.toList_ofList]
    rfl

theorem HasPassed.advance?_toBytes (here : c.HasPassed passed) :
    c.toBytes.advance? = some c.advance.toBytes := by
  rw [ByteCursor.advance?, here.ahead_toBytes, Cursor.advance]
  cases c.rest with
  | nil => rfl
  | cons x rest =>
    obtain ⟨b, bs, split, read, ascii, feed⟩ :=
      Utf8.exists_first_byte x (rest.flatMap utf8EncodeChar)
    rw [List.flatMap_cons, split]
    dsimp only
    split
    · rename_i single
      simp only [ByteCursor.pass, toBytes, Position.after, (ascii single).2, feed,
        decide_eq_true_eq]
    · rename_i several
      have other : x ≠ '\n' := fun same => several (feed.mpr same ▸ by decide)
      simp only [read, Option.map_some, ByteCursor.pass, toBytes, Position.after, if_neg other,
        if_neg Bool.false_ne_true]

theorem HasPassed.advanceMany?_toBytes (here : c.HasPassed passed) (n : Nat) :
    c.toBytes.advanceMany? n = some (c.advanceMany n).toBytes := by
  induction n generalizing c passed with
  | zero => rfl
  | succ n ih =>
    rw [ByteCursor.advanceMany?, Cursor.advanceMany, here.atEnd_toBytes]
    cases ahead : c.rest with
    | nil => simp [atEnd, ahead]
    | cons x rest =>
      have more : c.atEnd = false := by simp [atEnd, ahead]
      rw [more, if_neg Bool.false_ne_true, if_neg Bool.false_ne_true, here.advance?_toBytes,
        Option.bind_some, ih (here.advance ahead)]

theorem eatWhile_of_pos {p : Char → Bool} {x : Char} {rest : List Char} (ahead : c.rest = x :: rest)
    (satisfied : p x = true) : eatWhile p c = eatWhile p c.advance := by
  have more : c.atEnd = false := by simp [atEnd, ahead]
  rw [eatWhile, eatWhile, rest_advance, ahead, List.takeWhile_cons_of_pos satisfied,
    List.length_cons, Cursor.advanceMany, more, if_neg Bool.false_ne_true, List.tail_cons]

theorem eatWhile_of_head {p : Char → Bool} (stops : ∀ x ∈ c.rest.head?, p x = false) :
    eatWhile p c = c := by
  have none : c.rest.takeWhile p = [] := by
    cases ahead : c.rest with
    | nil => rfl
    | cons x rest => simp [stops x (by simp [ahead])]
  rw [eatWhile, none]
  rfl

theorem HasPassed.eatWhile?_toBytes (here : c.HasPassed passed) (p : Char → Bool) :
    c.toBytes.eatWhile? p = some (c.eatWhile p).toBytes := by
  -- The loop goes down in bytes and the run in characters, so the induction is on what is ahead.
  induction ahead : c.rest generalizing c passed with
  | nil =>
    have ended : c.atEnd = true := by simp [atEnd, ahead]
    rw [ByteCursor.eatWhile?, here.atEnd_toBytes, dif_pos ended,
      eatWhile_of_head (by simp [ahead])]
  | cons x rest ih =>
    have more : c.atEnd = false := by simp [atEnd, ahead]
    have first : c.current = x := by simp [current, peek, ahead]
    rw [ByteCursor.eatWhile?, here.atEnd_toBytes, dif_neg (Bool.eq_false_iff.mp more),
      here.current?_toBytes, first]
    dsimp only
    cases satisfied : p x with
    | false => rw [if_neg Bool.false_ne_true, eatWhile_of_head (by simp [ahead, satisfied])]
    | true =>
      rw [if_pos rfl, eatWhile_of_pos ahead satisfied]
      split
      · rename_i failed
        rw [here.advance?_toBytes] at failed
        cases failed
      · rename_i next moved
        obtain rfl := Option.some.inj (here.advance?_toBytes.symm.trans moved)
        exact ih (here.advance ahead) (by rw [rest_advance, ahead, List.tail_cons])

theorem HasPassed.accept?_toBytes (here : c.HasPassed passed) (x : Char) :
    c.toBytes.accept? x = some ((c.accept x).1, (c.accept x).2.toBytes) := by
  rw [ByteCursor.accept?, here.atEnd_toBytes, accept]
  cases ahead : c.rest with
  | nil => simp [atEnd, ahead]
  | cons y rest =>
    have more : c.atEnd = false := by simp [atEnd, ahead]
    have first : c.current = y := by simp [current, peek, ahead]
    rw [more, if_neg Bool.false_ne_true, here.current?_toBytes, first, Option.bind_some]
    by_cases same : y = x
    · simp [same, here.advance?_toBytes]
    · simp [same]

theorem HasPassed.sliceFrom?_toBytes {run : List Char} (here : c.HasPassed (passed ++ run)) :
    c.toBytes.sliceFrom? (byteLength passed) = some (String.ofList run) := by
  have before : byteLength passed ≤ c.offset := by
    rw [here.offset, byteLength_append]
    exact Nat.le_add_right ..
  have slice : ((Utf8.encode c.source).take c.offset).drop (byteLength passed) =
      run.flatMap utf8EncodeChar := by
    rw [here.encode_source, here.offset, List.take_left' (Utf8.length_flatMap_encode _),
      List.flatMap_append, List.drop_left' (Utf8.length_flatMap_encode _)]
  rw [ByteCursor.sliceFrom?, toBytes, if_pos before, slice, Utf8.decode?_eq_some_iff,
    Utf8.encode, String.toList_ofList]

end Cursor

end ScriptLens
