/-! # Slices by byte offset

Offsets into a text count the bytes of its UTF-8 form.  A slice exists only when both of its ends
fall between two characters; `slice?_eq_some_iff` says which characters it then has. -/

namespace ScriptLens.Text

def byteLength : List Char → Nat
  | [] => 0
  | c :: cs => c.utf8Size + byteLength cs

@[simp] theorem byteLength_nil : byteLength [] = 0 := rfl

@[simp] theorem byteLength_cons (c : Char) (cs : List Char) :
    byteLength (c :: cs) = c.utf8Size + byteLength cs := rfl

@[simp] theorem byteLength_append (as bs : List Char) :
    byteLength (as ++ bs) = byteLength as + byteLength bs := by
  induction as with
  | nil => simp
  | cons a as ih => simp [ih, Nat.add_assoc]

def dropBytes? : List Char → Nat → Option (List Char)
  | cs, 0 => some cs
  | [], _ + 1 => none
  | c :: cs, n + 1 => if c.utf8Size ≤ n + 1 then dropBytes? cs (n + 1 - c.utf8Size) else none

def takeBytes? : List Char → Nat → Option (List Char)
  | _, 0 => some []
  | [], _ + 1 => none
  | c :: cs, n + 1 =>
    if c.utf8Size ≤ n + 1 then (takeBytes? cs (n + 1 - c.utf8Size)).map (c :: ·) else none

def slice? (cs : List Char) (start stop : Nat) : Option (List Char) :=
  if start ≤ stop then (dropBytes? cs start).bind (takeBytes? · (stop - start)) else none

theorem dropBytes?_eq_some_iff {cs rest : List Char} {n : Nat} :
    dropBytes? cs n = some rest ↔ ∃ before, cs = before ++ rest ∧ byteLength before = n := by
  induction cs generalizing n with
  | nil =>
    cases n with
    | zero =>
      constructor
      · intro h
        exact ⟨[], by simpa [dropBytes?, eq_comm] using h, rfl⟩
      · rintro ⟨before, h, _⟩
        simp_all [dropBytes?]
    | succ n =>
      simp only [dropBytes?, reduceCtorEq, false_iff]
      rintro ⟨before, h, hn⟩
      simp_all
  | cons c cs ih =>
    have pos := c.utf8Size_pos
    cases n with
    | zero =>
      constructor
      · intro h
        exact ⟨[], by simpa [dropBytes?, eq_comm] using h, rfl⟩
      · rintro ⟨before, h, hn⟩
        cases before with
        | nil => simpa [dropBytes?] using h
        | cons b bs => have := b.utf8Size_pos; simp at hn; omega
    | succ n =>
      rw [dropBytes?]
      split
      · rw [ih]
        constructor
        · rintro ⟨before, rfl, hn⟩
          exact ⟨c :: before, rfl, by simp; omega⟩
        · rintro ⟨before, h, hn⟩
          cases before with
          | nil => simp at hn
          | cons b bs =>
            simp only [List.cons_append, List.cons.injEq] at h
            obtain ⟨rfl, rfl⟩ := h
            exact ⟨bs, rfl, by simp at hn; omega⟩
      · simp only [reduceCtorEq, false_iff]
        rintro ⟨before, h, hn⟩
        cases before with
        | nil => simp at hn
        | cons b bs =>
          simp only [List.cons_append, List.cons.injEq] at h
          obtain ⟨rfl, rfl⟩ := h
          simp at hn
          omega

theorem takeBytes?_eq_some_iff {cs taken : List Char} {n : Nat} :
    takeBytes? cs n = some taken ↔ ∃ after, cs = taken ++ after ∧ byteLength taken = n := by
  induction cs generalizing n taken with
  | nil =>
    cases n with
    | zero =>
      simp only [takeBytes?, Option.some.injEq]
      constructor
      · rintro rfl
        exact ⟨[], rfl, rfl⟩
      · rintro ⟨after, h, _⟩
        simp_all
    | succ n =>
      simp only [takeBytes?, reduceCtorEq, false_iff]
      rintro ⟨after, h, hn⟩
      simp_all
  | cons c cs ih =>
    have pos := c.utf8Size_pos
    cases n with
    | zero =>
      simp only [takeBytes?, Option.some.injEq]
      constructor
      · rintro rfl
        exact ⟨c :: cs, rfl, rfl⟩
      · rintro ⟨after, h, hn⟩
        cases taken with
        | nil => rfl
        | cons b bs => have := b.utf8Size_pos; simp at hn; omega
    | succ n =>
      rw [takeBytes?]
      split
      · rw [Option.map_eq_some_iff]
        constructor
        · rintro ⟨tail, h, rfl⟩
          obtain ⟨after, rfl, hn⟩ := ih.1 h
          exact ⟨after, rfl, by simp; omega⟩
        · rintro ⟨after, h, hn⟩
          cases taken with
          | nil => simp at hn
          | cons b bs =>
            simp only [List.cons_append, List.cons.injEq] at h
            obtain ⟨rfl, rfl⟩ := h
            exact ⟨bs, ih.2 ⟨after, rfl, by simp at hn; omega⟩, rfl⟩
      · simp only [reduceCtorEq, false_iff]
        rintro ⟨after, h, hn⟩
        cases taken with
        | nil => simp at hn
        | cons b bs =>
          simp only [List.cons_append, List.cons.injEq] at h
          obtain ⟨rfl, rfl⟩ := h
          simp at hn
          omega

theorem slice?_eq_some_iff {cs middle : List Char} {start stop : Nat} :
    slice? cs start stop = some middle ↔
      ∃ before after, cs = before ++ middle ++ after ∧ byteLength before = start ∧
        start + byteLength middle = stop := by
  unfold slice?
  split
  · simp only [Option.bind_eq_some_iff, dropBytes?_eq_some_iff, takeBytes?_eq_some_iff]
    constructor
    · rintro ⟨rest, ⟨before, rfl, rfl⟩, after, rfl, h⟩
      exact ⟨before, after, by simp, rfl, by omega⟩
    · rintro ⟨before, after, rfl, rfl, h⟩
      exact ⟨middle ++ after, ⟨before, by simp, rfl⟩, after, rfl, by omega⟩
  · simp only [reduceCtorEq, false_iff]
    rintro ⟨before, after, _, rfl, h⟩
    omega

end ScriptLens.Text
