import Mathlib.Data.List.SplitBy

/-! # Numbered lines

A list falls into lines behind the entries that end one, and each line can have something in front
of it that depends on its number.  A list that is put together from parts, none of which reaches
over the end of a line, falls into the same lines as the list of the parts. -/

namespace ScriptLens.Text

variable {α β : Type}

def linesBy (ends : α → Bool) (as : List α) : List (List α) := as.splitBy fun a _ => !ends a

def numbered (front : Nat → List α) (n : Nat) (lines : List (List α)) : List α :=
  (lines.mapIdx fun i line => front (n + i) ++ line).flatten

/-- Something that lies in one line: it reaches up to the end of the line, or it leaves it open. -/
inductive LinePart (ends : α → Bool) : Bool → List α → Prop
  | inner {body : List α} (nonempty : body ≠ []) (inside : ∀ b ∈ body, ends b = false) :
    LinePart ends false body
  | closing {body : List α} {a : α} (inside : ∀ b ∈ body, ends b = false)
    (last : ends a = true) : LinePart ends true (body ++ [a])

section linesBy

variable {ends : α → Bool} {body : List α} {a : α}

@[simp] theorem linesBy_nil (ends : α → Bool) : linesBy ends [] = [] := rfl

@[simp] theorem flatten_linesBy (ends : α → Bool) (as : List α) :
    (linesBy ends as).flatten = as := List.flatten_splitBy _ as

theorem isChain_of_forall (inside : ∀ b ∈ body, ends b = false) (after : List α)
    (short : after.length ≤ 1) : (body ++ after).IsChain fun a _ => (!ends a) = true := by
  induction body with
  | nil =>
    match after, short with
    | [], _ => exact .nil
    | [b], _ => exact .singleton b
  | cons b body ih =>
    have first := inside b List.mem_cons_self
    have later := ih fun c member => inside c (List.mem_cons_of_mem b member)
    exact later.cons fun _ _ => by rw [first]; rfl

theorem linesBy_of_forall (nonempty : body ≠ []) (inside : ∀ b ∈ body, ends b = false) :
    linesBy ends body = [body] := by
  have chain := isChain_of_forall inside [] (Nat.zero_le 1)
  rw [List.append_nil] at chain
  exact List.splitBy_of_isChain nonempty chain

theorem linesBy_append_cons (inside : ∀ b ∈ body, ends b = false) (last : ends a = true)
    (rest : List α) : linesBy ends (body ++ a :: rest) = (body ++ [a]) :: linesBy ends rest := by
  have chain := isChain_of_forall inside [a] (Nat.le_refl 1)
  have apart : ∀ b ∈ (body ++ [a]).getLast?, ∀ c ∈ rest.head?, (!ends b) = false := by
    intro b member c _
    rw [List.getLast?_concat] at member
    obtain rfl := Option.some.inj member
    rw [last]
    rfl
  rw [List.append_cons, linesBy, List.splitBy_append apart,
    List.splitBy_of_isChain (by simp) chain]
  rfl

theorem linesBy_induction {motive : List α → Prop} (ends : α → Bool) (nil : motive [])
    (last : ∀ body, body ≠ [] → (∀ b ∈ body, ends b = false) → motive body)
    (next : ∀ body a rest, (∀ b ∈ body, ends b = false) → ends a = true → motive rest →
      motive (body ++ a :: rest)) (as : List α) : motive as := by
  generalize size : as.length = n
  induction n using Nat.strongRecOn generalizing as with
  | ind n ih =>
    have inside : ∀ b ∈ as.takeWhile (!ends ·), ends b = false := by
      intro b member
      simpa using List.all_eq_true.mp List.all_takeWhile b member
    have whole := List.takeWhile_append_dropWhile (p := (!ends ·)) (l := as)
    cases ahead : as.dropWhile (!ends ·) with
    | nil =>
      rw [ahead, List.append_nil] at whole
      rw [whole] at inside
      by_cases empty : as = []
      · rw [empty]
        exact nil
      · exact last as empty inside
    | cons a rest =>
      have ended : ends a = true := by
        have fails := List.head?_dropWhile_not (!ends ·) as
        rw [ahead] at fails
        simpa using fails
      rw [ahead] at whole
      rw [← whole]
      refine next _ a rest inside ended (ih rest.length ?_ rest rfl)
      have length := congrArg List.length whole
      simp only [List.length_append, List.length_cons] at length
      omega

theorem mem_of_mem_linesBy {as line : List α} (among : line ∈ linesBy ends as)
    (member : a ∈ line) : a ∈ as := by
  rw [← flatten_linesBy ends as]
  exact List.mem_flatten_of_mem among member

end linesBy

section LinePart

variable {ends : α → Bool} {ends' : β → Bool} {part : α → List β} {as : List α}

theorem LinePart.ne_nil {ended : Bool} {bs : List β} (here : LinePart ends' ended bs) :
    bs ≠ [] := by
  cases here with
  | inner nonempty _ => exact nonempty
  | closing => simp

theorem LinePart.map {ended : Bool} {as : List α} (here : LinePart ends ended as) {f : α → β}
    (same : ∀ a, ends' (f a) = ends a) : LinePart ends' ended (as.map f) := by
  have inside {body : List α} (plain : ∀ a ∈ body, ends a = false) :
      ∀ b ∈ body.map f, ends' b = false :=
    List.forall_mem_map.mpr fun a member => (same a).trans (plain a member)
  cases here with
  | inner nonempty plain => exact .inner (by simp [nonempty]) (inside plain)
  | closing plain last =>
    rw [List.map_append]
    exact .closing (inside plain) ((same _).trans last)

theorem forall_flatMap_of_part (parts : ∀ a ∈ as, LinePart ends' (ends a) (part a))
    (inside : ∀ a ∈ as, ends a = false) : ∀ b ∈ as.flatMap part, ends' b = false := by
  intro b member
  obtain ⟨a, among, found⟩ := List.mem_flatMap.mp member
  have here := parts a among
  rw [inside a among] at here
  cases here with
  | inner _ plain => exact plain b found

theorem flatMap_ne_nil_of_part (parts : ∀ a ∈ as, LinePart ends' (ends a) (part a))
    (nonempty : as ≠ []) : as.flatMap part ≠ [] := by
  obtain ⟨a, among⟩ := List.exists_mem_of_ne_nil as nonempty
  intro empty
  exact (parts a among).ne_nil (List.flatMap_eq_nil_iff.mp empty a among)

theorem linesBy_flatMap (parts : ∀ a ∈ as, LinePart ends' (ends a) (part a)) :
    linesBy ends' (as.flatMap part) = (linesBy ends as).map (·.flatMap part) := by
  induction as using linesBy_induction ends with
  | nil => rfl
  | last body nonempty inside =>
    rw [linesBy_of_forall nonempty inside]
    exact linesBy_of_forall (flatMap_ne_nil_of_part parts nonempty)
      (forall_flatMap_of_part parts inside)
  | next body a rest inside last ih =>
    obtain ⟨before, here, after⟩ := List.forall_mem_append.mp parts |>.imp_right
      List.forall_mem_cons.mp
    have plain := forall_flatMap_of_part before inside
    rw [last] at here
    rw [linesBy_append_cons inside last, List.flatMap_append, List.flatMap_cons, List.map_cons,
      ← ih after, List.flatMap_append, List.flatMap_singleton]
    generalize part a = bs at here
    cases here with
    | closing more ended =>
      have solid := List.forall_mem_append.mpr ⟨plain, more⟩
      have first := linesBy_append_cons solid ended (rest.flatMap part)
      simpa using first

theorem linesBy_flatMap_closing (parts : ∀ a ∈ as, LinePart ends' true (part a)) :
    linesBy ends' (as.flatMap part) = as.map part := by
  induction as with
  | nil => rfl
  | cons a as ih =>
    obtain ⟨here, later⟩ := List.forall_mem_cons.mp parts
    rw [List.flatMap_cons, List.map_cons, ← ih later]
    generalize part a = bs at here
    cases here with
    | closing inside last => simpa using linesBy_append_cons inside last (as.flatMap part)

theorem linesBy_map {f : α → β} (same : ∀ a, ends' (f a) = ends a) (as : List α) :
    linesBy ends' (as.map f) = (linesBy ends as).map (·.map f) := by
  have parts : ∀ a ∈ as, LinePart ends' (ends a) [f a] := by
    intro a _
    rw [← same]
    cases last : ends' (f a) with
    | false => exact .inner (by simp) (by simpa using last)
    | true =>
      rw [← List.nil_append [f a]]
      exact .closing (by simp) last
  simpa only [← List.map_eq_flatMap] using linesBy_flatMap parts

end LinePart

section numbered

variable {front : Nat → List α} {n : Nat}

@[simp] theorem numbered_nil : numbered front n [] = [] := rfl

@[simp] theorem numbered_cons (line : List α) (lines : List (List α)) :
    numbered front n (line :: lines) = front n ++ line ++ numbered front (n + 1) lines := by
  simp [numbered, List.mapIdx_cons, Nat.add_comm 1, Nat.add_assoc]

@[simp] theorem numbered_empty (n : Nat) (lines : List (List α)) :
    numbered (fun _ => []) n lines = lines.flatten := by
  induction lines generalizing n with
  | nil => rfl
  | cons line lines ih => rw [numbered_cons, ih, List.flatten_cons, List.nil_append]

theorem mem_numbered {a : α} {lines : List (List α)} (member : a ∈ numbered front n lines) :
    (∃ i, a ∈ front i) ∨ a ∈ lines.flatten := by
  induction lines generalizing n with
  | nil => simp at member
  | cons line lines ih =>
    rw [numbered_cons, List.mem_append, List.mem_append] at member
    rw [List.flatten_cons, List.mem_append]
    obtain (ahead | here) | later := member
    · exact .inl ⟨n, ahead⟩
    · exact .inr (.inl here)
    · exact (ih later).imp_right .inr

theorem map_numbered (f : α → β) (front : Nat → List α) (n : Nat) (lines : List (List α)) :
    (numbered front n lines).map f =
      numbered (fun n => (front n).map f) n (lines.map (·.map f)) := by
  induction lines generalizing n with
  | nil => rfl
  | cons line lines ih => simp [ih]

variable {ends : α → Bool}

theorem linesBy_numbered (inside : ∀ n, ∀ b ∈ front n, ends b = false) (n : Nat) (as : List α) :
    linesBy ends (numbered front n (linesBy ends as)) =
      (linesBy ends as).mapIdx fun i line => front (n + i) ++ line := by
  induction as using linesBy_induction ends generalizing n with
  | nil => rfl
  | last body nonempty plain =>
    have solid := List.forall_mem_append.mpr ⟨inside n, plain⟩
    rw [linesBy_of_forall nonempty plain]
    simpa using linesBy_of_forall (by simp [nonempty]) solid
  | next body a rest plain last ih =>
    have solid := List.forall_mem_append.mpr ⟨inside n, plain⟩
    have first := linesBy_append_cons solid last
      (numbered front (n + 1) (linesBy ends rest))
    rw [linesBy_append_cons plain last, numbered_cons, List.mapIdx_cons, ← List.append_assoc,
      ← List.append_cons, first, ih]
    simp [Nat.add_comm 1, Nat.add_assoc]

end numbered

section lines

def isLineFeed (c : Char) : Bool := c = '\n'

def lines (s : String) : List String := (linesBy isLineFeed s.toList).map String.ofList

theorem isLineFeed_of_notMem {cs : List Char} (inside : '\n' ∉ cs) :
    ∀ c ∈ cs, isLineFeed c = false := by
  intro c member
  rw [isLineFeed, decide_eq_false_iff_not]
  rintro rfl
  exact inside member

example : lines "a\n\n b\n" = ["a\n", "\n", " b\n"] := by decide

end lines

end ScriptLens.Text
