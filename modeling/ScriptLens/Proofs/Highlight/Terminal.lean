import Mathlib.Data.List.Forall2
import ScriptLens.Highlight.Style
import ScriptLens.Proofs.Text.Lines

namespace ScriptLens

open Text

def Style.select (s : Style) : List Nat → Style
  | [] => s
  | 38 :: 2 :: r :: g :: b :: ns =>
    { s with foreground := some ⟨.ofNat r, .ofNat g, .ofNat b⟩ }.select ns
  | 48 :: 2 :: r :: g :: b :: ns =>
    { s with background := some ⟨.ofNat r, .ofNat g, .ofNat b⟩ }.select ns
  | 0 :: ns => plain.select ns
  | 1 :: ns => { s with bold := true }.select ns
  | 3 :: ns => { s with italic := true }.select ns
  | _ :: ns => s.select ns

structure Cell where
  char : Char
  style : Style := .plain
  deriving DecidableEq

/-- What a terminal is in the middle of: ordinary text, or an escape sequence with the parameters
that it has so far and the number that is being read. -/
inductive Terminal.Mode
  | text
  | escape
  | parameters (before : List Nat) (current : Nat)
  deriving DecidableEq

structure Terminal where
  pen : Style := .plain
  mode : Terminal.Mode := .text
  shown : List Cell := []
  deriving DecidableEq

namespace Terminal

def put (t : Terminal) (c : Char) : Terminal :=
  match t.mode with
  | .text =>
    if c = '\x1b' then { t with mode := .escape }
    else { t with shown := t.shown ++ [⟨c, t.pen⟩] }
  | .escape => { t with mode := if c = '[' then .parameters [] 0 else .text }
  | .parameters before current =>
    if c.isDigit then
      { t with mode := .parameters before (10 * current + (c.toNat - '0'.toNat)) }
    else if c = ';' then { t with mode := .parameters (before ++ [current]) 0 }
    else if c = 'm' then { t with mode := .text, pen := t.pen.select (before ++ [current]) }
    else { t with mode := .text }

def feed (t : Terminal) (cs : List Char) : Terminal := cs.foldl put t

def idle (shown : List Cell) : Terminal := { shown }

@[simp] theorem feed_nil (t : Terminal) : t.feed [] = t := rfl

@[simp] theorem feed_cons (t : Terminal) (c : Char) (cs : List Char) :
    t.feed (c :: cs) = (t.put c).feed cs := rfl

@[simp] theorem feed_append (t : Terminal) (as bs : List Char) :
    t.feed (as ++ bs) = (t.feed as).feed bs := List.foldl_append

variable {pen : Style} {shown : List Cell} {before : List Nat}

theorem feed_text {cs : List Char} (plain : '\x1b' ∉ cs) :
    feed ⟨pen, .text, shown⟩ cs = ⟨pen, .text, shown ++ cs.map (⟨·, pen⟩)⟩ := by
  induction cs generalizing shown with
  | nil => simp
  | cons c cs ih =>
    obtain ⟨other, later⟩ := not_or.mp (mt List.mem_cons.mpr plain)
    have here : put ⟨pen, .text, shown⟩ c = ⟨pen, .text, shown ++ [⟨c, pen⟩]⟩ :=
      if_neg (Ne.symm other)
    rw [feed_cons, here, ih later]
    simp

theorem feed_digits {cs : List Char} (digits : ∀ c ∈ cs, c.isDigit = true) (current : Nat) :
    feed ⟨pen, .parameters before current, shown⟩ cs =
      ⟨pen, .parameters before (Nat.ofDigitChars 10 cs current), shown⟩ := by
  induction cs generalizing current with
  | nil => rfl
  | cons c cs ih =>
    obtain ⟨digit, later⟩ := List.forall_mem_cons.mp digits
    have here : put ⟨pen, .parameters before current, shown⟩ c =
        ⟨pen, .parameters before (10 * current + (c.toNat - '0'.toNat)), shown⟩ := if_pos digit
    rw [feed_cons, here, ih later, Nat.ofDigitChars_cons]

theorem feed_number (n : Nat) :
    feed ⟨pen, .parameters before 0, shown⟩ (toString n).toList =
      ⟨pen, .parameters before n, shown⟩ := by
  have digits : ∀ c ∈ Nat.toDigits 10 n, c.isDigit = true := by
    intro c member
    exact Nat.isDigit_of_mem_toDigits (by decide) (by decide) member
  rw [Nat.toString_eq_repr, Nat.toList_repr, feed_digits digits, Nat.ofDigitChars_ten_toDigits]

/-- The separator ends a number and begins the next, and the last number is ended by `m`. -/
theorem feed_parameters (pen : Style) (shown : List Cell) (before : List Nat) {ns : List Nat}
    (nonempty : ns ≠ []) :
    feed ⟨pen, .parameters before 0, shown⟩
        (String.intercalate ";" (ns.map fun n => toString n) ++ "m").toList =
      ⟨pen.select (before ++ ns), .text, shown⟩ := by
  induction ns generalizing before with
  | nil => exact absurd rfl nonempty
  | cons n ns ih =>
    by_cases last : ns = []
    · rw [last, List.map_singleton, String.intercalate_singleton, String.toList_append,
        feed_append, feed_number]
      rfl
    · have more : ns.map (fun n => toString n) ≠ [] := by simp [last]
      rw [List.map_cons, String.intercalate_cons_of_ne_nil more, String.append_assoc,
        String.append_assoc, String.toList_append, String.toList_append, feed_append, feed_append,
        feed_number, List.append_cons, ← ih (before ++ [n]) last]
      rfl

end Terminal

namespace Style

theorem codes_ne_nil {s : Style} (painted : s ≠ plain) : s.codes ≠ [] := by
  obtain ⟨foreground, background, bold, italic⟩ := s
  contrapose! painted
  simp only [codes, List.append_eq_nil_iff] at painted
  obtain ⟨⟨⟨noForeground, noBackground⟩, upright⟩, light⟩ := painted
  cases foreground <;> cases background <;> cases bold <;> cases italic <;> simp_all [plain]

theorem select_codes (s : Style) : plain.select s.codes = s := by
  obtain ⟨foreground, background, bold, italic⟩ := s
  cases foreground <;> cases background <;> cases bold <;> cases italic <;>
    simp [codes, select, Rgb.codes, plain]

theorem isLine_paint (s : Style) {text : String} (line : IsLine text) : IsLine (s.paint text) := by
  have separator : IsLine ";" := by decide
  have numbers : ∀ l ∈ s.codes.map fun n => toString n, IsLine l :=
    List.forall_mem_map.mpr fun n _ => isLine_repr n
  have opening : IsLine "[" := by decide
  have closing : IsLine "m" := by decide
  have escapes : IsLine escape := by decide
  have off : IsLine offSequence := by decide
  rw [paint]
  split
  · exact line
  · have codes := isLine_intercalate separator numbers
    simp only [onSequence, isLine_append]
    exact ⟨⟨⟨⟨⟨escapes, opening⟩, codes⟩, closing⟩, line⟩, off⟩

end Style

namespace Terminal

theorem feed_onSequence {s : Style} (painted : s ≠ .plain) (shown : List Cell) :
    (idle shown).feed s.onSequence.toList = ⟨s, .text, shown⟩ := by
  have read := feed_parameters .plain shown [] (Style.codes_ne_nil painted)
  rw [List.nil_append, Style.select_codes] at read
  rw [Style.onSequence, String.append_assoc, String.append_assoc, String.toList_append,
    String.toList_append, feed_append, feed_append]
  exact read

theorem feed_offSequence (s : Style) (shown : List Cell) :
    feed ⟨s, .text, shown⟩ Style.offSequence.toList = idle shown := rfl

/-- Between escape sequences, and in the plain style before and after, a text adds these cells. -/
def Shows (cs : List Char) (cells : List Cell) : Prop :=
  ∀ shown, (idle shown).feed cs = idle (shown ++ cells)

namespace Shows

theorem nil : Shows [] [] := by
  intro shown
  rw [feed_nil, List.append_nil]

theorem append {as bs : List Char} {cells more : List Cell} (first : Shows as cells)
    (later : Shows bs more) : Shows (as ++ bs) (cells ++ more) := by
  intro shown
  rw [feed_append, first, later, List.append_assoc]

theorem flatMap {α : Type} {text : α → List Char} {cells : α → List Cell} {as : List α}
    (each : ∀ a ∈ as, Shows (text a) (cells a)) : Shows (as.flatMap text) (as.flatMap cells) := by
  induction as with
  | nil => exact nil
  | cons a as ih =>
    obtain ⟨first, later⟩ := List.forall_mem_cons.mp each
    exact first.append (ih later)

theorem flatten {texts : List (List Char)} {rows : List (List Cell)}
    (each : List.Forall₂ Shows texts rows) : Shows texts.flatten rows.flatten := by
  induction each with
  | nil => exact nil
  | cons first _ ih => exact first.append ih

theorem paint (s : Style) {cs : List Char} (plain : '\x1b' ∉ cs) :
    Shows (s.paint (String.ofList cs)).toList (cs.map (⟨·, s⟩)) := by
  intro shown
  by_cases bare : cs = [] ∨ s = .plain
  · have same : s.paint (String.ofList cs) = String.ofList cs := by
      rw [Style.paint, if_pos (by simpa [Style.isPlain] using bare)]
    rw [same, String.toList_ofList]
    obtain rfl | rfl := bare
    · rw [feed_nil, List.map_nil, List.append_nil]
    · exact feed_text plain
  · have painted : s ≠ .plain := fun unpainted => bare (.inr unpainted)
    rw [Style.paint, if_neg (by simpa [Style.isPlain] using bare), String.toList_append,
      String.toList_append, feed_append, feed_append, feed_onSequence painted,
      String.toList_ofList, feed_text plain, feed_offSequence]

theorem lineFeed : Shows ['\n'] [⟨'\n', .plain⟩] := fun _ => rfl

end Shows

end Terminal

end ScriptLens
