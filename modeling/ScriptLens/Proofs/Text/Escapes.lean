import ScriptLens.Json
import ScriptLens.Proofs.Text.Lines
import ScriptLens.Proofs.Text.Readable

namespace ScriptLens.Text

def hexValue (c : Char) : Nat :=
  if c.isDigit then c.toNat - '0'.toNat else c.toNat - 'a'.toNat + 10

def ofHex (cs : List Char) : Nat := cs.foldl (fun n c => 16 * n + hexValue c) 0

def named (c : Char) : Char :=
  if c = '0' then '\x00'
  else if c = 'b' then '\x08'
  else if c = 't' then '\t'
  else if c = 'n' then '\n'
  else if c = 'f' then '\x0C'
  else if c = 'r' then '\r'
  else c

def readCode : List Char → Option (Char × List Char)
  | 'u' :: '\x7b' :: cs =>
    some (.ofNat (ofHex (cs.takeWhile (· ≠ '\x7d'))), (cs.dropWhile (· ≠ '\x7d')).tail)
  | 'u' :: a :: b :: c :: d :: cs => some (.ofNat (ofHex [a, b, c, d]), cs)
  | c :: cs => some (named c, cs)
  | [] => none

def readEscaped : List Char → Option (Char × List Char)
  | [] => none
  | c :: cs =>
    if c = '"' then none else if c = '\\' then readCode cs else some (c, cs)

theorem hexValue_digitChar {d : Nat} (small : d < 16) : hexValue (Nat.digitChar d) = d := by
  revert d
  decide

theorem ofHex_toDigits (n : Nat) : ofHex (Nat.toDigits 16 n) = n := by
  induction n using Nat.strongRecOn with
  | ind n ih =>
    rw [Nat.toDigits_eq_if (by decide)]
    split
    · rename_i small
      simp [ofHex, hexValue_digitChar small]
    · rename_i large
      have value := hexValue_digitChar (Nat.mod_lt n (by decide : 0 < 16))
      have smaller := ih (n / 16) (by omega)
      rw [ofHex, List.foldl_append, ← ofHex, smaller, List.foldl_cons, List.foldl_nil, value]
      omega

theorem brace_not_mem_toDigits (n : Nat) : '\x7d' ∉ Nat.toDigits 16 n := by
  have digits : ∀ d < 16, Nat.digitChar d ≠ '\x7d' := by decide
  intro member
  obtain ⟨d, small, brace⟩ := exists_of_mem_toDigits (by decide) member
  exact digits d small brace

theorem readCode_braces (n : Nat) (cs : List Char) :
    readCode ('u' :: '\x7b' :: (Nat.toDigits 16 n ++ '\x7d' :: cs)) = some (.ofNat n, cs) := by
  have digits : ∀ c ∈ Nat.toDigits 16 n, decide (c ≠ '\x7d') = true := by
    intro c member
    rw [decide_eq_true_iff]
    rintro rfl
    exact brace_not_mem_toDigits n member
  rw [readCode, List.takeWhile_append_of_pos digits, List.dropWhile_append_of_pos digits,
    List.takeWhile_cons_of_neg (by decide), List.dropWhile_cons_of_neg (by decide),
    List.append_nil, List.tail_cons, ofHex_toDigits]

theorem readEscaped_escaped (c : Char) (cs : List Char) :
    readEscaped (escaped '"' c ++ cs) = some (c, cs) := by
  unfold escaped
  split_ifs with null tab feed carriage backslash quote visible
  · rw [null]; rfl
  · rw [tab]; rfl
  · rw [feed]; rfl
  · rw [carriage]; rfl
  · rw [backslash]; rfl
  · rw [quote]; rfl
  · rw [List.singleton_append, readEscaped, if_neg quote, if_neg backslash]
  · have code := readCode_braces c.toNat cs
    rw [Char.ofNat_toNat] at code
    simpa [readEscaped] using code

end ScriptLens.Text

namespace ScriptLens.Json

open Text

theorem readEscaped_escaped (c : Char) (cs : List Char) :
    readEscaped (escaped c ++ cs) = some (c, cs) := by
  unfold escaped
  split_ifs with quote backslash backspace tab feed page carriage control
  · rw [quote]; rfl
  · rw [backslash]; rfl
  · rw [backspace]; rfl
  · rw [tab]; rfl
  · rw [feed]; rfl
  · rw [page]; rfl
  · rw [carriage]; rfl
  · have high := hexValue_digitChar (d := c.toNat / 16) (by omega)
    have low := hexValue_digitChar (d := c.toNat % 16) (by omega)
    have code : ofHex ['0', '0', Nat.digitChar (c.toNat / 16), Nat.digitChar (c.toNat % 16)] =
        c.toNat := by
      simp only [ofHex, List.foldl_cons, List.foldl_nil, high, low]
      have zero : hexValue '0' = 0 := rfl
      omega
    have read : readEscaped (['\\', 'u', '0', '0', Nat.digitChar (c.toNat / 16),
        Nat.digitChar (c.toNat % 16)] ++ cs) = some (.ofNat (ofHex _), cs) := rfl
    rw [read, code, Char.ofNat_toNat]
  · rw [List.singleton_append, readEscaped, if_neg quote, if_neg backslash]

end ScriptLens.Json

namespace ScriptLens.Text

theorem Readable.quoted {escape : Char → List Char}
    (reads : ∀ c cs, readEscaped (escape c ++ cs) = some (c, cs)) :
    Readable AnyText fun s : String => '"' :: s.toList.flatMap escape ++ ['"'] := by
  have each : Readable AnyText escape := by
    intro a b xs ys _ _ same
    have read := (reads a xs).symm.trans ((congrArg readEscaped same).trans (reads b ys))
    simpa using read
  have apart : ∀ c xs ys, escape c ++ xs ≠ ['"'] ++ ys := by
    intro c xs ys same
    have read := (reads c xs).symm.trans (congrArg readEscaped same)
    cases read
  have body := each.flatMap (fun _ _ => trivial) (fun _ => trivial) apart
  intro s t xs ys _ _ same
  obtain ⟨chars, rest⟩ := body trivial trivial (List.cons_inj_right _ |>.mp same)
  exact ⟨String.toList_inj.mp chars, rest⟩

theorem readable_quoted : Readable AnyText fun s => (quoted s).toList := by
  simpa only [quoted, quotedWith, String.toList_ofList] using Readable.quoted readEscaped_escaped

section printable

open Unicode

def isGraphic (c : Char) : Bool := decide (0x20 ≤ c.toNat) && decide (c.toNat < 0x7F)

theorem isPrintable_of_isGraphic {c : Char} (graphic : isGraphic c = true) :
    isPrintable c = true := by
  obtain ⟨low, high⟩ : 0x20 ≤ c.toNat ∧ c.toNat < 0x7F := by simpa [isGraphic] using graphic
  simp [isPrintable, low, high]

theorem isPrintable_of_all {cs : List Char} (graphic : cs.all isGraphic = true) :
    ∀ c ∈ cs, isPrintable c = true :=
  fun c member => isPrintable_of_isGraphic (List.all_eq_true.mp graphic c member)

theorem isPrintable_of_mem_toDigits {base : Nat} (more : 1 < base) (less : base ≤ 16) (n : Nat) :
    ∀ c ∈ Nat.toDigits base n, isPrintable c = true := by
  have graphic : ∀ d < 16, isGraphic (Nat.digitChar d) = true := by decide
  intro c member
  obtain ⟨d, small, rfl⟩ := exists_of_mem_toDigits more member
  exact isPrintable_of_isGraphic (graphic d (Nat.lt_of_lt_of_le small less))

theorem isPrintable_of_mem_escaped (c : Char) : ∀ e ∈ escaped '"' c, isPrintable e = true := by
  unfold escaped
  split_ifs with null tab feed carriage backslash quote visible
  · exact isPrintable_of_all (by decide)
  · exact isPrintable_of_all (by decide)
  · exact isPrintable_of_all (by decide)
  · exact isPrintable_of_all (by decide)
  · exact isPrintable_of_all (by decide)
  · exact isPrintable_of_all (by decide)
  · rw [List.forall_mem_singleton]
    exact (Bool.and_eq_true_iff.mp visible).1
  · have opening : ∀ e ∈ ['\\', 'u', '\x7b'], isPrintable e = true :=
      isPrintable_of_all (by decide)
    have digits := isPrintable_of_mem_toDigits (by decide) (Nat.le_refl 16) c.toNat
    have closing : ∀ e ∈ ['\x7d'], isPrintable e = true := isPrintable_of_all (by decide)
    exact List.forall_mem_append.mpr ⟨List.forall_mem_append.mpr ⟨opening, digits⟩, closing⟩

theorem isPrintable_of_mem_quoted (s : String) : ∀ c ∈ (quoted s).toList, isPrintable c = true := by
  have mark : ∀ e ∈ ['"'], isPrintable e = true := isPrintable_of_all (by decide)
  have body : ∀ e ∈ s.toList.flatMap (escaped '"'), isPrintable e = true := by
    intro e member
    obtain ⟨c, _, found⟩ := List.mem_flatMap.mp member
    exact isPrintable_of_mem_escaped c e found
  rw [quoted, String.toList_ofList, quotedWith]
  exact List.forall_mem_append.mpr ⟨List.forall_mem_append.mpr ⟨mark, body⟩, mark⟩

end printable

end ScriptLens.Text
