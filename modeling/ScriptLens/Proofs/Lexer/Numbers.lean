import ScriptLens.Proofs.Lexer.Restart
import ScriptLens.Proofs.Token.Literal

namespace ScriptLens

open NumericRun

section boundary

/-- A source that begins like a number begins with its run, the one prefix that ends where no
character joins any more. -/
theorem number_ends_at_boundary {source : String} (begins : beginsNumber source.toList = true) :
    ∃ t, (tokenize source).head? = some t ∧ (t.kind = .number ∨ t.kind = .error) ∧
      (t.kind = .number ↔ Numeral.isValid t.lexeme.toList = true) ∧
      ∀ run, (run ≠ [] ∧ ∃ rest, source.toList = run ++ rest ∧ IsRun run rest) ↔
        run = t.lexeme.toList := by
  obtain ⟨c, cs, text⟩ : ∃ c cs, source.toList = c :: cs := by
    cases text : source.toList with
    | nil => rw [text] at begins; cases begins
    | cons c cs => exact ⟨c, cs, rfl⟩
  have head : (tokenize source).head? = some (Site.token ⟨[], .number (c :: cs)⟩) := by
    rw [text] at begins
    rw [tokenize_cons text, scan_number begins, List.head?_cons]
  have kind : (Site.token ⟨[], .number (c :: cs)⟩).kind =
      if Numeral.isValid (ofText (c :: cs)).1 then .number else .error :=
    Scan.kind_number (c :: cs)
  have lexeme : (Site.token ⟨[], .number (c :: cs)⟩).lexeme.toList = (ofText (c :: cs)).1 :=
    String.toList_ofList
  refine ⟨_, head, ?_, ?_, ?_⟩
  · rw [kind]
    split
    · exact .inl rfl
    · exact .inr rfl
  · rw [kind, lexeme]
    cases Numeral.isValid (ofText (c :: cs)).1 <;> simp
  · intro run
    rw [lexeme, text]
    constructor
    · rintro ⟨_, rest, split, isRun⟩
      rw [(isRun_iff split).mp isRun]
    · rintro rfl
      have isRun := isRun_ofText (c :: cs)
      have split := (ofText_append (c :: cs)).symm
      exact ⟨isRun.ne_nil (text ▸ begins) split, _, split, isRun⟩

theorem number_ends_at_member :
    beginsNumber "3.14.15e+2.x".toList = true ∧
      ∃ t, (tokenize "3.14.15e+2.x").head? = some t ∧ (t.kind = .number ∨ t.kind = .error) ∧
        (t.kind = .number ↔ Numeral.isValid t.lexeme.toList = true) ∧
        ∀ run, (run ≠ [] ∧ ∃ rest, "3.14.15e+2.x".toList = run ++ rest ∧ IsRun run rest) ↔
          run = t.lexeme.toList := by
  have begins : beginsNumber "3.14.15e+2.x".toList = true := by rfl
  exact ⟨begins, number_ends_at_boundary begins⟩

end boundary

theorem isValid_of_kind_scan {c : Char} {cs : List Char} (number : (scan c cs).kind = .number) :
    Numeral.isValid (scan c cs).lexeme = true := by
  have dispatch := scan_dispatch c cs
  generalize scan c cs = s at dispatch number ⊢
  cases dispatch with
  | whitespace | punctuation => cases number
  | slash =>
    have kind := Scan.kind_slash cs
    simp [number] at kind
  | quoted | template =>
    rw [Scan.kind_ofDelimited] at number
    split at number <;> cases number
  | number =>
    rw [Scan.kind_number] at number
    by_contra invalid
    simp [invalid] at number
  | word =>
    rw [Scan.kind_word] at number
    split at number <;> cases number
  | operator =>
    have kind := Scan.kind_operator c cs
    simp [number] at kind

theorem tokenize_literal_append {t s : String} (valid : Numeral.isValid t.toList = true)
    (leaves : Numeral.Leaves t.toList s.toList) :
    tokenize (t ++ s) =
      ⟨.number, t, ⟨0, t.utf8ByteSize, .first⟩⟩ :: (tokenize s).map (·.moved t s) := by
  cases text : t.toList with
  | nil =>
    rw [text] at valid
    cases valid
  | cons c cs =>
    rw [text] at valid leaves
    have begins : (t ++ s).toList = c :: (cs ++ s.toList) := by
      rw [String.toList_append, text, List.cons_append]
    rw [tokenize_cons begins, Numeral.scan_literal valid leaves, ← text]
    simp [Site.token, Site.span, Scan.kind, Text.byteLength_toList]

theorem leaves_of_sign {literal rest : List Char} {sign : Char} (either : sign ∈ ['+', '-'])
    (begins : rest.head? = some sign) : Numeral.Leaves literal rest := by
  obtain ⟨after, rfl⟩ := List.head?_eq_some_iff.mp begins
  obtain rfl | rfl := List.mem_pair.mp either
  · exact .other rfl (by decide)
  · exact .other rfl (by decide)

/-- The literals are the sources that are one number.  Where the text behind a literal leaves it
alone, as a sign does, it stays the first token, and the others are those of that text. -/
theorem literal_is_token :
    (∀ t : String, tokenize t = [⟨.number, t, ⟨0, t.utf8ByteSize, .first⟩⟩] ↔
      Numeral.isValid t.toList = true) ∧
    (∀ t s : String, Numeral.isValid t.toList = true → Numeral.Leaves t.toList s.toList →
      tokenize (t ++ s) =
        ⟨.number, t, ⟨0, t.utf8ByteSize, .first⟩⟩ :: (tokenize s).map (·.moved t s)) ∧
    ∀ t s : String, Numeral.isValid t.toList = true →
      (∃ sign ∈ ['+', '-'], s.toList.head? = some sign) →
      (tokenize (t ++ s)).head? = some ⟨.number, t, ⟨0, t.utf8ByteSize, .first⟩⟩ := by
  refine ⟨?_, fun t s => tokenize_literal_append, ?_⟩
  rotate_left
  · rintro t s valid ⟨sign, either, begins⟩
    rw [tokenize_literal_append valid (leaves_of_sign either begins), List.head?_cons]
  intro t
  constructor
  · intro alone
    cases text : t.toList with
    | nil =>
      obtain rfl : t = "" := by simpa using text
      rw [tokenize_empty] at alone
      cases alone
    | cons c cs =>
      rw [tokenize_cons text] at alone
      have first := (List.cons.inj alone).1
      have lexeme : (scan c cs).lexeme = c :: cs := by
        rw [← text, ← congrArg (·.lexeme.toList) first]
        exact String.toList_ofList.symm
      rw [← lexeme]
      exact isValid_of_kind_scan (congrArg (·.kind) first)
  · intro valid
    have alone := tokenize_literal_append (s := "") valid .nothing
    simpa using alone

theorem literal_is_token_hexadecimal :
    tokenize "0x1e" = [⟨.number, "0x1e", ⟨0, 4, .first⟩⟩] ∧
      tokenize ("0x1e" ++ ".x") =
        ⟨.number, "0x1e", ⟨0, 4, .first⟩⟩ :: (tokenize ".x").map (·.moved "0x1e" ".x") ∧
      (tokenize ("0x1e" ++ "+5")).head? = some ⟨.number, "0x1e", ⟨0, 4, .first⟩⟩ := by
  have valid : Numeral.isValid "0x1e".toList = true := by decide
  have leaves : Numeral.Leaves "0x1e".toList ".x".toList :=
    .member (c := 'x') (by decide) (.inr rfl) rfl
  exact ⟨(literal_is_token.1 "0x1e").mpr valid, literal_is_token.2.1 "0x1e" ".x" valid leaves,
    literal_is_token.2.2 "0x1e" "+5" valid ⟨'+', by decide, rfl⟩⟩

end ScriptLens
