import ScriptLens.Proofs.Lexer.Restart
import ScriptLens.Proofs.Token.Dispatch
import ScriptLens.Proofs.Token.Quotation

namespace ScriptLens

open Quotation Delimited

def IsQuotation (mark : Char) (multiline : Bool) (cs quoted : List Char) : Prop :=
  ∃ items after, cs = mark :: (items ++ mark :: after) ∧
    Items mark multiline (mark :: after) items ∧ quoted = mark :: (items ++ [mark])

structure ReadsQuotation (mark : Char) (multiline : Bool) (source : String) (t : Token) : Prop where
  closed : ∀ quoted, IsQuotation mark multiline source.toList quoted →
    t.kind = .string ∧ t.lexeme.toList = quoted
  cut : (¬∃ quoted, IsQuotation mark multiline source.toList quoted) →
    t.kind = .error ∧ ∃ items rest, Longest mark multiline source.toList.tail items rest ∧
      t.lexeme.toList = mark :: (items ++ strayBackslash rest)
  stops : t.kind = .error → t.lexeme = source ∨ multiline = false ∧
    ∃ c after next, source.toList = t.lexeme.toList ++ c :: after ∧ isLineTerminator c = true ∧
      (tokenize source)[1]? = some next ∧ next.lexeme.toList.head? = some c

structure ReplacesBrackets (f : Char → Char) : Prop where
  brackets : ∀ c ∈ ['$', '\x7b', '\x7d'], f c ∉ [backtick, '\\', '\r', '\n']
  others : ∀ c, c ∉ ['$', '\x7b', '\x7d'] → f c = c

section reading

variable {mark : Char} {multiline : Bool} {source : String} {fault : LexFault}
  {cs items rest : List Char}

theorem IsQuotation.read {quoted : List Char} (proper : mark ≠ '\\')
    (isQuotation : IsQuotation mark multiline (mark :: cs) quoted) :
    (quotation mark multiline cs).closed = true ∧
      mark :: (quotation mark multiline cs).taken = quoted := by
  obtain ⟨items, after, split, isItems, rfl⟩ := isQuotation
  obtain ⟨_, rfl⟩ := List.cons.inj split
  rw [quotation_closed proper isItems]
  exact ⟨rfl, rfl⟩

theorem exists_next {c d : Char} {ds : List Char} (begins : source.toList = c :: cs)
    (left : (scan c cs).rest = d :: ds) :
    ∃ next, (tokenize source)[1]? = some next ∧ next.lexeme.toList.head? = some d := by
  have rest : (String.ofList (scan c cs).rest).toList = d :: ds := by
    rw [String.toList_ofList, left]
  obtain ⟨more, lexeme⟩ := lexeme_scan d ds
  rw [tokenize_cons begins, tokenize_cons rest]
  refine ⟨_, rfl, ?_⟩
  simp [Token.moved, Site.token, lexeme]

section first

variable (proper : mark ≠ '\\') (begins : source.toList = mark :: cs)
  (scanned : scan mark cs = .ofDelimited [mark] .string fault (.quotation mark multiline cs))
include proper begins scanned

theorem readsQuotation_of_closed {after : List Char} (split : cs = items ++ mark :: after)
    (isItems : Items mark multiline (mark :: after) items) :
    ReadsQuotation mark multiline source (Site.token ⟨[], scan mark cs⟩) := by
  have found := quotation_closed proper isItems
  rw [← split] at found
  rw [scanned, found]
  constructor
  · intro quoted isQuotation
    rw [begins] at isQuotation
    obtain ⟨_, rfl⟩ := isQuotation.read proper
    rw [found]
    exact ⟨rfl, String.toList_ofList⟩
  · intro none
    exact absurd ⟨_, items, after, by rw [begins, split], isItems, rfl⟩ none
  · nofun

theorem readsQuotation_of_open (split : cs = items ++ rest)
    (isItems : Items mark multiline rest items) (stops : Stops mark multiline rest)
    (unmarked : ∀ after, rest ≠ mark :: after) :
    ReadsQuotation mark multiline source (Site.token ⟨[], scan mark cs⟩) := by
  obtain ⟨left, found, stop⟩ := quotation_open isItems stops unmarked
  have whole := lexeme_append_rest_scan mark cs
  have next {c : Char} {after : List Char} (behind : (scan mark cs).rest = c :: after) :=
    exists_next begins behind
  rw [← split] at found
  rw [scanned, found] at whole next ⊢
  constructor
  · intro quoted isQuotation
    rw [begins] at isQuotation
    obtain ⟨closed, _⟩ := isQuotation.read proper
    rw [found] at closed
    cases closed
  · intro _
    refine ⟨rfl, items, rest, ?_, String.toList_ofList⟩
    rw [begins, List.tail_cons, split]
    exact isItems.longest stops proper
  · intro _
    have text : source.toList = mark :: (items ++ strayBackslash rest) ++ left :=
      begins.trans whole.symm
    obtain rfl | ⟨oneLine, c, after, rfl, ends⟩ := stop
    · refine .inl (String.toList_inj.mp ?_)
      rw [text, List.append_nil]
      exact String.toList_ofList
    · obtain ⟨token, second, head⟩ := next rfl
      refine .inr ⟨oneLine, c, after, token, ?_, ends, second, head⟩
      rw [text]
      exact congrArg (· ++ c :: after) String.toList_ofList.symm

theorem exists_readsQuotation :
    ∃ t, (tokenize source).head? = some t ∧ ReadsQuotation mark multiline source t := by
  refine ⟨_, by rw [tokenize_cons begins, List.head?_cons], ?_⟩
  obtain ⟨items, rest, split, isItems, stops⟩ := exists_stops mark multiline cs
  by_cases closes : ∃ after, rest = mark :: after
  · obtain ⟨after, rfl⟩ := closes
    exact readsQuotation_of_closed proper begins scanned split isItems
  · exact readsQuotation_of_open proper begins scanned split isItems stops (not_exists.mp closes)

end first

end reading

section replacing

variable {f : Char → Char} {source : String}

theorem ReplacesBrackets.keeps (replaces : ReplacesBrackets f) : Keeps f backtick := by
  have fixed {x : Char} (special : x ∈ [backtick, '\\', '\r', '\n']) (c : Char) :
      f c = x ↔ c = x := by
    by_cases bracket : c ∈ ['$', '\x7b', '\x7d']
    · have apart : ∀ x ∈ [backtick, '\\', '\r', '\n'], x ∉ ['$', '\x7b', '\x7d'] := by
        simp [backtick]
      constructor
      · rintro rfl
        exact absurd special (replaces.brackets c bracket)
      · rintro rfl
        exact absurd bracket (apart c special)
    · rw [replaces.others c bracket]
  exact ⟨fixed (by decide), fixed (by decide), fixed (by decide), fixed (by decide)⟩

theorem head_replaced (replaces : ReplacesBrackets f) {cs : List Char} {t : Token}
    (begins : source.toList = backtick :: cs) (first : (tokenize source).head? = some t) :
    ∃ u, (tokenize (String.ofList (source.toList.map f))).head? = some u ∧ u.kind = t.kind ∧
      u.lexeme.toList = t.lexeme.toList.map f := by
  have keeps := replaces.keeps
  have same : f backtick = backtick := (keeps.delimiter backtick).mpr rfl
  have begins' : (String.ofList (source.toList.map f)).toList = backtick :: cs.map f := by
    rw [String.toList_ofList, begins, List.map_cons, same]
  rw [tokenize_cons begins, List.head?_cons, scan_backtick] at first
  obtain rfl := Option.some.inj first
  rw [tokenize_cons begins', List.head?_cons, scan_backtick, quotation_map keeps (by decide)]
  refine ⟨_, rfl, rfl, ?_⟩
  simp [Site.token, Scan.ofDelimited, same]

end replacing

/-- A source that begins with a quotation mark begins with a quotation as its first token, or with
what there is of one.  The brackets of substitutions have no part in where a template ends. -/
theorem quotation_read :
    (∀ quote ∈ quotes, ∀ source : String, source.toList.head? = some quote →
      ∃ t, (tokenize source).head? = some t ∧ ReadsQuotation quote false source t) ∧
    ∀ source : String, source.toList.head? = some backtick →
      ∃ t, (tokenize source).head? = some t ∧ ReadsQuotation backtick true source t ∧
        (t.kind = .error → t.lexeme = source) ∧
        ∀ f, ReplacesBrackets f →
          ∃ u, (tokenize (String.ofList (source.toList.map f))).head? = some u ∧
            u.kind = t.kind ∧ u.lexeme.toList = t.lexeme.toList.map f := by
  constructor
  · intro quote isQuote source head
    obtain ⟨cs, begins⟩ := List.head?_eq_some_iff.mp head
    have proper : ∀ quote ∈ quotes, quote ≠ '\\' := by simp [quotes]
    exact exists_readsQuotation (proper quote isQuote) begins (scan_quote isQuote cs)
  · intro source head
    obtain ⟨cs, begins⟩ := List.head?_eq_some_iff.mp head
    obtain ⟨t, first, reads⟩ := exists_readsQuotation (by decide) begins (scan_backtick cs)
    refine ⟨t, first, reads, ?_, fun f replaces => head_replaced replaces begins first⟩
    intro error
    exact (reads.stops error).resolve_right fun oneLine => Bool.false_ne_true oneLine.1.symm

theorem quotation_read_escaped :
    ReadsQuotation '\'' false "'\\\\\\'\r" ⟨.error, "'\\\\\\'", ⟨0, 5, .first⟩⟩ ∧
      ReadsQuotation backtick true "\x60$\x7b\x60\x7d" ⟨.string, "\x60$\x7b\x60", ⟨0, 4, .first⟩⟩ ∧
      ∃ u, (tokenize (String.ofList ("\x60$\x7b\x60\x7d".toList.map fun c =>
          if c ∈ ['$', '\x7b', '\x7d'] then '_' else c))).head? = some u ∧
        u.kind = .string ∧ u.lexeme.toList = [backtick, '_', '_', backtick] := by
  have string : (tokenize "'\\\\\\'\r").head? = some ⟨.error, "'\\\\\\'", ⟨0, 5, .first⟩⟩ := by
    rw [tokenize_eq_scansUpTo]
    rfl
  have template : (tokenize "\x60$\x7b\x60\x7d").head? =
      some ⟨.string, "\x60$\x7b\x60", ⟨0, 4, .first⟩⟩ := by
    rw [tokenize_eq_scansUpTo]
    rfl
  obtain ⟨t, first, reads⟩ := quotation_read.1 '\'' (by decide) "'\\\\\\'\r" rfl
  obtain ⟨u, first', reads', _, replaced⟩ := quotation_read.2 "\x60$\x7b\x60\x7d" rfl
  obtain rfl := Option.some.inj (first.symm.trans string)
  obtain rfl := Option.some.inj (first'.symm.trans template)
  refine ⟨reads, reads', replaced _ ⟨by simp [backtick], ?_⟩⟩
  intro c other
  exact if_neg other

end ScriptLens
