import Mathlib.Data.List.TakeWhile
import ScriptLens.Proofs.Lexer.Restart
import ScriptLens.Proofs.Token.Dispatch

namespace ScriptLens

open Text Delimited

/-- The text has a `*/` behind the characters `before`, which are at least those of a `/*`. -/
def Closes (before text : List Char) : Prop :=
  2 ≤ byteLength before ∧ before ++ ['*', '/'] <+: text

/-- The first `*/` of the text stands behind the characters `body`. -/
structure FirstClosing (body text : List Char) : Prop where
  here : body ++ ['*', '/'] <+: text
  first : ∀ other, other ++ ['*', '/'] <+: text → body.length ≤ other.length

section blockComment

variable {body cs : List Char}

theorem blockComment_cases (cs : List Char) :
    (∃ body, FirstClosing body cs ∧ (blockComment cs).closed = true ∧
      (blockComment cs).taken = body ++ ['*', '/']) ∨
    (∀ body, ¬body ++ ['*', '/'] <+: cs) ∧ blockComment cs = ⟨false, cs, []⟩ := by
  fun_induction blockComment cs with
  | case1 => exact .inr ⟨by simp, rfl⟩
  | case2 cs => exact .inl ⟨[], ⟨⟨cs, rfl⟩, fun _ _ => Nat.zero_le _⟩, rfl, rfl⟩
  | case3 c cs other ih =>
    have behind {body : List Char} (here : body ++ ['*', '/'] <+: c :: cs) :
        ∃ more, body = c :: more ∧ more ++ ['*', '/'] <+: cs := by
      cases body with
      | nil =>
        obtain ⟨after, same⟩ := here
        obtain ⟨rfl, rfl⟩ := List.cons.inj same
        exact (other after rfl rfl).elim
      | cons d more =>
        obtain ⟨rfl, later⟩ := List.cons_prefix_cons.mp here
        exact ⟨more, rfl, later⟩
    obtain ⟨body, ⟨here, first⟩, closed, taken⟩ | ⟨none, whole⟩ := ih
    · refine .inl ⟨c :: body, ⟨?_, ?_⟩, closed, congrArg (c :: ·) taken⟩
      · exact List.cons_prefix_cons.mpr ⟨rfl, here⟩
      · intro body' here'
        obtain ⟨more, rfl, later⟩ := behind here'
        exact Nat.succ_le_succ (first more later)
    · refine .inr ⟨?_, congrArg (prepend [c]) whole⟩
      intro body here
      obtain ⟨more, rfl, later⟩ := behind here
      exact none more later

theorem closes_iff {before : List Char} :
    Closes before ('/' :: '*' :: cs) ↔
      ∃ body, before = '/' :: '*' :: body ∧ body ++ ['*', '/'] <+: cs := by
  constructor
  · rintro ⟨far, here⟩
    match before, far, here with
    | [_], far, here =>
      obtain ⟨rfl, _⟩ := List.cons_prefix_cons.mp here
      exact absurd far (by decide)
    | a :: b :: body, _, here =>
      obtain ⟨rfl, next⟩ := List.cons_prefix_cons.mp here
      obtain ⟨rfl, closing⟩ := List.cons_prefix_cons.mp next
      exact ⟨body, rfl, closing⟩
  · rintro ⟨body, rfl, here⟩
    refine ⟨?_, ?_⟩
    · have slash : '/'.utf8Size = 1 := rfl
      have star : '*'.utf8Size = 1 := rfl
      rw [byteLength_cons, byteLength_cons]
      omega
    · simpa using here

end blockComment

section reading

variable {source : String}

theorem exists_lineComment (begins : ['/', '/'] <+: source.toList) :
    ∃ text rest, source.toList = text ++ rest ∧
      (tokenize source).head? =
        some ⟨.comment, String.ofList text, ⟨0, byteLength text, .first⟩⟩ ∧
      '\n' ∉ text ∧ '\r' ∉ text ∧ ∀ c ∈ rest.head?, c = '\n' ∨ c = '\r' := by
  obtain ⟨cs, begins⟩ := begins
  have inside {c : Char} (ends : isLineTerminator c = true) (other : c ≠ '/') :
      c ∉ '/' :: '/' :: cs.takeWhile (!isLineTerminator ·) := by
    intro member
    simp only [List.mem_cons, other, false_or] at member
    simpa [ends] using List.mem_takeWhile_imp member
  refine ⟨'/' :: '/' :: cs.takeWhile (!isLineTerminator ·), cs.dropWhile (!isLineTerminator ·),
    ?_, head?_tokenize begins.symm, inside rfl (by decide), inside rfl (by decide), ?_⟩
  · rw [← begins]
    simp
  · intro c head
    have stops := List.head?_dropWhile_not (!isLineTerminator ·) cs
    rw [head] at stops
    simpa [isLineTerminator, or_iff_not_imp_left] using stops

theorem exists_blockComment (begins : ['/', '*'] <+: source.toList)
    (closes : ∃ before, Closes before source.toList) :
    ∃ before, Closes before source.toList ∧
      (∀ other, Closes other source.toList → before.length ≤ other.length) ∧
      (tokenize source).head? = some ⟨.comment, String.ofList (before ++ ['*', '/']),
        ⟨0, byteLength before + 2, .first⟩⟩ := by
  obtain ⟨cs, begins⟩ := begins
  have text : source.toList = '/' :: '*' :: cs := begins.symm
  have head := head?_tokenize text
  rw [text] at closes ⊢
  obtain ⟨body, ⟨here, first⟩, closed, taken⟩ | ⟨none, _⟩ := blockComment_cases cs
  · refine ⟨'/' :: '*' :: body, closes_iff.mpr ⟨body, rfl, here⟩, ?_, ?_⟩
    · intro other closes
      obtain ⟨body', rfl, here'⟩ := closes_iff.mp closes
      exact Nat.succ_le_succ (Nat.succ_le_succ (first body' here'))
    · have lexeme : (scan '/' ('*' :: cs)).lexeme = '/' :: '*' :: body ++ ['*', '/'] :=
        congrArg ('/' :: '*' :: ·) taken
      have kind : (scan '/' ('*' :: cs)).kind = .comment := by
        rw [show scan '/' ('*' :: cs) = Scan.slash ('*' :: cs) from rfl, Scan.slash,
          Scan.kind_ofDelimited, if_pos closed]
      have size : byteLength ('/' :: '*' :: body ++ ['*', '/']) =
          byteLength ('/' :: '*' :: body) + 2 := byteLength_append _ _
      simpa only [lexeme, kind, size] using head
  · obtain ⟨_, closes⟩ := closes
    obtain ⟨body, _, here⟩ := closes_iff.mp closes
    exact absurd here (none body)

theorem tokenize_unclosed (begins : ['/', '*'] <+: source.toList)
    (unclosed : ∀ before, ¬Closes before source.toList) :
    tokenize source = [⟨.error, source, ⟨0, source.utf8ByteSize, .first⟩⟩] := by
  obtain ⟨cs, begins⟩ := begins
  have text : source.toList = '/' :: '*' :: cs := begins.symm
  obtain ⟨body, ⟨here, _⟩, _⟩ | ⟨_, whole⟩ := blockComment_cases cs
  · rw [text] at unclosed
    exact absurd (closes_iff.mpr ⟨body, rfl, here⟩) (unclosed _)
  · have found : scan '/' ('*' :: cs) =
        ⟨.error .unterminatedComment, '/' :: '*' :: cs, []⟩ := by
      rw [show scan '/' ('*' :: cs) = Scan.slash ('*' :: cs) from rfl, Scan.slash, whole]
      rfl
    have spelling : String.ofList ('/' :: '*' :: cs) = source := by
      rw [← text, String.ofList_toList]
    have size : byteLength ('/' :: '*' :: cs) = source.utf8ByteSize := by
      rw [← text, byteLength_toList]
    rw [tokenize_cons text, found]
    simp only [Site.token, Site.span, spelling, size, byteLength_nil, Nat.zero_add]
    rw [String.ofList_nil, tokenize_empty]
    rfl

theorem exists_whitespace {c : Char} (begins : source.toList.head? = some c)
    (white : isWhitespace c = true) :
    ∃ text, text <+: source.toList ∧
      (tokenize source).head? =
        some ⟨.whitespace, String.ofList text, ⟨0, byteLength text, .first⟩⟩ ∧
      (∀ c ∈ text, isWhitespace c = true) ∧
      ∀ other, other <+: source.toList → (∀ c ∈ other, isWhitespace c = true) →
        other <+: text := by
  obtain ⟨cs, begins⟩ := List.head?_eq_some_iff.mp begins
  have head := head?_tokenize begins
  have run : (c :: cs).takeWhile isWhitespace = c :: cs.takeWhile isWhitespace :=
    List.takeWhile_cons_of_pos white
  rw [scan_whitespace white, ← run] at head
  rw [begins]
  refine ⟨_, List.takeWhile_prefix _, head, fun _ member => List.mem_takeWhile_imp member, ?_⟩
  rintro other ⟨after, here⟩ inside
  rw [← here, List.takeWhile_append_of_pos inside]
  exact List.prefix_append _ _

theorem whitespace_apart {i : Nat} {t u : Token} (at_i : (tokenize source)[i]? = some t)
    (next : (tokenize source)[i + 1]? = some u) (white : t.kind = .whitespace) :
    u.kind ≠ .whitespace := by
  obtain ⟨_, c, cs, _, found, rfl⟩ := exists_scan_of_getElem?_tokenize at_i
  obtain ⟨_, d, ds, left, rfl⟩ := exists_scan_of_next found next
  rw [scan_whitespace ((Scan.reveals c cs).whitespace white)] at left
  have stops := List.head?_dropWhile_not isWhitespace cs
  rw [show cs.dropWhile isWhitespace = d :: ds from left] at stops
  intro white'
  exact absurd ((Scan.reveals d ds).whitespace white') (Bool.eq_false_iff.mp stops)

end reading

/-- Comments and whitespace at the beginning of a source are its first token, each as far as the
text says. -/
theorem trivia_cut :
    (∀ source : String, ['/', '/'] <+: source.toList → ∃ text rest,
      source.toList = text ++ rest ∧
      (tokenize source).head? =
        some ⟨.comment, String.ofList text, ⟨0, byteLength text, .first⟩⟩ ∧
      '\n' ∉ text ∧ '\r' ∉ text ∧ ∀ c ∈ rest.head?, c = '\n' ∨ c = '\r') ∧
    (∀ source : String, ['/', '*'] <+: source.toList →
      ((∃ before, Closes before source.toList) → ∃ before, Closes before source.toList ∧
        (∀ other, Closes other source.toList → before.length ≤ other.length) ∧
        (tokenize source).head? = some ⟨.comment, String.ofList (before ++ ['*', '/']),
          ⟨0, byteLength before + 2, .first⟩⟩) ∧
      ((∀ before, ¬Closes before source.toList) →
        tokenize source = [⟨.error, source, ⟨0, source.utf8ByteSize, .first⟩⟩])) ∧
    (∀ (source : String) (c : Char), source.toList.head? = some c → isWhitespace c = true →
      ∃ text, text <+: source.toList ∧
        (tokenize source).head? =
          some ⟨.whitespace, String.ofList text, ⟨0, byteLength text, .first⟩⟩ ∧
        (∀ c ∈ text, isWhitespace c = true) ∧
        ∀ other, other <+: source.toList → (∀ c ∈ other, isWhitespace c = true) →
          other <+: text) ∧
    ∀ (source : String) (i : Nat) (t u : Token), (tokenize source)[i]? = some t →
      (tokenize source)[i + 1]? = some u → t.kind = .whitespace → u.kind ≠ .whitespace :=
  ⟨fun _ => exists_lineComment,
    fun _ begins => ⟨exists_blockComment begins, tokenize_unclosed begins⟩,
    fun _ _ => exists_whitespace, fun _ _ _ _ => whitespace_apart⟩

theorem trivia_cut_star :
    (∃ text rest, "//é\r/".toList = text ++ rest ∧
      (tokenize "//é\r/").head? =
        some ⟨.comment, String.ofList text, ⟨0, byteLength text, .first⟩⟩ ∧
      '\n' ∉ text ∧ '\r' ∉ text ∧ ∀ c ∈ rest.head?, c = '\n' ∨ c = '\r') ∧
    (∃ before, Closes before "/*/**/*/".toList ∧
      (∀ other, Closes other "/*/**/*/".toList → before.length ≤ other.length) ∧
      String.ofList (before ++ ['*', '/']) = "/*/**/") ∧
    (∀ before, ¬Closes before "/*/".toList) ∧
    tokenize "/*/" = [⟨.error, "/*/", ⟨0, 3, .first⟩⟩] ∧
    ∃ text u, (tokenize "\uFEFF\ra").head? =
        some ⟨.whitespace, String.ofList text, ⟨0, byteLength text, .first⟩⟩ ∧
      "\uFEFF".toList <+: text ∧ (tokenize "\uFEFF\ra")[1]? = some u ∧ u.kind ≠ .whitespace := by
  have closes : Closes "/*/*".toList "/*/**/*/".toList := ⟨by decide, by decide⟩
  have unclosed : ∀ before, ¬Closes before "/*/".toList := by
    intro before closes
    obtain ⟨body, _, here⟩ := closes_iff.mp closes
    simpa using here.length_le
  refine ⟨trivia_cut.1 "//é\r/" (by decide), ?_, unclosed,
    (trivia_cut.2.1 "/*/" (by decide)).2 unclosed, ?_⟩
  · obtain ⟨before, here, first, head⟩ :=
      (trivia_cut.2.1 "/*/**/*/" (by decide)).1 ⟨_, closes⟩
    have found : (tokenize "/*/**/*/").head? = some ⟨.comment, "/*/**/", ⟨0, 6, .first⟩⟩ := by
      rw [tokenize_eq_scansUpTo]
      rfl
    rw [found] at head
    exact ⟨before, here, first, (congrArg Token.lexeme (Option.some.inj head)).symm⟩
  · have next : (tokenize "\uFEFF\ra")[1]? = some ⟨.identifier, "a", ⟨4, 5, ⟨1, 3⟩⟩⟩ := by
      rw [tokenize_eq_scansUpTo]
      rfl
    obtain ⟨text, _, head, _, longest⟩ := trivia_cut.2.2.1 "\uFEFF\ra" '\uFEFF' rfl rfl
    refine ⟨text, _, head, longest _ (by decide) (List.all_eq_true.mp rfl), next, ?_⟩
    rw [List.head?_eq_getElem?] at head
    exact trivia_cut.2.2.2 "\uFEFF\ra" 0 _ _ head next rfl

end ScriptLens
