import ScriptLens.Proofs.Lexer.Causes
import ScriptLens.Proofs.Lexer.Restart
import ScriptLens.Proofs.Token.Boundary

namespace ScriptLens

open Text

def IsWord (w : String) : Prop :=
  ∃ c cs, w.toList = c :: cs ∧ isIdentStart c = true ∧ ∀ d ∈ cs, isIdentContinue d = true

def Parted (text : List Char) : Prop := ∀ c ∈ text.head?, isIdentContinue c = false

section scanning

variable {c : Char} {cs : List Char}

theorem parted_dropWhile (cs : List Char) : Parted (cs.dropWhile isIdentContinue) := by
  intro c head
  have stops := List.head?_dropWhile_not isIdentContinue cs
  rw [head] at stops
  exact stops

theorem takeWhile_append_parted {after : List Char} (inside : ∀ d ∈ cs, isIdentContinue d = true)
    (parted : Parted after) : (cs ++ after).takeWhile isIdentContinue = cs := by
  rw [List.takeWhile_append_of_pos inside]
  cases after with
  | nil => simp
  | cons c after => simp [parted c rfl]

theorem isKeyword_iff {w : String} : isKeyword w = true ↔ w ∈ keywords := by
  simp [isKeyword]

theorem isWord_lexeme_word (start : isIdentStart c = true) (cs : List Char) :
    IsWord (String.ofList (Scan.word c cs).lexeme) := by
  refine ⟨c, cs.takeWhile isIdentContinue, String.toList_ofList, start, ?_⟩
  exact List.all_eq_true.mp List.all_takeWhile

theorem parted_rest_number (cs : List Char) : Parted (Scan.number cs).rest := by
  intro d head
  obtain ⟨ds, left⟩ := List.head?_eq_some_iff.mp head
  have stops := (NumericRun.isRun_ofText cs).ends d ds left
  rw [← Bool.not_eq_true]
  exact fun letter => stops (.word letter)

theorem beginsNumber_of_fault? {text : String}
    (found : (scan c cs).fault? = some (.invalidNumber text)) : beginsNumber (c :: cs) = true := by
  obtain ⟨more, lexeme⟩ := lexeme_scan c cs
  have whole := lexeme_append_rest_scan c cs
  have begins : beginsNumber (scan c cs).lexeme = true := by
    cases causes_scan found with
    | number begins => exact begins
  rw [lexeme] at begins whole
  rw [← whole]
  obtain digit | ⟨point, digit⟩ := beginsNumber_cons.mp begins
  · exact beginsNumber_cons.mpr (.inl digit)
  · cases more with
    | nil => cases digit
    | cons d more => exact beginsNumber_cons.mpr (.inr ⟨point, digit⟩)

theorem parted_rest_scan (whole : isIdentStart c = true ∨ beginsNumber (c :: cs) = true) :
    Parted (scan c cs).rest := by
  obtain start | begins := whole
  · rw [scan_word start]
    exact parted_dropWhile cs
  · rw [scan_number begins]
    exact parted_rest_number (c :: cs)

end scanning

section reading

variable {source : String}

theorem head?_word {w s : String} (word : IsWord w) (parted : Parted s.toList) :
    (tokenize (w ++ s)).head? = some ⟨if w ∈ keywords then .keyword else .identifier, w,
      ⟨0, w.utf8ByteSize, .first⟩⟩ := by
  obtain ⟨c, cs, spelling, start, inside⟩ := word
  have begins : (w ++ s).toList = c :: (cs ++ s.toList) := by
    rw [String.toList_append, spelling, List.cons_append]
  have lexeme : (Scan.word c (cs ++ s.toList)).lexeme = w.toList := by
    rw [spelling]
    exact congrArg (c :: ·) (takeWhile_append_parted inside parted)
  have kind : (Scan.word c (cs ++ s.toList)).kind =
      if w ∈ keywords then .keyword else .identifier := by
    simp only [Scan.kind_word, lexeme, String.ofList_toList, isKeyword_iff]
  rw [head?_tokenize begins, scan_word start, lexeme, kind, String.ofList_toList,
    byteLength_toList]

theorem lexeme_of_word {i : Nat} {t : Token} (at_i : (tokenize source)[i]? = some t)
    (kind : t.kind = .keyword ∨ t.kind = .identifier) :
    IsWord t.lexeme ∧ (t.kind = .keyword ↔ t.lexeme ∈ keywords) ∧
      ∃ before after, source.toList = before ++ t.lexeme.toList ++ after ∧
        byteLength before = t.span.start ∧ Parted after := by
  obtain ⟨before, c, cs, split, _, rfl⟩ := exists_scan_of_getElem?_tokenize at_i
  have start := (Scan.reveals c cs).word kind
  have whole := lexeme_append_rest_scan c cs
  have parted : Parted (scan c cs).rest := parted_rest_scan (.inl start)
  rw [scan_word start] at whole parted ⊢
  refine ⟨isWord_lexeme_word start cs, ?_, before, _, ?_, rfl, parted⟩
  · rw [← isKeyword_iff, Site.token, Scan.kind_word]
    split <;> simp_all
  · rw [Site.token, String.toList_ofList, List.append_assoc, whole, split]

def RecordsNumber (source : String) (handler : Handler) (i : Nat) : Prop :=
  ∃ d, ((Session.ofSource source handler true).afterCalls (i + 1)).handler.diagnostics =
      ((Session.ofSource source handler true).afterCalls i).handler.diagnostics ++ [d] ∧
    d.code = some ⟨"E", 1003⟩

theorem fault?_of_recordsNumber {handler : Handler} {i : Nat} {s : Scan}
    (records : RecordsNumber source handler i) (at_i : (scans source.toList)[i]? = some s) :
    ∃ text, s.fault? = some (.invalidNumber text) := by
  obtain ⟨d, recorded, code⟩ := records
  rw [diagnostics_afterCalls_succ source handler at_i, List.append_cancel_left_eq] at recorded
  have mapped := Option.toList_eq_singleton_iff.mp recorded
  obtain ⟨fault, found, rfl⟩ := Option.map_eq_some_iff.mp mapped
  cases fault with
  | invalidNumber text => exact ⟨text, found⟩
  | _ => cases code

theorem head?_behind {handler : Handler} {i : Nat} {t u : Token}
    (at_i : (tokenize source)[i]? = some t) (next : (tokenize source)[i + 1]? = some u)
    (whole : t.kind ∈ [.keyword, .identifier, .number] ∨ RecordsNumber source handler i) :
    Parted u.lexeme.toList := by
  obtain ⟨_, c, cs, _, found, rfl⟩ := exists_scan_of_getElem?_tokenize at_i
  obtain ⟨_, d, ds, left, rfl⟩ := exists_scan_of_next found next
  obtain ⟨more, lexeme⟩ := lexeme_scan d ds
  have parted : Parted (scan c cs).rest := by
    apply parted_rest_scan
    obtain kind | records := whole
    · replace kind : (scan c cs).kind ∈ [.keyword, .identifier, .number] := kind
      rw [List.mem_cons, List.mem_pair] at kind
      obtain keyword | identifier | number := kind
      · exact .inl ((Scan.reveals c cs).word (.inl keyword))
      · exact .inl ((Scan.reveals c cs).word (.inr identifier))
      · exact .inr ((Scan.reveals c cs).number number)
    · obtain ⟨text, fault⟩ := fault?_of_recordsNumber records found
      exact .inr (beginsNumber_of_fault? fault)
  rw [left] at parted
  rw [Site.token, String.toList_ofList, lexeme]
  exact parted

end reading

/-- Words are the tokens that a character of an identifier begins, each as long as characters of
identifiers go.  No token behind a word or a number begins with a character that could go on with
it. -/
theorem words_whole :
    (∀ w s : String, IsWord w → Parted s.toList →
      (tokenize (w ++ s)).head? = some ⟨if w ∈ keywords then .keyword else .identifier, w,
        ⟨0, w.utf8ByteSize, .first⟩⟩) ∧
    (∀ (source : String) (i : Nat) (t : Token), (tokenize source)[i]? = some t →
      t.kind = .keyword ∨ t.kind = .identifier →
      IsWord t.lexeme ∧ (t.kind = .keyword ↔ t.lexeme ∈ keywords) ∧
        ∃ before after, source.toList = before ++ t.lexeme.toList ++ after ∧
          byteLength before = t.span.start ∧ Parted after) ∧
    ∀ (source : String) (handler : Handler) (i : Nat) (t u : Token),
      (tokenize source)[i]? = some t → (tokenize source)[i + 1]? = some u →
      t.kind ∈ [.keyword, .identifier, .number] ∨ RecordsNumber source handler i →
      Parted u.lexeme.toList :=
  ⟨fun _ _ => head?_word, fun _ _ _ => lexeme_of_word, fun _ _ _ _ _ => head?_behind⟩

theorem words_whole_joined :
    (tokenize ("in\u200Dx" ++ ".y")).head? =
        some ⟨.identifier, "in\u200Dx", ⟨0, 6, .first⟩⟩ ∧
      (tokenize "(new")[1]? = some ⟨.keyword, "new", ⟨1, 4, ⟨1, 2⟩⟩⟩ ∧ IsWord "new" ∧
      "new" ∈ keywords ∧
      (tokenize "0b2\u200D;")[1]? = some ⟨.punctuation, ";", ⟨6, 7, ⟨1, 5⟩⟩⟩ ∧
      RecordsNumber "0b2\u200D;" .empty 0 ∧ Parted ";".toList := by
  have word : IsWord "in\u200Dx" :=
    ⟨'i', "n\u200Dx".toList, rfl, rfl, List.all_eq_true.mp rfl⟩
  have parted : Parted ".y".toList := by
    rintro _ ⟨⟩
    rfl
  have keyword : (tokenize "(new")[1]? = some ⟨.keyword, "new", ⟨1, 4, ⟨1, 2⟩⟩⟩ := by
    rw [tokenize_eq_scansUpTo]
    rfl
  have error : (tokenize "0b2\u200D;")[0]? = some ⟨.error, "0b2\u200D", ⟨0, 6, .first⟩⟩ := by
    rw [tokenize_eq_scansUpTo]
    rfl
  have next : (tokenize "0b2\u200D;")[1]? = some ⟨.punctuation, ";", ⟨6, 7, ⟨1, 5⟩⟩⟩ := by
    rw [tokenize_eq_scansUpTo]
    rfl
  have records : RecordsNumber "0b2\u200D;" .empty 0 := by
    have found : (scans "0b2\u200D;".toList)[0]? = some (scan '0' "b2\u200D;".toList) := by
      rw [show "0b2\u200D;".toList = '0' :: "b2\u200D;".toList from rfl, scans_cons]
      rfl
    refine ⟨(LexFault.invalidNumber "0b2\u200D").diagnostic ⟨0, 6, .first⟩, ?_, rfl⟩
    rw [diagnostics_afterCalls_succ _ _ found]
    rfl
  have head := words_whole.1 "in\u200Dx" ".y" word parted
  rw [if_neg (by decide)] at head
  obtain ⟨isWord, isKeyword, _⟩ := words_whole.2.1 "(new" 1 _ keyword (.inl rfl)
  exact ⟨head, keyword, isWord, isKeyword.mp rfl, next, records,
    words_whole.2.2 _ _ 0 _ _ error next (.inr records)⟩

end ScriptLens
