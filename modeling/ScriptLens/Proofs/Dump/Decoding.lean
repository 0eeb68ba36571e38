import ScriptLens.Dump
import ScriptLens.Proofs.Dump.Records
import ScriptLens.Proofs.Highlight.Pieces

namespace ScriptLens

open Text

theorem readable_alignLeft_name :
    Readable AnyText fun k : TokenKind => (alignLeft 11 k.name).toList := by
  have width (k : TokenKind) : (alignLeft 11 k.name).toList.length = 11 := by
    cases k <;> rfl
  have named (k : TokenKind) :
      TokenKind.ofName? (.ofList ((alignLeft 11 k.name).toList.takeWhile (· ≠ ' '))) = some k := by
    cases k <;> decide
  intro j k xs ys _ _ same
  obtain ⟨texts, rest⟩ := List.append_inj same ((width j).trans (width k).symm)
  have kinds := named j
  dsimp only at texts
  rw [texts, named k] at kinds
  exact ⟨(Option.some.inj kinds).symm, rest⟩

namespace Token

def row (t : Token) : UInt32 × UInt32 × TokenKind × String :=
  (t.span.position.line, t.span.position.column, t.kind, t.lexeme)

variable {t u : Token}

theorem row_eq_of_dumpLine_eq (same : t.dumpLine = u.dumpLine) : t.row = u.row := by
  have colon (xs : List Char) : NoDigit (":".toList ++ xs) := noDigit_cons (by decide) xs
  have blank (xs : List Char) : NoDigit ("  ".toList ++ xs) := noDigit_cons (by decide) (' ' :: xs)
  have texts := congrArg String.toList same
  simp only [dumpLine, Position.text, Nat.toString_eq_repr, String.toList_append,
    List.append_assoc] at texts
  obtain ⟨line, texts⟩ := Readable.repr (colon _) (colon _) texts
  obtain ⟨column, texts⟩ :=
    Readable.repr (blank _) (blank _) (List.append_cancel_left texts)
  obtain ⟨kind, texts⟩ := readable_alignLeft_name trivial trivial (List.append_cancel_left texts)
  obtain ⟨lexeme, _⟩ := readable_quoted trivial trivial (List.append_cancel_left texts)
  rw [row, UInt32.toNat_inj.mp line, UInt32.toNat_inj.mp column, kind, lexeme]
  rfl

theorem dumpLine_eq_of_row_eq (same : t.row = u.row) : t.dumpLine = u.dumpLine := by
  obtain ⟨line, column, kind, lexeme⟩ : _ ∧ _ ∧ _ ∧ _ := by simpa [row] using same
  rw [dumpLine, dumpLine, Position.text, Position.text, line, column, kind, lexeme]

theorem record_injective : Function.Injective record := by
  rintro ⟨kind, lexeme, start, stop, line, column⟩ ⟨kind', lexeme', start', stop', line', column'⟩
    same
  simp only [record, List.cons.injEq, Prod.mk.injEq, Json.Scalar.text.injEq,
    Json.Scalar.number.injEq, UInt32.toNat_inj, true_and, and_true] at same
  obtain ⟨name, rfl, rfl, rfl, rfl, rfl⟩ := same
  rw [TokenKind.name_injective name]

theorem linePart_dumpLine (t : Token) : LinePart isLineFeed true t.dumpLine.toList := by
  have colon : IsLine ":" := by decide
  have blanks : IsLine "  " := by decide
  have name : IsLine t.kind.name := by cases t.kind <;> decide
  have body : IsLine (t.span.position.text ++ "  " ++ alignLeft 11 t.kind.name ++ "  " ++
      quoted t.lexeme) := by
    simp [Position.text, alignLeft, isLine_fill, isLine_quoted, colon, blanks, name]
  have feed : "\n".toList = ['\n'] := rfl
  rw [dumpLine, String.toList_append, feed]
  exact .closing (isLineFeed_of_notMem body) rfl

theorem isPrintable_of_mem_dumpLine {c : Char} (member : c ∈ t.dumpLine.toList) :
    c = '\n' ∨ Unicode.isPrintable c = true := by
  have colon : ∀ c ∈ ":".toList, Unicode.isPrintable c = true := isPrintable_of_all (by decide)
  have blanks : ∀ c ∈ "  ".toList, Unicode.isPrintable c = true := isPrintable_of_all (by decide)
  have feed : "\n".toList = ['\n'] := rfl
  have number (n : Nat) : ∀ c ∈ n.repr.toList, Unicode.isPrintable c = true := by
    rw [Nat.toList_repr]
    exact isPrintable_of_mem_toDigits (by decide) (by decide) n
  have name : ∀ c ∈ (alignLeft 11 t.kind.name).toList, Unicode.isPrintable c = true := by
    apply isPrintable_of_all
    cases t.kind <;> decide
  have lexeme := isPrintable_of_mem_quoted t.lexeme
  simp only [dumpLine, Position.text, Nat.toString_eq_repr, String.toList_append,
    List.mem_append, feed, List.mem_singleton] at member
  grind

end Token

theorem lines_write (ts : List Token) :
    lines (DumpFormat.text.write ts) = ts.map Token.dumpLine := by
  rw [lines, DumpFormat.write, String.toList_join, List.flatMap_map,
    linesBy_flatMap_closing fun t _ => t.linePart_dumpLine, List.map_map]
  exact List.map_congr_left fun t _ => String.ofList_toList

theorem isPrintable_of_mem_write {ts : List Token} :
    ∀ c ∈ (DumpFormat.text.write ts).toList, c = '\n' ∨ Unicode.isPrintable c = true := by
  intro c member
  rw [DumpFormat.write, String.toList_join, List.flatMap_map] at member
  obtain ⟨t, _, found⟩ := List.mem_flatMap.mp member
  exact Token.isPrintable_of_mem_dumpLine found

theorem map_eq_map_of_imp {α β γ : Type} {f : α → β} {g : α → γ}
    (each : ∀ a b, f a = f b → g a = g b) {as bs : List α} (same : as.map f = bs.map f) :
    as.map g = bs.map g := by
  induction as generalizing bs with
  | nil =>
    rw [List.map_nil, eq_comm, List.map_eq_nil_iff] at same
    rw [same]
  | cons a as ih =>
    cases bs with
    | nil => cases same
    | cons b bs =>
      obtain ⟨first, later⟩ := List.cons.inj same
      rw [List.map_cons, List.map_cons, each a b first, ih later]

theorem write_text_eq_iff {ts us : List Token} :
    DumpFormat.text.write ts = DumpFormat.text.write us ↔ ts.map Token.row = us.map Token.row := by
  constructor
  · intro same
    have rows := congrArg lines same
    rw [lines_write, lines_write] at rows
    exact map_eq_map_of_imp (fun _ _ => Token.row_eq_of_dumpLine_eq) rows
  · intro same
    rw [DumpFormat.write, DumpFormat.write]
    exact congrArg String.join
      (map_eq_map_of_imp (fun _ _ => Token.dumpLine_eq_of_row_eq) same)

theorem write_json_injective : Function.Injective DumpFormat.json.write := by
  intro ts us same
  have records := Json.records_injective ((String.append_left_inj "\n").mp same)
  exact List.map_injective_iff.mpr Token.record_injective records

theorem lexeme_injective_collectTokens {source source' : String}
    (same : (collectTokens source false).map Token.lexeme =
      (collectTokens source' false).map Token.lexeme) : source = source' := by
  have all (s : String) : collectTokens s false = tokenize s := List.filter_true _
  rw [all, all] at same
  rw [← String.toList_inj, ← flatMap_lexeme_tokenize source, ← flatMap_lexeme_tokenize source',
    ← List.flatMap_map, same, List.flatMap_map]

/-- The table of text has a line for each token, which tells position, kind and lexeme.  JSON tells
everything. -/
theorem dumps_decodable :
    (∀ ts us, DumpFormat.text.write ts = DumpFormat.text.write us ↔
      ts.map Token.row = us.map Token.row) ∧
    (∀ ts us, DumpFormat.json.write ts = DumpFormat.json.write us ↔ ts = us) ∧
    (∀ ts, lines (DumpFormat.text.write ts) = ts.map Token.dumpLine ∧
      ∀ c ∈ (DumpFormat.text.write ts).toList, c = '\n' ∨ Unicode.isPrintable c = true) ∧
    ∀ (format : DumpFormat) (source source' : String),
      format.write (collectTokens source false) = format.write (collectTokens source' false) ↔
        source = source' := by
  refine ⟨fun _ _ => write_text_eq_iff, fun _ _ => write_json_injective.eq_iff,
    fun ts => ⟨lines_write ts, isPrintable_of_mem_write⟩, ?_⟩
  intro format source source'
  refine ⟨fun same => lexeme_injective_collectTokens ?_, fun same => by rw [same]⟩
  cases format with
  | text =>
    exact map_eq_map_of_imp (fun _ _ row => congrArg (·.2.2.2) row) (write_text_eq_iff.mp same)
  | json => rw [write_json_injective same]

end ScriptLens
