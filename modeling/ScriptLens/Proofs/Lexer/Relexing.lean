import ScriptLens.Dump
import ScriptLens.Proofs.Lexer.Calls
import ScriptLens.Proofs.Token.Isolation

namespace ScriptLens

open Text

def Token.entry (t : Token) : TokenKind × String := (t.kind, t.lexeme)

def Token.ownSpan (t : Token) : Span := ⟨0, t.length, .first⟩

def printed (ts : List Token) : String := "\n".intercalate (ts.map (·.lexeme))

def Scan.entry (s : Scan) : TokenKind × String := (s.kind, String.ofList s.lexeme)

theorem scans_lexeme_append {c : Char} {cs tail : List Char} (ends : (scan c cs).EndsBefore tail) :
    scans ((scan c cs).lexeme ++ tail) = (scan c cs).withRest tail :: scans tail := by
  obtain ⟨more, lexeme⟩ := lexeme_scan c cs
  rw [lexeme, List.cons_append, scans_cons, scan_lexeme lexeme ends]
  rfl

theorem scans_lexeme (c : Char) (cs : List Char) :
    scans (scan c cs).lexeme = [(scan c cs).withRest []] := by
  have ends : (scan c cs).EndsBefore [] := .inl rfl
  have alone := scans_lexeme_append ends
  rwa [List.append_nil, scans_nil] at alone

theorem diagnostics_afterCalls_succ (source : String) (handler : Handler) {i : Nat} {s : Scan}
    (at_i : (scans source.toList)[i]? = some s) :
    ((Session.ofSource source handler true).afterCalls (i + 1)).handler.diagnostics =
      ((Session.ofSource source handler true).afterCalls i).handler.diagnostics ++
        (Site.diagnostic? ⟨lexemes ((scans source.toList).take i), s⟩).toList := by
  rw [Session.diagnostics_afterCalls_ofSource, Session.diagnostics_afterCalls_ofSource,
    List.take_add_one, getElem?_sites, at_i, List.filterMap_append, List.append_assoc]
  cases found : Site.diagnostic? ⟨lexemes ((scans source.toList).take i), s⟩ <;> simp [found]

namespace Site

def alone (x : Site) : Site := ⟨[], x.found.withRest []⟩

theorem span_alone (x : Site) : x.alone.span = x.token.ownSpan := by
  simp [alone, span, Token.ownSpan, Token.length, token, utf8ByteSize_ofList, Scan.withRest]

theorem token_alone (x : Site) : x.alone.token = { x.token with span := x.token.ownSpan } := by
  rw [← span_alone]
  rfl

theorem diagnostic?_alone (x : Site) :
    x.alone.diagnostic? = x.diagnostic?.map fun d => { d with span := x.token.ownSpan } := by
  rw [← span_alone, diagnostic?, diagnostic?, Option.map_map]
  rfl

theorem sites_lexeme {x : Site} {c : Char} {cs : List Char} (found : x.found = scan c cs) :
    sites [] (scans x.token.lexeme.toList) = [x.alone] := by
  rw [token, String.toList_ofList, found, scans_lexeme, alone, found]
  rfl

end Site

theorem tokenize_lexeme (source : String) (handler : Handler) {i : Nat} {t : Token}
    (at_i : (tokenize source)[i]? = some t) :
    tokenize t.lexeme = [{ t with span := t.ownSpan }] ∧
      ∃ recorded : Option Diagnostic,
        recorded.isSome = t.isError ∧
        ((Session.ofSource source handler true).afterCalls (i + 1)).handler.diagnostics =
          ((Session.ofSource source handler true).afterCalls i).handler.diagnostics ++
            recorded.toList ∧
        ∀ k, ((Session.ofSource t.lexeme .empty true).afterCalls (k + 1)).handler.diagnostics =
          (recorded.map fun d => { d with span := t.ownSpan }).toList := by
  rw [getElem?_tokenize, Option.map_eq_some_iff] at at_i
  obtain ⟨s, found, rfl⟩ := at_i
  obtain ⟨c, cs, same⟩ := exists_scan_of_mem_scans (List.mem_of_getElem? found)
  have call := diagnostics_afterCalls_succ source handler found
  generalize at_site : Site.mk (lexemes ((scans source.toList).take i)) s = x at call ⊢
  have alone : sites [] (scans x.token.lexeme.toList) = [x.alone] := by
    rw [← at_site]
    exact Site.sites_lexeme same
  refine ⟨?_, x.diagnostic?, ?_, call, ?_⟩
  · rw [tokenize_eq_sites, alone, List.map_singleton, Site.token_alone]
  · rw [← at_site, Site.diagnostic?, Option.isSome_map, same, ← isError_kind_scan]
    rfl
  · intro k
    rw [Session.diagnostics_afterCalls_ofSource, alone, List.take_succ_cons, List.take_nil,
      ← Site.diagnostic?_alone]
    cases found : x.alone.diagnostic? <;> simp [found]

theorem tokenize_lexeme_cut :
    (tokenize "\n'x\\\r\n\r")[1]? = some ⟨.error, "'x\\\r\n", ⟨1, 6, ⟨2, 1⟩⟩⟩ ∧
      tokenize "'x\\\r\n" = [⟨.error, "'x\\\r\n", ⟨0, 5, ⟨1, 1⟩⟩⟩] := by
  have cut : (tokenize "\n'x\\\r\n\r")[1]? =
      some ⟨.error, "'x\\\r\n", ⟨1, 6, ⟨2, 1⟩⟩⟩ := by
    rw [tokenize_eq_scansUpTo]
    rfl
  exact ⟨cut, (tokenize_lexeme _ .empty cut).1⟩

section printed

/-- The token was found in some text, and it is complete and no whitespace. -/
def Token.Prints (t : Token) : Prop :=
  ∃ c cs, t.entry = (scan c cs).entry ∧ t.kind ≠ .whitespace ∧ t.kind ≠ .error

theorem entries_tokenize (source : String) :
    (tokenize source).map (·.entry) = (scans source.toList).map (·.entry) := by
  apply List.ext_getElem?
  intro i
  rw [List.getElem?_map, List.getElem?_map, getElem?_tokenize, Option.map_map]
  rfl

theorem Token.prints_of_mem {t : Token} {source : String} (member : t ∈ tokenize source)
    (white : t.kind ≠ .whitespace) (proper : t.kind ≠ .error) : t.Prints := by
  have listed : t.entry ∈ (scans source.toList).map (·.entry) := by
    rw [← entries_tokenize]
    exact List.mem_map_of_mem member
  obtain ⟨s, found, same⟩ := List.mem_map.mp listed
  obtain ⟨c, cs, rfl⟩ := exists_scan_of_mem_scans found
  exact ⟨c, cs, same.symm, white, proper⟩

theorem scans_lineFeed {rest : List Char} (other : ∀ c ∈ rest.head?, isWhitespace c = false) :
    scans ('\n' :: rest) = ⟨.ok .whitespace, ['\n'], rest⟩ :: scans rest := by
  have first : scan '\n' rest = ⟨.ok .whitespace, ['\n'], rest⟩ := by
    rw [scan, if_pos (by decide)]
    cases rest with
    | nil => rfl
    | cons c rest => simp [other c rfl]
  rw [scans_cons, first]

@[simp] theorem printed_nil : printed [] = "" := rfl

@[simp] theorem printed_singleton (t : Token) : printed [t] = t.lexeme := by
  simp [printed]

theorem printed_cons_cons (t u : Token) (ts : List Token) :
    (printed (t :: u :: ts)).toList = t.lexeme.toList ++ '\n' :: (printed (u :: ts)).toList := by
  simp [printed, String.toList_intercalate]

namespace Token.Prints

variable {t : Token} {ts : List Token}

theorem entries_append (prints : t.Prints) {tail : List Char} (breaks : Breaks tail) :
    (scans (t.lexeme.toList ++ tail)).map (·.entry) =
      t.entry :: (scans tail).map (·.entry) := by
  obtain ⟨c, cs, same, white, proper⟩ := prints
  obtain ⟨kind, lexeme⟩ := Prod.mk.inj same
  have ends : (scan c cs).EndsBefore tail := by
    rw [kind] at white proper
    exact .inr ⟨breaks, white, proper⟩
  rw [lexeme, String.toList_ofList, scans_lexeme_append ends, List.map_cons, same]
  rfl

theorem head (prints : t.Prints) :
    ∃ c more, t.lexeme.toList = c :: more ∧ isWhitespace c = false := by
  obtain ⟨c, cs, same, white, _⟩ := prints
  obtain ⟨kind, lexeme⟩ := Prod.mk.inj same
  obtain ⟨more, begins⟩ := lexeme_scan c cs
  rw [kind] at white
  exact ⟨c, more, by rw [lexeme, String.toList_ofList, begins],
    isWhitespace_eq_false_of_kind_ne white⟩

theorem head_printed (prints : t.Prints) (ts : List Token) :
    ∀ c ∈ (printed (t :: ts)).toList.head?, isWhitespace c = false := by
  obtain ⟨c, more, begins, other⟩ := prints.head
  cases ts with
  | nil => simp [begins, other]
  | cons u ts => simp [printed_cons_cons, begins, other]

end Token.Prints

theorem entries_printed {ts : List Token} (prints : ∀ t ∈ ts, t.Prints) :
    (scans (printed ts).toList).map (·.entry) =
      (ts.map (·.entry)).intersperse (.whitespace, "\n") := by
  induction ts with
  | nil => simp
  | cons t ts ih =>
    have first := prints t List.mem_cons_self
    have later := ih fun u member => prints u (List.mem_cons_of_mem t member)
    cases ts with
    | nil => simpa using first.entries_append breaks_nil
    | cons u ts =>
      have next := prints u (List.mem_cons_of_mem t List.mem_cons_self)
      rw [printed_cons_cons, first.entries_append (breaks_lineFeed _),
        scans_lineFeed (next.head_printed ts), List.map_cons, later]
      rfl

theorem filter_intersperse {α : Type} {p : α → Bool} {separator : α} (other : p separator = false)
    (xs : List α) : (xs.intersperse separator).filter p = xs.filter p := by
  induction xs with
  | nil => rfl
  | cons x xs ih =>
    cases xs with
    | nil => rfl
    | cons y ys =>
      rw [List.intersperse_cons_cons, List.filter_cons, List.filter_cons, ih, other]
      simp [List.filter_cons]

theorem collectTokens_true (source : String) :
    collectTokens source true = (tokenize source).filter fun t => !t.isTrivia := by
  simp [collectTokens]

theorem map_filter_entry (ts : List Token) :
    (ts.filter fun t => !t.isTrivia).map (·.entry) =
      (ts.map (·.entry)).filter fun e => !e.1.isTrivia := by
  rw [List.filter_map]
  rfl

theorem entries_tokenize_printed {ts : List Token}
    (each : ∀ t ∈ ts, (∃ source, t ∈ tokenize source) ∧ t.kind ≠ .whitespace ∧ t.kind ≠ .error) :
    (tokenize (printed ts)).map (·.entry) =
      (ts.map (·.entry)).intersperse (.whitespace, "\n") := by
  rw [entries_tokenize]
  apply entries_printed
  intro t member
  obtain ⟨⟨source, found⟩, white, proper⟩ := each t member
  exact Token.prints_of_mem found white proper

theorem tokenize_printed :
    (∀ ts : List Token,
      (∀ t ∈ ts, (∃ source, t ∈ tokenize source) ∧ t.kind ≠ .whitespace ∧ t.kind ≠ .error) →
      (tokenize (printed ts)).map (·.entry) =
        (ts.map (·.entry)).intersperse (.whitespace, "\n")) ∧
    ∀ source, (∀ t ∈ tokenize source, t.kind ≠ .error) →
      (collectTokens (printed (collectTokens source true)) true).map (·.entry) =
        (collectTokens source true).map (·.entry) := by
  refine ⟨fun ts each => entries_tokenize_printed each, ?_⟩
  intro source proper
  rw [collectTokens_true source]
  have each : ∀ t ∈ (tokenize source).filter fun t => !t.isTrivia,
      (∃ text, t ∈ tokenize text) ∧ t.kind ≠ .whitespace ∧ t.kind ≠ .error := by
    intro t member
    obtain ⟨found, important⟩ := List.mem_filter.mp member
    refine ⟨⟨source, found⟩, ?_, proper t found⟩
    intro white
    simp [Token.isTrivia, white, TokenKind.isTrivia] at important
  have kept := entries_tokenize_printed each
  rw [collectTokens_true, map_filter_entry, kept, filter_intersperse rfl, ← map_filter_entry,
    List.filter_filter]
  simp only [Bool.and_self]

theorem tokenize_printed_conditional :
    (tokenize (printed (tokenize "1.//?" ++ (tokenize "?.5").take 1))).map (·.entry) =
        [(.number, "1."), (.whitespace, "\n"), (.comment, "//?"), (.whitespace, "\n"),
          (.operator, "?")] ∧
      (collectTokens (printed (collectTokens "a?.5//" true)) true).map (·.entry) =
        [(.identifier, "a"), (.operator, "?"), (.number, ".5")] := by
  have number : tokenize "1.//?" =
      [⟨.number, "1.", ⟨0, 2, ⟨1, 1⟩⟩⟩, ⟨.comment, "//?", ⟨2, 5, ⟨1, 3⟩⟩⟩] := by
    rw [tokenize_eq_scansUpTo]
    rfl
  have operator : (tokenize "?.5").take 1 = [⟨.operator, "?", ⟨0, 1, ⟨1, 1⟩⟩⟩] := by
    rw [tokenize_eq_scansUpTo]
    rfl
  have whole : tokenize "a?.5//" =
      [⟨.identifier, "a", ⟨0, 1, ⟨1, 1⟩⟩⟩, ⟨.operator, "?", ⟨1, 2, ⟨1, 2⟩⟩⟩,
        ⟨.number, ".5", ⟨2, 4, ⟨1, 3⟩⟩⟩, ⟨.comment, "//", ⟨4, 6, ⟨1, 5⟩⟩⟩] := by
    rw [tokenize_eq_scansUpTo]
    rfl
  constructor
  · rw [tokenize_printed.1, number, operator]
    · rfl
    · intro t member
      cases List.mem_append.mp member with
      | inl found =>
        refine ⟨⟨_, found⟩, ?_⟩
        rw [number] at found
        clear member
        revert t
        decide
      | inr found =>
        refine ⟨⟨_, List.mem_of_mem_take found⟩, ?_⟩
        rw [operator] at found
        clear member
        revert t
        decide
  · rw [tokenize_printed.2, collectTokens_true, whole]
    · rfl
    · rw [whole]
      decide

end printed

end ScriptLens
