import Mathlib.Data.List.Basic
import ScriptLens.Proofs.Lexer.Calls
import ScriptLens.Proofs.Source.LineTable

/-! # Restarts

A lexer remembers nothing but its place.  From any token boundary on it finds what a fresh lexer
finds in the text that is left, moved to where that text stands in the source. -/

namespace ScriptLens

open Text

/-- The position `p` of a text that begins at `origin`.  Only the first line of the text has
columns in front of it. -/
def Position.moved (p origin : Position) (onFirstLine : Bool) : Position :=
  ⟨origin.line + p.line - 1, if onFirstLine then origin.column + p.column - 1 else p.column⟩

theorem Position.afterAll_eq_moved (origin : Position) (cs : List Char) :
    origin.afterAll cs = (first.afterAll cs).moved origin (decide ('\n' ∉ cs)) := by
  have step (a b : UInt32) : a + b - 1 + 1 = a + (b + 1) - 1 := by
    rw [← UInt32.add_assoc, UInt32.add_sub_cancel, UInt32.sub_add_cancel]
  induction cs using List.reverseRecOn with
  | nil =>
    simp only [moved, first, afterAll_nil, List.not_mem_nil, not_false_eq_true, decide_true,
      if_true, UInt32.add_sub_cancel]
  | append_singleton cs c ih =>
    rw [afterAll_append, afterAll_append, ih]
    by_cases feed : c = '\n'
    · simp [after, moved, feed, step]
    · by_cases firstLine : '\n' ∈ cs <;> simp [after, moved, feed, Ne.symm feed, firstLine, step]

theorem byteLength_le_firstLine {passed rest : List Char} :
    byteLength passed ≤ byteLength (firstLine (passed ++ rest)) ↔ '\n' ∉ passed := by
  induction passed with
  | nil => simp
  | cons c passed ih =>
    have positive := c.utf8Size_pos
    rw [List.cons_append, firstLine_cons, byteLength_cons]
    by_cases feed : c = '\n'
    · rw [if_pos feed, byteLength_nil]
      apply iff_of_false
      · omega
      · simp [feed]
    · rw [if_neg feed, byteLength_cons, Nat.add_le_add_iff_left, ih]
      simp [Ne.symm feed]

def Span.moved (s : Span) (before after : String) : Span :=
  ⟨before.utf8ByteSize + s.start, before.utf8ByteSize + s.stop,
    s.position.moved (Position.first.afterAll before.toList)
      (s.start ≤ byteLength (firstLine after.toList))⟩

def Token.moved (t : Token) (before after : String) : Token :=
  { t with span := t.span.moved before after }

def Diagnostic.moved (d : Diagnostic) (before after : String) : Diagnostic :=
  { d with span := d.span.moved before after }

def boundaries (source : String) : List Nat := 0 :: (tokenize source).map (·.span.stop)

namespace Site

def behind (before : List Char) (x : Site) : Site := { x with passed := before ++ x.passed }

theorem span_behind {before after : String} {x : Site} {rest : List Char}
    (split : after.toList = x.passed ++ rest) :
    (x.behind before.toList).span = x.span.moved before after := by
  have line : decide ('\n' ∉ x.passed) =
      decide (byteLength x.passed ≤ byteLength (firstLine after.toList)) := by
    rw [split, decide_eq_decide, byteLength_le_firstLine]
  calc
    (x.behind before.toList).span =
        ⟨byteLength before.toList + byteLength x.passed,
          byteLength before.toList + (byteLength x.passed + byteLength x.found.lexeme),
          (Position.first.afterAll before.toList).afterAll x.passed⟩ := by
      simp [behind, span, Nat.add_assoc]
    _ = x.span.moved before after := by
      rw [Position.afterAll_eq_moved, line, byteLength_toList]
      rfl

theorem token_behind {before after : String} {x : Site} {rest : List Char}
    (split : after.toList = x.passed ++ rest) :
    (x.behind before.toList).token = x.token.moved before after := by
  rw [token, span_behind split]
  rfl

theorem diagnostic?_behind {before after : String} {x : Site} {rest : List Char}
    (split : after.toList = x.passed ++ rest) :
    (x.behind before.toList).diagnostic? = x.diagnostic?.map (·.moved before after) := by
  rw [diagnostic?, span_behind split, diagnostic?, Option.map_map]
  rfl

end Site

theorem sites_behind (before passed : List Char) (ss : List Scan) :
    sites (before ++ passed) ss = (sites passed ss).map (·.behind before) := by
  induction ss generalizing passed with
  | nil => rfl
  | cons s ss ih =>
    rw [sites, sites, List.map_cons, List.append_assoc, ih]
    rfl

theorem sites_drop (passed : List Char) (ss : List Scan) (n : Nat) :
    (sites passed ss).drop n = sites (passed ++ lexemes (ss.take n)) (ss.drop n) := by
  induction ss generalizing passed n with
  | nil => simp [sites]
  | cons s ss ih =>
    cases n with
    | zero => simp
    | succ n => simp [sites, ih]

theorem exists_scans_drop (cs : List Char) (n : Nat) :
    ∃ after, cs = lexemes ((scans cs).take n) ++ after ∧ (scans cs).drop n = scans after := by
  induction cs using scans.induct generalizing n with
  | case1 => exact ⟨[], by simp⟩
  | case2 c cs ih =>
    cases n with
    | zero => exact ⟨c :: cs, by simp⟩
    | succ n =>
      obtain ⟨after, split, later⟩ := ih n
      refine ⟨after, ?_, ?_⟩
      · rw [scans_cons, List.take_succ_cons, lexemes_cons, List.append_assoc, ← split,
          lexeme_append_rest_scan]
      · rw [scans_cons, List.drop_succ_cons, later]

theorem map_token_behind (before after : String) :
    ((sites [] (scans after.toList)).map (·.behind before.toList)).map (·.token) =
      (tokenize after).map (·.moved before after) := by
  rw [tokenize_eq_sites, List.map_map, List.map_map]
  apply List.map_congr_left
  intro x member
  obtain ⟨_, _, rest, _, split⟩ := exists_scan_of_mem_sites member
  rw [List.append_assoc] at split
  exact Site.token_behind split

theorem filterMap_diagnostic?_behind (before after : String) (k : Nat) :
    (((sites [] (scans after.toList)).take k).map (·.behind before.toList)).filterMap
        (·.diagnostic?) =
      (((sites [] (scans after.toList)).take k).filterMap (·.diagnostic?)).map
        (·.moved before after) := by
  rw [List.filterMap_map, List.map_filterMap]
  apply List.filterMap_congr
  intro x member
  obtain ⟨_, _, rest, _, split⟩ := exists_scan_of_mem_sites (List.mem_of_mem_take member)
  rw [List.append_assoc] at split
  exact Site.diagnostic?_behind split

theorem tokenize_cons {source : String} {c : Char} {cs : List Char}
    (begins : source.toList = c :: cs) :
    tokenize source = Site.token ⟨[], scan c cs⟩ ::
      (tokenize (String.ofList (scan c cs).rest)).map
        (·.moved (String.ofList (scan c cs).lexeme) (String.ofList (scan c cs).rest)) := by
  rw [← map_token_behind, String.toList_ofList, String.toList_ofList, ← sites_behind,
    List.append_nil, tokenize_eq_sites, begins, scans_cons, sites, List.map_cons, List.nil_append]

theorem head?_tokenize {source : String} {c : Char} {cs : List Char}
    (begins : source.toList = c :: cs) :
    (tokenize source).head? = some ⟨(scan c cs).kind, String.ofList (scan c cs).lexeme,
      ⟨0, byteLength (scan c cs).lexeme, .first⟩⟩ := by
  rw [tokenize_cons begins, List.head?_cons, Site.token, Site.span, byteLength_nil, Nat.zero_add]
  rfl

@[simp] theorem tokenize_empty : tokenize "" = [] := by
  rw [tokenize_eq_sites, String.toList_empty, scans_nil]
  rfl

/-- After `n` calls the lexer goes on as a fresh one does on the text `after`. -/
structure Resumes (source : String) (handler : Handler) (n : Nat) (before after : String) :
    Prop where
  split : source = before ++ after
  offset : ((Session.ofSource source handler true).afterCalls n).lexer.cursor.offset =
    before.utf8ByteSize
  position : ((Session.ofSource source handler true).afterCalls n).lexer.cursor.position =
    Position.first.afterAll before.toList
  tokens : (tokenize source).drop n = (tokenize after).map (·.moved before after)
  diagnostics : ∀ k,
    ((Session.ofSource source handler true).afterCalls (n + k)).handler.diagnostics =
      ((Session.ofSource source handler true).afterCalls n).handler.diagnostics ++
        ((Session.ofSource after .empty true).afterCalls k).handler.diagnostics.map
          (·.moved before after)

theorem size_of_boundary {source : String} {n p : Nat}
    (boundary : (boundaries source)[n]? = some p) :
    byteLength (lexemes ((scans source.toList).take n)) = p := by
  cases n with
  | zero => simpa [boundaries] using boundary
  | succ n =>
    rw [boundaries, List.getElem?_cons_succ, List.getElem?_map, getElem?_tokenize, Option.map_map,
      Option.map_eq_some_iff] at boundary
    obtain ⟨s, at_n, stop⟩ := boundary
    rw [lexemes_take_add_one at_n, byteLength_append]
    exact stop

theorem resumes_at_boundary (source : String) (handler : Handler) {n p : Nat}
    (boundary : (boundaries source)[n]? = some p) :
    ∃ before after, before.utf8ByteSize = p ∧ Resumes source handler n before after := by
  obtain ⟨after, split, later⟩ := exists_scans_drop source.toList n
  have size := size_of_boundary boundary
  have here := Session.hasPassed_afterCalls source handler true n
  have left := sites_drop [] (scans source.toList) n
  rw [later, List.nil_append, ← List.append_nil (lexemes _), sites_behind] at left
  generalize lexemes ((scans source.toList).take n) = before at split size here left
  obtain ⟨before, rfl⟩ : ∃ text : String, text.toList = before := ⟨.ofList before, by simp⟩
  obtain ⟨after, rfl⟩ : ∃ text : String, text.toList = after := ⟨.ofList after, by simp⟩
  rw [byteLength_toList] at size
  refine ⟨before, after, size, ?_⟩
  constructor
  · rw [← String.toList_inj, split, String.toList_append]
  · rw [here.offset, byteLength_toList]
  · exact here.position
  · rw [tokenize_eq_sites, ← List.map_drop, left, map_token_behind]
  · intro k
    simp only [Session.diagnostics_afterCalls_ofSource, List.take_add, left, ← List.map_take,
      List.filterMap_append, filterMap_diagnostic?_behind, List.append_assoc,
      Handler.diagnostics_empty, List.nil_append]

theorem resumes_behind_lineFeed :
    (boundaries "é\n@'x")[2]? = some 3 ∧
      ∃ before after, before.utf8ByteSize = 3 ∧ Resumes "é\n@'x" .empty 2 before after := by
  have boundary : (boundaries "é\n@'x")[2]? = some 3 := by
    rw [boundaries, tokenize_eq_scansUpTo]
    rfl
  exact ⟨boundary, resumes_at_boundary "é\n@'x" .empty boundary⟩

end ScriptLens
