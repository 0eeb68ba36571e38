import ScriptLens.Proofs.Lexer.Calls

namespace ScriptLens

open Text

structure Partition (source : String) (ts : List Token) : Prop where
  nonempty : ∀ t ∈ ts, t.lexeme ≠ ""
  starts : ∀ t, ts[0]? = some t → t.span.start = 0
  meets : ∀ i t u, ts[i]? = some t → ts[i + 1]? = some u → u.span.start = t.span.stop
  stops : ∀ t, ts.getLast? = some t → t.span.stop = source.utf8ByteSize
  boundaries : ∀ t ∈ ts, IsBoundary source t.span.start ∧ IsBoundary source t.span.stop
  slices : ∀ t ∈ ts, slice? source.toList t.span.start t.span.stop = some t.lexeme.toList
  joined : String.join (ts.map (·.lexeme)) = source

theorem join_lexemes (passed : List Char) (ss : List Scan) :
    String.join (((sites passed ss).map (·.token)).map (·.lexeme)) =
      String.ofList (lexemes ss) := by
  induction ss generalizing passed with
  | nil => rfl
  | cons s ss ih =>
    calc
      String.join (((sites passed (s :: ss)).map (·.token)).map (·.lexeme)) =
          String.ofList s.lexeme ++
            String.join (((sites (passed ++ s.lexeme) ss).map (·.token)).map (·.lexeme)) := by
        simp [sites, Site.token]
      _ = String.ofList (lexemes (s :: ss)) := by
        rw [ih, lexemes_cons, String.ofList_append]

theorem partition_tokenize (source : String) : Partition source (tokenize source) where
  nonempty := by
    intro t member empty
    obtain ⟨x, _, same, taken, _⟩ := exists_site_of_mem_tokenize member
    apply taken
    rw [same] at empty
    have none := congrArg String.toList empty
    rw [Site.token, String.toList_ofList] at none
    exact none
  starts := by
    intro t first
    rw [getElem?_tokenize, Option.map_eq_some_iff] at first
    obtain ⟨s, _, same⟩ := first
    rw [← same]
    rfl
  meets := by
    intro i t u this next
    rw [getElem?_tokenize, Option.map_eq_some_iff] at this next
    obtain ⟨s, at_i, same⟩ := this
    obtain ⟨_, _, same'⟩ := next
    rw [← same, ← same']
    simp [Site.token, Site.span, lexemes_take_add_one at_i]
  stops := by
    intro t last
    rw [List.getLast?_eq_getElem?, getElem?_tokenize, Option.map_eq_some_iff] at last
    obtain ⟨s, at_last, same⟩ := last
    have all : (tokenize source).length - 1 + 1 = (scans source.toList).length := by
      have := (List.getElem?_eq_some_iff.mp at_last).1
      rw [tokenize_eq_sites, List.length_map, length_sites] at this ⊢
      omega
    have whole := congrArg byteLength (lexemes_take_add_one at_last)
    rw [all, List.take_length, lexemes_scans, byteLength_append] at whole
    rw [← same, ← byteLength_toList, whole]
    rfl
  boundaries := by
    intro t member
    obtain ⟨x, after, same, _, split⟩ := exists_site_of_mem_tokenize member
    rw [same]
    constructor
    · rw [List.append_assoc] at split
      exact isBoundary_of_split split
    · have boundary := isBoundary_of_split split
      rw [byteLength_append] at boundary
      exact boundary
  slices := by
    intro t member
    obtain ⟨x, after, same, _, split⟩ := exists_site_of_mem_tokenize member
    rw [same, split, Site.token, String.toList_ofList]
    exact slice?_append x.passed x.found.lexeme after
  joined := by
    rw [tokenize_eq_sites, join_lexemes, lexemes_scans, String.ofList_toList]

variable {source : String} {handler : Handler} {records : Bool}

theorem offset_afterCalls_of_length_le {n : Nat} (returned : (tokenize source).length ≤ n) :
    ((Session.ofSource source handler records).afterCalls n).lexer.cursor.offset =
      source.utf8ByteSize := by
  have here := Session.hasPassed_afterCalls source handler records n
  have none : ((Session.ofSource source handler records).afterCalls n).next.1 = none := by
    rw [Session.fst_next_ofSource, List.getElem?_eq_none returned]
  have ended : ((Session.ofSource source handler records).afterCalls n).lexer.step? = .none := by
    cases stepped : ((Session.ofSource source handler records).afterCalls n).lexer.step? with
    | none => rfl
    | some step => rw [Session.next_of_some stepped] at none; cases none
  rw [here.offset_of_rest_nil (Lexer.step?_eq_none_iff.mp ended), Session.source_afterCalls]
  rfl

theorem sliceFrom_afterCalls {n : Nat} {t : Token} (returned : (tokenize source)[n]? = some t) :
    ((Session.ofSource source handler records).afterCalls (n + 1)).lexer.cursor.sliceFrom
      ((Session.ofSource source handler records).afterCalls n).lexer.cursor.offset =
        some t.lexeme := by
  have here := Session.hasPassed_afterCalls source handler records n
  have next := Session.hasPassed_next here
  rw [Session.fst_next_ofSource, returned] at next
  have slice := next.sliceFrom
  rw [← here.offset] at slice
  simpa [Session.afterCalls] using slice

theorem slice?_rest_afterCalls (n k : Nat) :
    let c := Cursor.advanceMany k
      ((Session.ofSource source handler records).afterCalls n).lexer.cursor
    slice? source.toList c.offset source.utf8ByteSize = some c.rest := by
  have here := Session.hasPassed_afterCalls source handler records n
  have there := (here.advanceMany k).slice?_rest
  rw [Cursor.source_advanceMany, Session.source_afterCalls] at there
  exact there

theorem calls_partition (source : String) (handler : Handler) (records : Bool) :
    let calls := fun n => (Session.ofSource source handler records).afterCalls n
    Partition source (tokenize source) ∧
      (∀ n, (calls n).next.1 = (tokenize source)[n]?) ∧
      (∀ n, (tokenize source).length ≤ n →
        (calls n).lexer.cursor.offset = source.utf8ByteSize) ∧
      (∀ n t, (tokenize source)[n]? = some t →
        (calls (n + 1)).lexer.cursor.sliceFrom (calls n).lexer.cursor.offset = some t.lexeme) ∧
      ∀ n k, slice? source.toList ((calls n).lexer.cursor.advanceMany k).offset
        source.utf8ByteSize = some ((calls n).lexer.cursor.advanceMany k).rest := by
  refine ⟨partition_tokenize source, ?_, ?_, ?_, ?_⟩
  · exact Session.fst_next_ofSource source handler records
  · intro n returned
    exact offset_afterCalls_of_length_le returned
  · intro n t returned
    exact sliceFrom_afterCalls returned
  · exact slice?_rest_afterCalls

end ScriptLens
