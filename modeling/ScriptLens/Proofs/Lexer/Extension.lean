import ScriptLens.Proofs.Lexer.Sites
import ScriptLens.Proofs.Token.Lookahead

namespace ScriptLens

open Text

theorem length_rest_of_mem_scans {s : Scan} {cs : List Char} (member : s ∈ scans cs) :
    s.rest.length ≤ cs.length := by
  obtain ⟨i, at_i⟩ := List.getElem?_of_mem member
  have whole := congrArg List.length (lexemes_take_append_rest at_i)
  rw [List.length_append] at whole
  omega

theorem lexemes_map_extend (ss : List Scan) (more : List Char) :
    lexemes (ss.map (·.extend more)) = lexemes ss := by
  rw [lexemes, List.flatMap_map]
  rfl

theorem take_scans_append {cs : List Char} (more : List Char) {s : Scan} {i : Nat}
    (at_i : (scans cs)[i]? = some s) (room : 2 ≤ s.rest.length) :
    (scans (cs ++ more)).take (i + 1) = ((scans cs).take (i + 1)).map (·.extend more) := by
  induction cs using scans.induct generalizing i with
  | case1 => simp at at_i
  | case2 c cs ih =>
    rw [scans_cons] at at_i
    have first : 2 ≤ (scan c cs).rest.length := by
      cases i with
      | zero =>
        obtain rfl := Option.some.inj at_i
        exact room
      | succ i => exact Nat.le_trans room (length_rest_of_mem_scans (List.mem_of_getElem? at_i))
    rw [List.cons_append, scans_cons, scans_cons, scan_extend c more first, Scan.rest_extend,
      List.take_succ_cons, List.take_succ_cons, List.map_cons]
    congr 1
    cases i with
    | zero => rfl
    | succ i => exact ih at_i

theorem getElem?_scans_append {cs : List Char} (more : List Char) {s : Scan} {i : Nat}
    (at_i : (scans cs)[i]? = some s) (room : 2 ≤ s.rest.length) :
    (scans (cs ++ more))[i]? = some (s.extend more) := by
  have here := congrArg (·[i]?) (take_scans_append more at_i room)
  simpa [List.getElem?_take, at_i] using here

theorem lexemes_take_scans_append {cs : List Char} (more : List Char) {s : Scan} {i : Nat}
    (at_i : (scans cs)[i]? = some s) (room : 2 ≤ s.rest.length) :
    lexemes ((scans (cs ++ more)).take i) = lexemes ((scans cs).take i) := by
  have before := congrArg (List.take i) (take_scans_append more at_i room)
  rw [List.take_take, ← List.map_take, List.take_take, Nat.min_eq_left (Nat.le_succ i)] at before
  rw [before, lexemes_map_extend]

theorem slice?_after {cs : List Char} {s : Scan} {i : Nat} (at_i : (scans cs)[i]? = some s) :
    slice? cs (Site.span ⟨lexemes ((scans cs).take i), s⟩).stop (byteLength cs) = some s.rest := by
  have split := lexemes_take_append_rest at_i
  have slice := slice?_append (lexemes ((scans cs).take (i + 1))) s.rest []
  rw [List.append_nil, split] at slice
  have size := congrArg byteLength split
  rw [byteLength_append] at size
  rw [size, lexemes_take_add_one at_i, byteLength_append] at slice
  exact slice

theorem tokenize_append {source : String} (more : String) {i : Nat} {t : Token}
    (at_i : (tokenize source)[i]? = some t) :
    ∃ after, slice? source.toList t.span.stop source.utf8ByteSize = some after ∧
      (2 ≤ after.length → (tokenize (source ++ more))[i]? = some t) := by
  rw [getElem?_tokenize, Option.map_eq_some_iff] at at_i
  obtain ⟨s, found, same⟩ := at_i
  refine ⟨s.rest, ?_, ?_⟩
  · rw [← same, ← byteLength_toList]
    exact slice?_after found
  · intro room
    rw [getElem?_tokenize, String.toList_append, getElem?_scans_append more.toList found room,
      lexemes_take_scans_append more.toList found room, ← same]
    rfl

theorem tokenize_append_conditional :
    (tokenize ("a?.5" ++ "5:b"))[1]? = some ⟨.operator, "?", ⟨1, 2, ⟨1, 2⟩⟩⟩ := by
  have at_one : (tokenize "a?.5")[1]? = some ⟨.operator, "?", ⟨1, 2, ⟨1, 2⟩⟩⟩ := by
    rw [tokenize_eq_scansUpTo]
    rfl
  obtain ⟨after, behind, stays⟩ := tokenize_append "5:b" at_one
  have two : slice? "a?.5".toList 2 4 = some ['.', '5'] := by rfl
  apply stays
  rw [Option.some.inj (behind.symm.trans two)]
  exact Nat.le_refl 2

/-- One character is not enough: the dot behind this number becomes a part of it. -/
example : (tokenize "1.5.")[0]?.map (·.lexeme) = some "1.5" ∧
    (tokenize ("1.5." ++ "5"))[0]?.map (·.lexeme) = some "1.5.5" := by
  rw [tokenize_eq_scansUpTo, tokenize_eq_scansUpTo]
  decide

end ScriptLens
