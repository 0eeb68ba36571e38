import ScriptLens.Lexer.Basic
import ScriptLens.Proofs.Source.Walk
import ScriptLens.Proofs.Token.Outcome

/-! # Sites

Reading a source comes down to scanning its characters again and again.  A site is one of these
scans with the characters in front of it; they decide the token and its diagnostic together.  The
lexer finds exactly the sites of its source: `tokenize_eq_sites`, `diagnose_eq_sites`. -/

namespace ScriptLens

open Text

def scans : List Char → List Scan
  | [] => []
  | c :: cs => scan c cs :: scans (scan c cs).rest
termination_by cs => cs.length
decreasing_by
  rw [List.length_cons]
  exact Nat.lt_succ_of_le (length_rest_scan c cs)

def lexemes (ss : List Scan) : List Char := ss.flatMap (·.lexeme)

@[simp] theorem scans_nil : scans [] = [] := by rw [scans]

@[simp] theorem scans_cons (c : Char) (cs : List Char) :
    scans (c :: cs) = scan c cs :: scans (scan c cs).rest := by rw [scans]

@[simp] theorem lexemes_nil : lexemes [] = [] := rfl

@[simp] theorem lexemes_cons (s : Scan) (ss : List Scan) :
    lexemes (s :: ss) = s.lexeme ++ lexemes ss := rfl

@[simp] theorem lexemes_append (ss ts : List Scan) :
    lexemes (ss ++ ts) = lexemes ss ++ lexemes ts := by simp [lexemes]

theorem lexemes_take_add_one {ss : List Scan} {s : Scan} {i : Nat} (at_i : ss[i]? = some s) :
    lexemes (ss.take (i + 1)) = lexemes (ss.take i) ++ s.lexeme := by
  rw [List.take_add_one, at_i, lexemes_append]
  simp

theorem lexemes_scans (cs : List Char) : lexemes (scans cs) = cs := by
  induction cs using scans.induct with
  | case1 => simp
  | case2 c cs ih => rw [scans_cons, lexemes_cons, ih, lexeme_append_rest_scan]

theorem lexeme_ne_nil_of_mem_scans {s : Scan} {cs : List Char} (member : s ∈ scans cs) :
    s.lexeme ≠ [] := by
  induction cs using scans.induct with
  | case1 => simp at member
  | case2 c cs ih =>
    rw [scans_cons, List.mem_cons] at member
    cases member with
    | inl first => rw [first]; exact lexeme_scan_ne_nil c cs
    | inr later => exact ih later

theorem exists_scan_of_mem_scans {s : Scan} {cs : List Char} (member : s ∈ scans cs) :
    ∃ c ds, s = scan c ds := by
  induction cs using scans.induct with
  | case1 => simp at member
  | case2 c cs ih =>
    rw [scans_cons, List.mem_cons] at member
    cases member with
    | inl first => exact ⟨c, cs, first⟩
    | inr later => exact ih later

theorem lexemes_take_append_rest {cs : List Char} {s : Scan} {i : Nat}
    (at_i : (scans cs)[i]? = some s) : lexemes ((scans cs).take (i + 1)) ++ s.rest = cs := by
  induction cs using scans.induct generalizing i with
  | case1 => simp at at_i
  | case2 c cs ih =>
    have whole := lexeme_append_rest_scan c cs
    rw [scans_cons] at at_i ⊢
    cases i with
    | zero =>
      obtain rfl := Option.some.inj at_i
      simpa using whole
    | succ i => rw [List.take_succ_cons, lexemes_cons, List.append_assoc, ih at_i, whole]

theorem drop_scans {cs : List Char} {s : Scan} {i : Nat} (at_i : (scans cs)[i]? = some s) :
    (scans cs).drop (i + 1) = scans s.rest := by
  induction cs using scans.induct generalizing i with
  | case1 => simp at at_i
  | case2 c cs ih =>
    rw [scans_cons] at at_i ⊢
    cases i with
    | zero =>
      obtain rfl := Option.some.inj at_i
      rfl
    | succ i => rw [List.drop_succ_cons, ih at_i]

/-- The first `n` scans of a text.  This is `scans` in a form that evaluates. -/
def scansUpTo : Nat → List Char → List Scan
  | n + 1, c :: cs => scan c cs :: scansUpTo n (scan c cs).rest
  | _, _ => []

theorem scansUpTo_eq_scans {n : Nat} {cs : List Char} (enough : cs.length ≤ n) :
    scansUpTo n cs = scans cs := by
  induction n generalizing cs with
  | zero =>
    rw [List.length_eq_zero_iff.mp (Nat.le_zero.mp enough), scans_nil]
    rfl
  | succ n ih =>
    cases cs with
    | nil => rw [scans_nil]; rfl
    | cons c cs =>
      have shorter := length_rest_scan c cs
      rw [List.length_cons] at enough
      rw [scansUpTo, scans_cons, ih (Nat.le_trans shorter (Nat.le_of_succ_le_succ enough))]

structure Site where
  passed : List Char
  found : Scan

namespace Site

def span (x : Site) : Span :=
  ⟨byteLength x.passed, byteLength x.passed + byteLength x.found.lexeme,
    Position.first.afterAll x.passed⟩

def token (x : Site) : Token := ⟨x.found.kind, String.ofList x.found.lexeme, x.span⟩

def diagnostic? (x : Site) : Option Diagnostic := x.found.fault?.map (·.diagnostic x.span)

end Site

def sites (passed : List Char) : List Scan → List Site
  | [] => []
  | s :: ss => ⟨passed, s⟩ :: sites (passed ++ s.lexeme) ss

@[simp] theorem length_sites (passed : List Char) (ss : List Scan) :
    (sites passed ss).length = ss.length := by
  induction ss generalizing passed with
  | nil => rfl
  | cons s ss ih => simp [sites, ih]

theorem getElem?_sites (passed : List Char) (ss : List Scan) (i : Nat) :
    (sites passed ss)[i]? = ss[i]?.map fun s => ⟨passed ++ lexemes (ss.take i), s⟩ := by
  induction ss generalizing passed i with
  | nil => rfl
  | cons s ss ih =>
    cases i with
    | zero => simp [sites]
    | succ i => simp [sites, ih]

theorem exists_scan_of_mem_sites {cs : List Char} {x : Site} (member : x ∈ sites [] (scans cs)) :
    ∃ c ds after, x.found = scan c ds ∧ cs = x.passed ++ x.found.lexeme ++ after := by
  obtain ⟨i, at_i⟩ := List.getElem?_of_mem member
  rw [getElem?_sites, Option.map_eq_some_iff] at at_i
  obtain ⟨s, found, rfl⟩ := at_i
  obtain ⟨c, ds, same⟩ := exists_scan_of_mem_scans (List.mem_of_getElem? found)
  refine ⟨c, ds, s.rest, same, ?_⟩
  rw [List.nil_append, ← lexemes_take_add_one found, lexemes_take_append_rest found]

namespace Lexer

structure Step.Takes (s : Step) (x : Site) : Prop where
  token : s.token = x.token
  fault : s.fault? = x.found.fault?
  next : s.next.cursor.HasPassed (x.passed ++ x.found.lexeme)
  rest : s.next.cursor.rest = x.found.rest

theorem Step.Takes.diagnostic {s : Step} {x : Site} (takes : s.Takes x) :
    s.diagnostic? = x.diagnostic? := by
  rw [Step.diagnostic?, takes.token, takes.fault]
  rfl

theorem takes_of_step? {l : Lexer} {s : Step} {passed : List Char}
    (here : l.cursor.HasPassed passed) (stepped : l.step? = some s) :
    ∃ c cs, l.cursor.rest = c :: cs ∧ s.Takes ⟨passed, scan c cs⟩ := by
  cases ahead : l.cursor.rest with
  | nil => rw [step?_eq_none_iff.mpr ahead] at stepped; cases stepped
  | cons c cs =>
    have split := ahead.trans (lexeme_append_rest_scan c cs).symm
    have moved := Cursor.advanceMany_length split
    have next := here.advanceMany (scan c cs).lexeme.length
    rw [split, List.take_left] at next
    simp only [step?, ahead, Option.some.injEq] at stepped
    refine ⟨c, cs, rfl, ?_⟩
    rw [← stepped]
    constructor
    · simp [Site.token, Site.span, Cursor.spanTo, here.offset, here.position, next.offset]
    · rfl
    · exact next
    · rw [moved]

theorem isError_of_step? {l : Lexer} {s : Step} (stepped : l.step? = some s) :
    s.token.isError = s.fault?.isSome := by
  unfold step? at stepped
  split at stepped
  · cases stepped
  · rename_i c cs _
    rw [← Option.some.inj stepped]
    exact isError_kind_scan c cs

theorem source_of_step? {l : Lexer} {s : Step} (stepped : l.step? = some s) :
    s.next.cursor.source = l.cursor.source := by
  unfold step? at stepped
  split at stepped
  · cases stepped
  · rw [← Option.some.inj stepped]
    exact Cursor.source_advanceMany _ _

theorem steps_of_none {l : Lexer} (ended : l.step? = none) : l.steps = [] := by
  rw [steps]
  split
  · rfl
  · rename_i s stepped
    rw [ended] at stepped
    cases stepped

theorem steps_of_some {l : Lexer} {s : Step} (stepped : l.step? = some s) :
    l.steps = s :: s.next.steps := by
  rw [steps]
  split
  · rename_i ended
    rw [ended] at stepped
    cases stepped
  · rename_i s' stepped'
    rw [stepped] at stepped'
    cases stepped'
    rfl

theorem map_steps {l : Lexer} {passed : List Char} (here : l.cursor.HasPassed passed) :
    l.steps.map (fun s => (s.token, s.diagnostic?)) =
      (sites passed (scans l.cursor.rest)).map fun x => (x.token, x.diagnostic?) := by
  cases stepped : l.step? with
  | none => rw [steps_of_none stepped, step?_eq_none_iff.mp stepped, scans_nil]; rfl
  | some s =>
    obtain ⟨c, cs, ahead, takes⟩ := takes_of_step? here stepped
    have shorter := length_of_step? stepped
    -- The place after the step is on the walk again, with a shorter text ahead.
    have later := map_steps takes.next
    rw [steps_of_some stepped, ahead, scans_cons, sites, List.map_cons, List.map_cons, later,
      takes.rest, takes.token, takes.diagnostic]
termination_by l.cursor.rest.length

end Lexer

theorem tokenize_eq_sites (source : String) :
    tokenize source = (sites [] (scans source.toList)).map (·.token) := by
  have found := congrArg (List.map Prod.fst)
    (Lexer.map_steps (l := Lexer.ofSource source) (Cursor.hasPassed_ofSource source))
  rw [List.map_map, List.map_map] at found
  exact found

theorem tokenize_eq_scansUpTo (source : String) :
    tokenize source =
      (sites [] (scansUpTo source.toList.length source.toList)).map (·.token) := by
  rw [scansUpTo_eq_scans (Nat.le_refl _), tokenize_eq_sites]

theorem getElem?_tokenize (source : String) (i : Nat) :
    (tokenize source)[i]? = (scans source.toList)[i]?.map fun s =>
      Site.token ⟨lexemes ((scans source.toList).take i), s⟩ := by
  rw [tokenize_eq_sites, List.getElem?_map, getElem?_sites, Option.map_map]
  rfl

theorem exists_site_of_mem_tokenize {source : String} {t : Token} (member : t ∈ tokenize source) :
    ∃ (x : Site) (after : List Char), t = x.token ∧ x.found.lexeme ≠ [] ∧
      source.toList = x.passed ++ x.found.lexeme ++ after := by
  obtain ⟨i, at_i⟩ := List.getElem?_of_mem member
  rw [getElem?_tokenize, Option.map_eq_some_iff] at at_i
  obtain ⟨s, found, same⟩ := at_i
  refine ⟨⟨lexemes ((scans source.toList).take i), s⟩, s.rest, same.symm, ?_, ?_⟩
  · exact lexeme_ne_nil_of_mem_scans (List.mem_of_getElem? found)
  · rw [← lexemes_take_add_one found, lexemes_take_append_rest found]

theorem exists_scan_of_getElem?_tokenize {source : String} {t : Token} {i : Nat}
    (at_i : (tokenize source)[i]? = some t) :
    ∃ before c cs, source.toList = before ++ c :: cs ∧
      (scans source.toList)[i]? = some (scan c cs) ∧ t = Site.token ⟨before, scan c cs⟩ := by
  rw [getElem?_tokenize, Option.map_eq_some_iff] at at_i
  obtain ⟨s, found, same⟩ := at_i
  obtain ⟨c, cs, rfl⟩ := exists_scan_of_mem_scans (List.mem_of_getElem? found)
  have whole := lexemes_take_append_rest found
  rw [lexemes_take_add_one found, List.append_assoc, lexeme_append_rest_scan] at whole
  exact ⟨_, c, cs, whole.symm, found, same.symm⟩

theorem exists_scan_of_next {source : String} {s : Scan} {u : Token} {i : Nat}
    (at_i : (scans source.toList)[i]? = some s) (next : (tokenize source)[i + 1]? = some u) :
    ∃ before c cs, s.rest = c :: cs ∧ u = Site.token ⟨before, scan c cs⟩ := by
  rw [getElem?_tokenize, ← List.head?_drop, drop_scans at_i, Option.map_eq_some_iff] at next
  obtain ⟨s', first, same⟩ := next
  cases left : s.rest with
  | nil =>
    rw [left, scans_nil] at first
    cases first
  | cons c cs =>
    rw [left, scans_cons] at first
    obtain rfl := Option.some.inj first
    exact ⟨_, c, cs, rfl, same.symm⟩

theorem diagnose_eq_sites (source : String) :
    diagnose source = (sites [] (scans source.toList)).filterMap (·.diagnostic?) := by
  have found := congrArg (List.filterMap Prod.snd)
    (Lexer.map_steps (l := Lexer.ofSource source) (Cursor.hasPassed_ofSource source))
  rw [List.filterMap_map, List.filterMap_map] at found
  exact found

end ScriptLens
