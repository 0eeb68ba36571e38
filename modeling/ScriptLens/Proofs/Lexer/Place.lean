import ScriptLens.Proofs.Lexer.Calls
import ScriptLens.Proofs.Source.LineTable

namespace ScriptLens

open Text

structure Span.Agrees (span : Span) (f : SourceFile) : Prop where
  line : span.position.line.toNat = (f.lineColumn span.start).1 % UInt32.size
  column : span.position.column.toNat = (f.lineColumn span.start).2 % UInt32.size
  unreduced : f.content.length < UInt32.size - 1 →
    (span.position.line.toNat, span.position.column.toNat) = f.lineColumn span.start

theorem Site.agrees {f : SourceFile} {x : Site} {after : List Char}
    (split : f.content.toList = x.passed ++ after) : x.span.Agrees f := by
  have found := f.lineColumn_of_split split
  have counted := Position.afterAll_first x.passed
  have line : x.span.position.line.toNat = (f.lineColumn x.span.start).1 % UInt32.size := by
    simp only [Site.span, found, counted, UInt32.toNat_ofNat']
  have column : x.span.position.column.toNat = (f.lineColumn x.span.start).2 % UInt32.size := by
    simp only [Site.span, found, counted, UInt32.toNat_ofNat']
  refine ⟨line, column, ?_⟩
  intro small
  have size := congrArg List.length split
  have lines := List.count_le_length (a := '\n') (l := x.passed)
  have columns := length_lastLine_le x.passed
  rw [String.length_toList, List.length_append] at size
  rw [line, column]
  simp only [Site.span, found]
  rw [Nat.mod_eq_of_lt, Nat.mod_eq_of_lt]
  · omega
  · omega

theorem span_agrees_of_mem_tokenize (name : String) {source : String} {t : Token}
    (member : t ∈ tokenize source) : t.span.Agrees (.ofContent name source) := by
  obtain ⟨x, after, same, _, split⟩ := exists_site_of_mem_tokenize member
  rw [List.append_assoc] at split
  rw [same]
  exact x.agrees (f := .ofContent name source) split

theorem span_of_mem_diagnose {source : String} {d : Diagnostic} (found : d ∈ diagnose source) :
    ∃ t ∈ tokenize source, d.span = t.span := by
  rw [diagnose_eq_sites] at found
  obtain ⟨x, member, reported⟩ := List.mem_filterMap.mp found
  obtain ⟨fault, _, same⟩ := Option.map_eq_some_iff.mp reported
  refine ⟨x.token, ?_, ?_⟩
  · rw [tokenize_eq_sites]
    exact List.mem_map_of_mem member
  · rw [← same]
    rfl

theorem exists_recorded_afterCalls (source : String) (handler : Handler) (records : Bool)
    (n : Nat) :
    ∃ recorded, ((Session.ofSource source handler records).afterCalls n).handler.diagnostics =
        handler.diagnostics ++ recorded ∧ recorded ⊆ diagnose source := by
  refine ⟨_, Session.diagnostics_afterCalls _ n, ?_⟩
  intro d recorded
  cases records with
  | false => simp [Session.ofSource] at recorded
  | true =>
    obtain ⟨step, taken, found⟩ := List.mem_filterMap.mp recorded
    exact List.mem_filterMap.mpr ⟨step, List.mem_of_mem_take taken, found⟩

theorem spans_agree (name source : String) :
    (∀ t ∈ tokenize source, t.span.Agrees (.ofContent name source)) ∧
      ∀ handler records n, ∃ recorded,
        ((Session.ofSource source handler records).afterCalls n).handler.diagnostics =
          handler.diagnostics ++ recorded ∧
        ∀ d ∈ recorded, d.span.Agrees (.ofContent name source) := by
  constructor
  · intro t member
    exact span_agrees_of_mem_tokenize name member
  · intro handler records n
    obtain ⟨recorded, added, known⟩ := exists_recorded_afterCalls source handler records n
    refine ⟨recorded, added, ?_⟩
    intro d member
    obtain ⟨t, found, same⟩ := span_of_mem_diagnose (known member)
    rw [same]
    exact span_agrees_of_mem_tokenize name found

end ScriptLens
