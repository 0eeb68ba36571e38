import Mathlib.Data.List.Basic
import ScriptLens.Proofs.Lexer.Sites

namespace ScriptLens

def errorTokens (source : String) : List Token := (tokenize source).filter Token.isError

namespace Site

theorem map_span_diagnostic? {x : Site} {c : Char} {cs : List Char} (found : x.found = scan c cs) :
    x.diagnostic?.map (·.span) = if x.token.isError then some x.token.span else none := by
  have error : x.token.isError = x.found.fault?.isSome := by
    rw [found, ← isError_kind_scan, ← found]
    rfl
  rw [error, diagnostic?]
  cases x.found.fault? with
  | none => rfl
  | some fault => rfl

end Site

theorem map_span_diagnose (source : String) :
    (diagnose source).map (·.span) = (errorTokens source).map (·.span) := by
  rw [errorTokens, diagnose_eq_sites, tokenize_eq_sites, List.filter_map, List.map_map,
    List.map_filterMap, ← List.filterMap_eq_map, ← List.filterMap_eq_filter,
    List.filterMap_filterMap]
  apply List.filterMap_congr
  intro x member
  obtain ⟨c, cs, _, found, _⟩ := exists_scan_of_mem_sites member
  rw [Site.map_span_diagnostic? found]
  cases error : x.token.isError with
  | true => simp [Option.guard, error]
  | false => simp [Option.guard, error]

theorem length_diagnose (source : String) :
    (diagnose source).length = (errorTokens source).length := by
  simpa using congrArg List.length (map_span_diagnose source)

theorem isEmpty_diagnose (source : String) :
    (diagnose source).isEmpty = (errorTokens source).isEmpty := by
  rw [Bool.eq_iff_iff, List.isEmpty_iff, List.isEmpty_iff, ← List.length_eq_zero_iff,
    length_diagnose, List.length_eq_zero_iff]

theorem fault?_scan_of_isWhitespace {c : Char} (white : isWhitespace c = true) (cs : List Char) :
    (scan c cs).fault? = none := by
  rw [scan, if_pos white]
  rfl

theorem diagnose_of_isBlank {source : String} (blank : isBlank source = true) :
    diagnose source = [] := by
  rw [diagnose_eq_sites, List.filterMap_eq_nil_iff]
  intro x member
  obtain ⟨c, cs, after, found, split⟩ := exists_scan_of_mem_sites member
  obtain ⟨more, lexeme⟩ := lexeme_scan c cs
  have inside : c ∈ source.toList := by
    rw [split, found, lexeme]
    simp
  have white := List.all_eq_true.mp blank c inside
  rw [Site.diagnostic?, found, fault?_scan_of_isWhitespace white]
  rfl

end ScriptLens
