import ScriptLens.Proofs.Text.Lines
import ScriptLens.Proofs.Token.Isolation

namespace ScriptLens

open Text

theorem NumericRun.lineFeed_not_mem_span (r : NumericRun) (cs : List Char) :
    '\n' ∉ (r.span cs).1 := by
  induction cs generalizing r with
  | nil => simp [span]
  | cons c cs ih =>
    rw [span]
    split
    · rename_i joins
      have other : '\n' ≠ c := by
        rintro rfl
        rw [accepts_lineFeed] at joins
        cases joins
      simp [other, ih]
    · simp

namespace Scan

def TellsLine (s : Scan) : Prop := ∀ fault, s.finding = .error fault → IsLine fault.message

variable {s : Scan}

theorem tellsLine_of_ok {kind : TokenKind} (found : s.finding = .ok kind) : s.TellsLine := by
  intro fault faulty
  rw [found] at faulty
  cases faulty

theorem tellsLine_ofDelimited {opening : List Char} {kind : TokenKind} {fault : LexFault}
    (line : IsLine fault.message) (d : Delimited) :
    (ofDelimited opening kind fault d).TellsLine := by
  intro fault' faulty
  cases closed : d.closed with
  | true => simp [ofDelimited, closed] at faulty
  | false =>
    simp only [ofDelimited, closed] at faulty
    obtain rfl := Except.error.inj faulty
    exact line

theorem tellsLine_slash (cs : List Char) : (slash cs).TellsLine := by
  unfold slash
  split
  · exact tellsLine_of_ok rfl
  · exact tellsLine_ofDelimited (by decide) _
  · exact tellsLine_of_ok rfl
  · exact tellsLine_of_ok rfl

theorem tellsLine_number (cs : List Char) : (number cs).TellsLine := by
  intro fault faulty
  rw [number] at faulty
  dsimp only at faulty
  split at faulty
  · cases faulty
  · obtain rfl := Except.error.inj faulty
    have run : IsLine (String.ofList (NumericRun.ofText cs).1) :=
      isLine_ofList.mpr (NumericRun.lineFeed_not_mem_span _ cs)
    exact isLine_append.mpr ⟨isLine_append.mpr ⟨by decide, run⟩, by decide⟩

theorem tellsLine_operator (c : Char) (cs : List Char) : (operator c cs).TellsLine := by
  unfold operator
  split
  · exact tellsLine_of_ok rfl
  · intro fault faulty
    obtain rfl := Except.error.inj faulty
    exact isLine_append.mpr ⟨by decide, isLine_quotedChar c⟩

end Scan

theorem tellsLine_scan (c : Char) (cs : List Char) : (scan c cs).TellsLine := by
  rw [scan]
  split
  · exact Scan.tellsLine_of_ok rfl
  split
  · exact Scan.tellsLine_slash cs
  split
  · exact Scan.tellsLine_ofDelimited (by decide) _
  split
  · exact Scan.tellsLine_ofDelimited (by decide) _
  split
  · exact Scan.tellsLine_number (c :: cs)
  split
  · exact Scan.tellsLine_of_ok rfl
  split
  · exact Scan.tellsLine_of_ok rfl
  · exact Scan.tellsLine_operator c cs

theorem LexFault.isLine_code (fault : LexFault) : IsLine fault.code.text := by
  have family : IsLine "E" := by decide
  cases fault <;> simp [code, Code.text, family]

theorem LexFault.isLine_help (fault : LexFault) : ∀ help ∈ fault.help?.toList, IsLine help := by
  cases fault <;> simp [help?, IsLine]

end ScriptLens
