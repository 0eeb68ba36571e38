import ScriptLens.Token.Scan

namespace ScriptLens

namespace Scan

theorem finding_ofDelimited_ne {opening : List Char} {kind : TokenKind} {fault : LexFault}
    {d : Delimited} (proper : kind ≠ .error) :
    (ofDelimited opening kind fault d).finding ≠ .ok .error := by
  cases closed : d.closed <;> simp [ofDelimited, closed, proper]

theorem finding_slash_ne (cs : List Char) : (slash cs).finding ≠ .ok .error := by
  unfold slash
  split
  · simp
  · exact finding_ofDelimited_ne (by simp)
  · simp
  · simp

theorem finding_number_ne (cs : List Char) : (number cs).finding ≠ .ok .error := by
  rw [number]
  dsimp only
  split <;> simp

theorem finding_word_ne (c : Char) (cs : List Char) : (word c cs).finding ≠ .ok .error := by
  rw [word]
  dsimp only
  split <;> simp

theorem finding_operator_ne (c : Char) (cs : List Char) :
    (operator c cs).finding ≠ .ok .error := by
  rw [operator]
  split <;> simp

end Scan

theorem finding_scan_ne (c : Char) (cs : List Char) : (scan c cs).finding ≠ .ok .error := by
  rw [scan]
  split
  · simp
  split
  · exact Scan.finding_slash_ne cs
  split
  · exact Scan.finding_ofDelimited_ne (by simp)
  split
  · exact Scan.finding_ofDelimited_ne (by simp)
  split
  · exact Scan.finding_number_ne (c :: cs)
  split
  · exact Scan.finding_word_ne c cs
  split
  · simp
  · exact Scan.finding_operator_ne c cs

theorem isError_kind_scan (c : Char) (cs : List Char) :
    (scan c cs).kind.isError = (scan c cs).fault?.isSome := by
  have proper := finding_scan_ne c cs
  cases found : (scan c cs).finding with
  | error fault => simp [Scan.kind, Scan.fault?, found, TokenKind.isError]
  | ok kind =>
    rw [found] at proper
    simp only [Scan.kind, Scan.fault?, found, Option.isSome_none]
    cases kind with
    | error => exact absurd rfl proper
    | _ => rfl

theorem isWhitespace_eq_false_of_kind_ne {c : Char} {cs : List Char}
    (other : (scan c cs).kind ≠ .whitespace) : isWhitespace c = false := by
  cases white : isWhitespace c with
  | false => rfl
  | true =>
    rw [scan, if_pos white] at other
    exact absurd rfl other

end ScriptLens
