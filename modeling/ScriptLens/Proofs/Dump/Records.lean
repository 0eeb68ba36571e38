import ScriptLens.Proofs.Text.Escapes

namespace ScriptLens.Json

open Text

theorem readable_quoted : Readable AnyText fun s => (quoted s).toList := by
  simpa only [quoted, String.toList_ofList] using Readable.quoted readEscaped_escaped

theorem quoted_ne_repr (s : String) (n : Nat) (xs ys : List Char) :
    (quoted s).toList ++ xs ≠ n.repr.toList ++ ys := by
  intro same
  cases digits : n.repr.toList with
  | nil =>
    have positive := n.length_repr_pos
    rw [← String.length_toList, digits] at positive
    cases positive
  | cons c cs =>
    have digit : c.isDigit = true := by
      have member : c ∈ n.repr.toList := digits ▸ List.mem_cons_self
      rw [Nat.toList_repr] at member
      exact Nat.isDigit_of_mem_toDigits (by decide) (by decide) member
    rw [digits, quoted, String.toList_ofList] at same
    obtain rfl := (List.cons.inj same).1
    cases digit

theorem readable_render : Readable NoDigit fun v : Scalar => v.render.toList := by
  intro v w xs ys left right same
  cases v with
  | text s =>
    cases w with
    | text t =>
      obtain ⟨rfl, rest⟩ := readable_quoted trivial trivial same
      exact ⟨rfl, rest⟩
    | number n => exact absurd same (quoted_ne_repr s n xs ys)
  | number m =>
    cases w with
    | text t => exact absurd same.symm (quoted_ne_repr t m ys xs)
    | number n =>
      obtain ⟨rfl, rest⟩ := Readable.repr left right same
      exact ⟨rfl, rest⟩

theorem readable_field : Readable NoDigit fun f => (field f).toList := by
  intro f g xs ys left right same
  simp only [field, String.toList_append, List.append_assoc] at same
  obtain ⟨name, same⟩ := readable_quoted trivial trivial (List.append_cancel_left same)
  obtain ⟨value, rest⟩ := readable_render left right (List.append_cancel_left same)
  exact ⟨Prod.ext name value, rest⟩

theorem readable_record : Readable AnyText fun r => (record r).toList := by
  have fields : Readable AnyText fun r : Record =>
      (String.intercalate ",\n" (r.map field) ++ "\n  \x7d").toList := by
    refine readable_field.separated (noDigit_cons (by decide)) (noDigit_cons (by decide)) ?_ ?_
    · intro f xs ys
      simp [field]
    · intro xs ys
      simp
  have text (r : Record) : (record r).toList = "  \x7b\n".toList ++
      (String.intercalate ",\n" (r.map field) ++ "\n  \x7d").toList := by
    rw [record, String.append_assoc, String.toList_append]
  simpa only [text] using fields.append_left _

theorem records_injective : Function.Injective records := by
  have rows : Readable AnyText fun rs : List Record =>
      (String.intercalate ",\n" (rs.map record) ++ "\n]").toList := by
    refine readable_record.separated (fun _ => trivial) (fun _ => trivial) ?_ ?_
    · intro r xs ys
      simp [record]
    · intro xs ys
      simp
  have text (r : Record) (rs : List Record) : (records (r :: rs)).toList = "[\n".toList ++
      (String.intercalate ",\n" ((r :: rs).map record) ++ "\n]").toList := by
    rw [records, String.append_assoc, String.toList_append]
    simp
  have empty (r : Record) (rs : List Record) : records [] ≠ records (r :: rs) := by
    intro same
    have texts := congrArg String.toList same
    rw [text] at texts
    simp [records] at texts
  intro rs ss same
  cases rs with
  | nil =>
    cases ss with
    | nil => rfl
    | cons s ss => exact absurd same (empty s ss)
  | cons r rs =>
    cases ss with
    | nil => exact absurd same.symm (empty r rs)
    | cons s ss =>
      have texts := congrArg String.toList same
      rw [text, text] at texts
      exact (rows.injective trivial (List.append_cancel_left texts))

end ScriptLens.Json
