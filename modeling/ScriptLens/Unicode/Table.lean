namespace ScriptLens.Unicode

abbrev Table := List (Nat × Nat)

namespace Table

def has (t : Table) (c : Char) : Bool :=
  t.any fun interval => decide (interval.1 ≤ c.toNat) && decide (c.toNat ≤ interval.2)

@[simp] theorem has_nil (c : Char) : has [] c = false := rfl

end Table

end ScriptLens.Unicode
