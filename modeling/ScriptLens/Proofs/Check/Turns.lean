import ScriptLens.Proofs.Check.Pool

namespace ScriptLens

section exchange

theorem mapIdx_eq_map {f : Nat → α → β} {g : α → β} {l : List α}
    (same : ∀ i < l.length, f i = g) : l.mapIdx f = l.map g := by
  apply List.ext_getElem (by simp)
  intro i inside _
  rw [List.length_mapIdx] at inside
  rw [List.getElem_mapIdx, List.getElem_map, same i inside]

theorem Host.readingsFor_split (host : Host) (before : List String) (path : String)
    (after : List String) :
    host.readingsFor (some before.length) (before ++ path :: after) =
      before.map host.drained.input ++ host.input path :: after.map host.drained.input := by
  have ahead : before.mapIdx (host.readingAt (some before.length)) =
      before.map host.drained.input := by
    refine mapIdx_eq_map fun place inside => funext fun _ => readingAt_of_ne ?_ _
    simpa using (Nat.ne_of_lt inside).symm
  have behind : after.mapIdx (fun place => host.readingAt (some before.length)
      (place + 1 + before.length)) = after.map host.drained.input := by
    refine mapIdx_eq_map fun place _ => funext fun _ => readingAt_of_ne ?_ _
    simp only [ne_eq, Option.some.injEq]
    omega
  rw [readingsFor, List.mapIdx_append, ahead, List.mapIdx_cons, Nat.zero_add, readingAt_self,
    behind]

def Host.between (host : Host) (inputs : List String) (i j : Nat) : List Reading :=
  ((inputs.take (max i j)).drop (min i j + 1)).map host.drained.input

theorem Host.between_comm (host : Host) (inputs : List String) (i j : Nat) :
    host.between inputs i j = host.between inputs j i := by
  rw [between, between, Nat.max_comm, Nat.min_comm]

theorem Host.between_self (host : Host) (inputs : List String) (i : Nat) :
    host.between inputs i i = [] := by
  have short : (inputs.take i).length ≤ i + 1 := by
    rw [List.length_take]
    omega
  rw [between, Nat.max_self, Nat.min_self, List.drop_eq_nil_of_le short, List.map_nil]

theorem eq_take_append_cons_drop {l : List α} {i : Nat} {x : α} (here : l[i]? = some x) :
    l = l.take i ++ x :: l.drop (i + 1) := by
  obtain ⟨inside, rfl⟩ := List.getElem?_eq_some_iff.mp here
  rw [← List.drop_eq_getElem_cons inside, List.take_append_drop]

theorem exists_readers {inputs : List String} {i j : Nat} (lt : i < j)
    (reader : inputs[i]?.any isStandardInput = true)
    (reader' : inputs[j]?.any isStandardInput = true) :
    ∃ before p middle q after,
      inputs = before ++ p :: middle ++ q :: after ∧ i = before.length ∧
        j = (before ++ p :: middle).length ∧ isStandardInput p = true ∧
          isStandardInput q = true := by
  obtain ⟨p, here, standard⟩ := (Option.any_eq_true ..).mp reader
  obtain ⟨q, there, standard'⟩ := (Option.any_eq_true ..).mp reader'
  have inside : j < inputs.length := (List.getElem?_eq_some_iff.mp there).1
  have first : (inputs.take j)[i]? = some p := by rw [List.getElem?_take_of_lt lt, here]
  have ahead : (inputs.take j).length = j := by
    rw [List.length_take]
    omega
  refine ⟨(inputs.take j).take i, p, (inputs.take j).drop (i + 1), q, inputs.drop (j + 1), ?_, ?_,
    ?_, standard, standard'⟩
  · rw [← eq_take_append_cons_drop first, ← eq_take_append_cons_drop there]
  · rw [List.length_take, ahead]
    omega
  · rw [← eq_take_append_cons_drop first, ahead]

theorem Host.between_split (host : Host) (before : List String) (p : String)
    (middle after : List String) :
    host.between (before ++ p :: middle ++ after) before.length (before ++ p :: middle).length =
      middle.map host.drained.input := by
  have le : before.length ≤ (before ++ p :: middle).length := by simp
  have opened : before ++ p :: middle = (before ++ [p]) ++ middle := by simp
  rw [between, Nat.max_eq_right le, Nat.min_eq_left le, List.take_left, opened,
    List.drop_left' (by simp)]

/-- Of two readers, the first takes what there is, and nothing is left for the other. -/
theorem Host.exists_exchange (host : Host) {inputs : List String} {i j : Nat} (lt : i < j)
    (reader : inputs[i]?.any isStandardInput = true)
    (reader' : inputs[j]?.any isStandardInput = true) :
    ∃ before after,
      host.readingsFor (some i) inputs =
        before ++ host.standardInput :: (host.between inputs i j ++
          host.drained.standardInput :: after) ∧
      host.readingsFor (some j) inputs =
        before ++ host.drained.standardInput :: (host.between inputs i j ++
          host.standardInput :: after) := by
  obtain ⟨before, p, middle, q, after, rfl, rfl, rfl, standard, standard'⟩ :=
    exists_readers lt reader reader'
  rw [between_split]
  refine ⟨before.map host.drained.input, after.map host.drained.input, ?_, ?_⟩
  · rw [List.append_assoc, List.cons_append, readingsFor_split, List.map_append, List.map_cons,
      input_of_isStandardInput standard, input_of_isStandardInput standard']
  · rw [readingsFor_split, List.map_append, List.map_cons, List.append_assoc, List.cons_append,
      input_of_isStandardInput standard, input_of_isStandardInput standard']

end exchange

end ScriptLens
