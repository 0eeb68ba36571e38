import ScriptLens.Proofs.Lexer.Causes
import ScriptLens.Proofs.Lexer.Restart

namespace ScriptLens

open Text

namespace Operator

/-- The text begins with the operator.  A question mark and a dot are none in front of a digit. -/
structure Begins (op : String) (text : List Char) : Prop where
  listed : op ∈ table
  here : op.toList <+: text
  chain : op = "?." → startsWithDigit (text.drop 2) = false

structure Longest (op : String) (text : List Char) : Prop extends Begins op text where
  longest : ∀ other, Begins other text → other.length ≤ op.length

def tails (c : Char) (cs : List Char) : List (List Char) :=
  (table.filter fun op => op.toList.head? = some c &&
    !(op = "?." && startsWithDigit (cs.drop 1))).map (·.toList.tail)

/-- The length is that of the longest of the tails that the text begins with. -/
def Reaches (tails : List (List Char)) (cs : List Char) (length? : Option Nat) : Prop :=
  ∃ n, length? = some n ∧ n ≤ cs.length ∧ cs.take n ∈ tails ∧
    ∀ tail ∈ tails, tail <+: cs → tail.length ≤ n

section tails

variable {c : Char} {cs tail : List Char}

theorem mem_tails : tail ∈ tails c cs ↔ ∃ op ∈ table, op.toList = c :: tail ∧
    (op = "?." → startsWithDigit (cs.drop 1) = false) := by
  simp only [tails, List.mem_map, List.mem_filter, Bool.and_eq_true, Bool.not_eq_true',
    Bool.and_eq_false_iff, decide_eq_true_eq, decide_eq_false_iff_not]
  constructor
  · rintro ⟨op, ⟨listed, head, chain⟩, rfl⟩
    obtain ⟨more, spelling⟩ := List.head?_eq_some_iff.mp head
    exact ⟨op, listed, by rw [spelling, List.tail_cons], fun same => chain.resolve_left (· same)⟩
  · rintro ⟨op, listed, spelling, chain⟩
    refine ⟨op, ⟨listed, by rw [spelling, List.head?_cons], ?_⟩, by rw [spelling, List.tail_cons]⟩
    exact or_iff_not_imp_left.mpr fun same => chain (not_not.mp same)

theorem begins_cons_iff {op : String} :
    Begins op (c :: cs) ↔ ∃ tail ∈ tails c cs, op.toList = c :: tail ∧ tail <+: cs := by
  constructor
  · rintro ⟨listed, here, chain⟩
    cases spelling : op.toList with
    | nil =>
      have proper : ∀ op ∈ table, op.toList ≠ [] := by decide
      exact absurd spelling (proper op listed)
    | cons d tail =>
      rw [spelling, List.cons_prefix_cons] at here
      obtain ⟨rfl, here⟩ := here
      exact ⟨tail, mem_tails.mpr ⟨op, listed, spelling, chain⟩, rfl, here⟩
  · rintro ⟨tail, among, spelling, here⟩
    obtain ⟨op', listed, spelling', chain⟩ := mem_tails.mp among
    obtain rfl := String.toList_inj.mp (spelling.trans spelling'.symm)
    refine ⟨listed, ?_, chain⟩
    rw [spelling]
    exact (List.cons_prefix_cons).mpr ⟨rfl, here⟩

end tails

namespace Reaches

variable {tails tails' : List (List Char)} {cs : List Char} {length? : Option Nat} {x : Char}

theorem perm (reaches : Reaches tails cs length?) (perm : tails.Perm tails') :
    Reaches tails' cs length? := by
  obtain ⟨n, found, inside, listed, longest⟩ := reaches
  exact ⟨n, found, inside, perm.mem_iff.mp listed,
    fun tail among => longest tail (perm.mem_iff.mpr among)⟩

theorem nil (cs : List Char) : Reaches [[]] cs (some 0) :=
  ⟨0, rfl, Nat.zero_le _, List.mem_singleton_self _, by simp⟩

theorem branch {more : List Char → Option Nat} (then_ : ∀ ds, Reaches tails ds (more ds))
    (else_ : Reaches tails' cs length?) (apart : ∀ tail ∈ tails', tail.head? ≠ some x) :
    Reaches (tails.map (x :: ·) ++ tails') cs
      (if cs.head? = some x then (more (cs.drop 1)).map (1 + ·) else length?) := by
  by_cases head : cs.head? = some x
  · obtain ⟨ds, rfl⟩ := List.head?_eq_some_iff.mp head
    obtain ⟨n, found, inside, listed, longest⟩ := then_ ds
    refine ⟨1 + n, by simp [found], by simp; omega, ?_, ?_⟩
    · simp [Nat.add_comm 1, listed]
    · intro tail among here
      cases tail with
      | nil => exact Nat.zero_le _
      | cons y tail =>
        obtain ⟨rfl, behind⟩ := List.cons_prefix_cons.mp here
        cases List.mem_append.mp among with
        | inl other =>
          obtain ⟨rest, inner, same⟩ := List.mem_map.mp other
          rw [(List.cons.inj same).2] at inner
          have := longest tail inner behind
          rw [List.length_cons]
          omega
        | inr other => exact absurd rfl (apart _ other)
  · obtain ⟨n, found, inside, listed, longest⟩ := else_
    refine ⟨n, by rw [if_neg head, found], inside, List.mem_append_right _ listed, ?_⟩
    intro tail among here
    cases List.mem_append.mp among with
    | inl other =>
      obtain ⟨tail, _, rfl⟩ := List.mem_map.mp other
      obtain ⟨after, rfl⟩ := here
      exact absurd rfl head
    | inr among => exact longest tail among here

theorem optional (x : Char) (cs : List Char) :
    Reaches [[x], []] cs (some (optional x cs)) := by
  have reaches := branch (x := x) nil (nil cs) (by simp)
  rw [Operator.optional, apply_ite some]
  exact reaches

theorem either {y : Char} (apart : x ≠ y) (cs : List Char) :
    Reaches [[x], [y], []] cs (some (max (Operator.optional x cs) (Operator.optional y cs))) := by
  have first : some (max (Operator.optional x cs) (Operator.optional y cs)) =
      if cs.head? = some x then (some 0).map (1 + ·) else some (Operator.optional y cs) := by
    by_cases head : cs.head? = some x
    · simp [Operator.optional, head, apart]
    · simp [Operator.optional, head]
  rw [first]
  exact branch nil (optional y cs) (by simp [apart.symm])

theorem doubledThenEquals (apart : x ≠ '=') (cs : List Char) :
    Reaches [[x, '='], [x], ['='], []] cs (some (doubledThenEquals x cs)) := by
  rw [doubledThenEquals_eq_some]
  exact branch (optional '=') (optional '=' cs) (by simp [apart.symm])

end Reaches

theorem reaches_chain (cs : List Char) :
    Reaches (if startsWithDigit (cs.drop 1) then [[]] else [['.'], []]) cs
      (if cs.head? = some '.' && !startsWithDigit (cs.drop 1) then some 1 else some 0) := by
  cases digit : startsWithDigit (cs.drop 1) with
  | true => simpa using Reaches.nil cs
  | false => simpa [optional, apply_ite some] using Reaches.optional '.' cs

theorem tails_question (cs : List Char) : tails '?' cs =
    [['?', '='], ['?']] ++ if startsWithDigit (cs.drop 1) then [[]] else [['.'], []] := by
  rw [tails]
  cases startsWithDigit (cs.drop 1) with
  | true => rfl
  | false => rfl

theorem reaches_tailLength? (cs : List Char) :
    ∀ c ∈ beginnings, Reaches (tails c cs) cs (tailLength? c cs) := by
  have equals := Reaches.branch (x := '=') (.optional '=') (.optional '>' cs) (by simp)
  have bang := Reaches.branch (x := '=') (.optional '=') (.nil cs) (by simp)
  have greater := Reaches.branch (x := '>') (Reaches.doubledThenEquals (x := '>') (by decide))
    (.optional '=' cs) (by simp)
  have question : Reaches (tails '?' cs) cs (tailLength? '?' cs) := by
    rw [tails_question]
    apply Reaches.branch (Reaches.optional '=') (reaches_chain cs)
    split <;> simp
  simp only [beginnings, List.forall_mem_cons]
  refine ⟨?plus, ?minus, ?star, ?slash, ?percent, ?equals, ?bang, ?less, ?greater, ?ampersand,
    ?pipe, ?caret, question, ?tilde, by simp⟩
  case plus | minus => exact .either (by decide) cs
  case slash | percent | caret => exact .optional '=' cs
  case equals => exact equals
  case bang => exact bang
  case ampersand | pipe => exact .doubledThenEquals (by decide) cs
  case star | less =>
    exact (Reaches.doubledThenEquals (by decide) cs).perm (.cons _ (.swap _ _ _))
  case greater => exact greater.perm (.cons _ (.cons _ (.cons _ (.swap _ _ _))))
  case tilde => exact .nil cs

variable {c : Char} {cs text : List Char} {op : String}

theorem exists_longest (begins : c ∈ beginnings) (cs : List Char) :
    ∃ n, tailLength? c cs = some n ∧ Longest (String.ofList (c :: cs.take n)) (c :: cs) := by
  obtain ⟨n, found, inside, listed, longest⟩ := reaches_tailLength? cs c begins
  have here := begins_cons_iff.mpr ⟨cs.take n, listed, String.toList_ofList, cs.take_prefix n⟩
  refine ⟨n, found, here, ?_⟩
  intro other begins
  obtain ⟨tail, among, spelling, prefixed⟩ := begins_cons_iff.mp begins
  have shorter := longest tail among prefixed
  rw [← String.length_toList, ← String.length_toList, spelling, String.toList_ofList,
    List.length_cons, List.length_cons, List.length_take, Nat.min_eq_left inside]
  omega

theorem Longest.not_extended (longest : Longest op text) {other : String} (listed : other ∈ table)
    (goesOn : op.toList <+: other.toList) (here : other.toList <+: text) (apart : other ≠ op) :
    other = "?." ∧ startsWithDigit (text.drop 2) = true := by
  by_contra counts
  have begins : Begins other text :=
    ⟨listed, here, fun same => Bool.eq_false_iff.mpr fun digit => counts ⟨same, digit⟩⟩
  have shorter := longest.longest other begins
  rw [← String.length_toList, ← String.length_toList] at shorter
  exact apart (String.toList_inj.mp (goesOn.eq_of_length_le shorter).symm)

theorem mem_beginnings_of_table (listed : op ∈ table) (head : op.toList.head? = some c) :
    c ∈ beginnings := by
  have all : ∀ op ∈ table, op.toList.head? ∈ beginnings.map some := by decide
  have found := all op listed
  rw [head] at found
  simpa using found

theorem mem_beginnings_of_tailLength? {n : Nat} (found : tailLength? c cs = some n) :
    c ∈ beginnings := by
  unfold tailLength? at found
  split at found
  case h_15 => cases found
  all_goals decide

end Operator

section scanning

variable {c : Char} {cs : List Char}

theorem scan_operator (begins : c ∈ Operator.beginnings) (line : ¬['/', '/'] <+: c :: cs)
    (block : ¬['/', '*'] <+: c :: cs) : scan c cs = .operator c cs := by
  by_cases slash : c = '/'
  · subst slash
    apply Scan.slash_eq_operator
    · intro head
      obtain ⟨ds, rfl⟩ := List.head?_eq_some_iff.mp head
      exact line ⟨ds, rfl⟩
    · intro head
      obtain ⟨ds, rfl⟩ := List.head?_eq_some_iff.mp head
      exact block ⟨ds, rfl⟩
  · simp only [Operator.beginnings, List.mem_cons, List.not_mem_nil, slash, false_or,
      or_false] at begins
    rcases begins with
      rfl | rfl | rfl | rfl | rfl | rfl | rfl | rfl | rfl | rfl | rfl | rfl | rfl
    all_goals rfl

theorem longest_operator (begins : c ∈ Operator.beginnings) (cs : List Char) :
    (Scan.operator c cs).kind = .operator ∧
      Operator.Longest (String.ofList (Scan.operator c cs).lexeme) (c :: cs) := by
  obtain ⟨n, found, longest⟩ := Operator.exists_longest begins cs
  rw [Scan.operator, found]
  exact ⟨rfl, longest⟩

theorem mem_beginnings_of_kind (kind : (Scan.operator c cs).kind = .operator) :
    c ∈ Operator.beginnings := by
  cases found : Operator.tailLength? c cs with
  | some n => exact Operator.mem_beginnings_of_tailLength? found
  | none =>
    rw [Scan.operator, found] at kind
    cases kind

end scanning

/-- A source that begins with an operator and no comment begins with the longest operator there.
Every operator of a source is the longest one at its place, so the only one that would go further
is a question mark with a dot in front of a digit. -/
theorem operators_longest :
    (∀ (source : String) (op : String), op ∈ Operator.table →
      op.toList.head? = source.toList.head? → ¬['/', '/'] <+: source.toList →
      ¬['/', '*'] <+: source.toList →
      ∃ t, (tokenize source).head? = some t ∧ t.kind = .operator ∧
        Operator.Longest t.lexeme source.toList) ∧
    ∀ (source : String) (i : Nat) (t : Token), (tokenize source)[i]? = some t →
      t.kind = .operator →
      t.lexeme ∈ Operator.table ∧ ∃ before text, source.toList = before ++ text ∧
        byteLength before = t.span.start ∧ Operator.Longest t.lexeme text ∧
        ∀ op ∈ Operator.table, t.lexeme.toList <+: op.toList → op.toList <+: text →
          op ≠ t.lexeme → op = "?." ∧ startsWithDigit (text.drop 2) = true := by
  constructor
  · intro source op listed head line block
    cases text : source.toList with
    | nil =>
      have proper : ∀ op ∈ Operator.table, op.toList.head? ≠ none := by decide
      rw [text] at head
      exact absurd head (proper op listed)
    | cons c cs =>
      rw [text] at head line block
      have begins := Operator.mem_beginnings_of_table listed head
      obtain ⟨kind, longest⟩ := longest_operator begins cs
      rw [tokenize_cons text, scan_operator begins line block]
      exact ⟨_, rfl, kind, longest⟩
  · intro source i t at_i kind
    obtain ⟨before, c, cs, split, _, rfl⟩ := exists_scan_of_getElem?_tokenize at_i
    have operator := (Scan.reveals c cs).operator kind
    rw [operator] at kind ⊢
    obtain ⟨_, longest⟩ := longest_operator (mem_beginnings_of_kind kind) cs
    exact ⟨longest.listed, before, c :: cs, split, rfl, longest,
      fun op listed goesOn here apart => longest.not_extended listed goesOn here apart⟩

theorem operators_longest_conditional :
    (tokenize "?.5").head? = some ⟨.operator, "?", ⟨0, 1, .first⟩⟩ ∧
      Operator.Longest "?" "?.5".toList ∧
      (tokenize "a>>>=b")[1]? = some ⟨.operator, ">>>=", ⟨1, 5, ⟨1, 2⟩⟩⟩ ∧
      ∃ before text, "a>>>=b".toList = before ++ text ∧ byteLength before = 1 ∧
        Operator.Longest ">>>=" text := by
  have first : (tokenize "?.5").head? = some ⟨.operator, "?", ⟨0, 1, .first⟩⟩ := by
    rw [tokenize_eq_scansUpTo]
    rfl
  have second : (tokenize "a>>>=b")[1]? = some ⟨.operator, ">>>=", ⟨1, 5, ⟨1, 2⟩⟩⟩ := by
    rw [tokenize_eq_scansUpTo]
    rfl
  obtain ⟨t, head, _, longest⟩ :=
    operators_longest.1 "?.5" "?" (by decide) rfl (by decide) (by decide)
  obtain rfl := Option.some.inj (first.symm.trans head)
  obtain ⟨_, before, text, split, size, longest', _⟩ :=
    operators_longest.2 "a>>>=b" 1 _ second rfl
  exact ⟨first, longest, second, before, text, split, size, longest'⟩

end ScriptLens
