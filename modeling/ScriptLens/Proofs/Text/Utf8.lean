import Mathlib.Data.List.Basic
import ScriptLens.Text.Utf8

namespace ScriptLens.Text.Utf8

open String (utf8EncodeChar)

section payloads

def following (payloads : List Nat) : List UInt8 := payloads.map fun d => .ofNat (d + 128)

def joined (codePoint : Nat) (payloads : List Nat) : Nat :=
  payloads.foldl (fun v d => v * 64 + d) codePoint

theorem following_cons (d : Nat) (ds : List Nat) :
    following (d :: ds) = .ofNat (d + 128) :: following ds := rfl

theorem joined_cons (codePoint d : Nat) (ds : List Nat) :
    joined codePoint (d :: ds) = joined (codePoint * 64 + d) ds := rfl

def StartsIn (low high : UInt8) (payloads : List Nat) : Prop :=
  ∀ d ∈ payloads.head?, low.toNat ≤ d + 128 ∧ d + 128 ≤ high.toNat

variable {low high : UInt8} {n codePoint : Nat} {bs rest : List UInt8} {c : Char}

theorem toNat_following {d : Nat} (small : d < 64) : (UInt8.ofNat (d + 128)).toNat = d + 128 := by
  rw [UInt8.toNat_ofNat']
  omega

theorem continueUnit_following {payloads : List Nat} (six : ∀ d ∈ payloads, d < 64)
    (first : StartsIn low high payloads) :
    continueUnit low high payloads.length codePoint (following payloads ++ rest) =
      (some (.ofNat (joined codePoint payloads)), rest) := by
  induction payloads generalizing low high codePoint with
  | nil => rfl
  | cons d ds ih =>
    obtain ⟨small, more⟩ := List.forall_mem_cons.mp six
    have byte := toNat_following small
    obtain ⟨above, below⟩ := first d rfl
    have inside : low ≤ .ofNat (d + 128) ∧ .ofNat (d + 128) ≤ high := by
      rw [UInt8.le_iff_toNat_le, UInt8.le_iff_toNat_le, byte]
      exact ⟨above, below⟩
    have anywhere : StartsIn 0x80 0xBF ds := by
      intro e member
      have : e < 64 := more e (List.mem_of_mem_head? member)
      exact ⟨Nat.le_add_left .., Nat.add_le_add_right (Nat.le_of_lt_succ this) 128⟩
    rw [following_cons, List.cons_append, List.length_cons, continueUnit, if_pos inside, byte,
      Nat.add_sub_cancel, ih more anywhere, joined_cons]

theorem exists_following (atLeast : 0x80 ≤ low) (atMost : high ≤ 0xBF)
    (read : continueUnit low high n codePoint bs = (some c, rest)) :
    ∃ payloads, payloads.length = n ∧ (∀ d ∈ payloads, d < 64) ∧ StartsIn low high payloads ∧
      bs = following payloads ++ rest ∧ c = .ofNat (joined codePoint payloads) := by
  induction n generalizing low high codePoint bs with
  | zero =>
    rw [continueUnit] at read
    obtain ⟨rfl, rfl⟩ := by simpa using read
    exact ⟨[], rfl, by simp, by simp [StartsIn], rfl, rfl⟩
  | succ n ih =>
    cases bs with
    | nil => cases read
    | cons b bs =>
      rw [continueUnit] at read
      split at read
      · rename_i inside
        obtain ⟨payloads, length, six, _, rfl, rfl⟩ := ih (by decide) (by decide) read
        rw [UInt8.le_iff_toNat_le] at atLeast atMost inside
        rw [UInt8.le_iff_toNat_le] at inside
        have floor : (0x80 : UInt8).toNat = 128 := rfl
        have ceiling : (0xBF : UInt8).toNat = 191 := rfl
        have byte : .ofNat (b.toNat - 128 + 128) = b := by
          rw [Nat.sub_add_cancel (by omega), UInt8.ofNat_toNat]
        refine ⟨(b.toNat - 128) :: payloads, by simp [length], ?_, ?_, ?_, by rw [joined_cons]⟩
        · exact List.forall_mem_cons.mpr ⟨by omega, six⟩
        · intro d member
          obtain rfl := Option.some.inj member
          omega
        · rw [following_cons, byte, List.cons_append]
      · cases read

end payloads

section leads

variable {b : UInt8} {l : Lead}

theorem exists_lead (low : ¬b < 0xC2) (high : b < 0xF5) : ∃ l, lead? b = some l := by
  rw [lead?, if_neg low]
  split
  · exact ⟨_, rfl⟩
  split
  · exact ⟨_, rfl⟩
  · exact ⟨_, rfl⟩

inductive Leads (b : UInt8) (l : Lead) : Prop
  | one : 0xC2 ≤ b.toNat → b.toNat < 0xE0 → l.payload = b.toNat - 0xC0 → l.following = 1 →
    l.low.toNat = 0x80 → l.high.toNat = 0xBF → Leads b l
  | two : 0xE0 ≤ b.toNat → b.toNat < 0xF0 → l.payload = b.toNat - 0xE0 → l.following = 2 →
    l.low.toNat = (if b.toNat = 0xE0 then 0xA0 else 0x80) →
    l.high.toNat = (if b.toNat = 0xED then 0x9F else 0xBF) → Leads b l
  | three : 0xF0 ≤ b.toNat → b.toNat < 0xF5 → l.payload = b.toNat - 0xF0 → l.following = 3 →
    l.low.toNat = (if b.toNat = 0xF0 then 0x90 else 0x80) →
    l.high.toNat = (if b.toNat = 0xF4 then 0x8F else 0xBF) → Leads b l

theorem leads_of_lead? (lead : lead? b = some l) : Leads b l := by
  unfold lead? at lead
  simp only [UInt8.lt_iff_toNat_lt, ← UInt8.toNat_inj, UInt8.reduceToNat] at lead
  split at lead
  · cases lead
  split at lead
  · obtain rfl := Option.some.inj lead
    exact .one (by omega) (by omega) rfl rfl rfl rfl
  split at lead
  · obtain rfl := Option.some.inj lead
    exact .two (by omega) (by omega) rfl rfl (apply_ite ..) (apply_ite ..)
  split at lead
  · obtain rfl := Option.some.inj lead
    exact .three (by omega) (by omega) rfl rfl (apply_ite ..) (apply_ite ..)
  · cases lead

theorem Leads.range (leads : Leads b l) :
    0xC2 ≤ b.toNat ∧ 0x80 ≤ l.low ∧ l.low ≤ l.high ∧ l.high ≤ 0xBF := by
  simp only [UInt8.le_iff_toNat_le, UInt8.reduceToNat]
  cases leads with
  | one _ _ _ _ low high => omega
  | two _ _ _ _ low high => split at low <;> split at high <;> omega
  | three _ _ _ _ low high => split at low <;> split at high <;> omega

theorem toNat_ofNat {n : Nat} (valid : n.isValidChar) : (Char.ofNat n).toNat = n := by
  rw [Char.ofNat, dif_pos valid]
  rfl

theorem utf8EncodeChar_eq (c : Char) : utf8EncodeChar c =
    if c.toNat ≤ 0x7F then [.ofNat c.toNat]
    else if c.toNat ≤ 0x7FF then .ofNat (c.toNat / 64 % 32 + 192) :: following [c.toNat % 64]
    else if c.toNat ≤ 0xFFFF then
      .ofNat (c.toNat / 4096 % 16 + 224) :: following [c.toNat / 64 % 64, c.toNat % 64]
    else .ofNat (c.toNat / 262144 % 8 + 240) ::
      following [c.toNat / 4096 % 64, c.toNat / 64 % 64, c.toNat % 64] := rfl

theorem encode_joined {payloads : List Nat} (leads : Leads b l)
    (length : payloads.length = l.following) (six : ∀ d ∈ payloads, d < 64)
    (first : StartsIn l.low l.high payloads) :
    utf8EncodeChar (.ofNat (joined l.payload payloads)) = b :: following payloads := by
  have byte {n : Nat} (same : n = b.toNat) : UInt8.ofNat n = b := by rw [same, UInt8.ofNat_toNat]
  cases leads with
  | one atLeast atMost payload count low high =>
    obtain ⟨d, rfl⟩ := List.length_eq_one_iff.mp (length.trans count)
    have bound : d < 64 := six d (by simp)
    have value : joined l.payload [d] = (b.toNat - 0xC0) * 64 + d := by rw [payload]; rfl
    have code := toNat_ofNat (n := joined l.payload [d]) (.inl (by omega))
    rw [value] at code ⊢
    rw [utf8EncodeChar_eq, code, if_neg (by omega), if_pos (by omega), byte (by omega)]
    congr 3
    omega
  | two atLeast atMost payload count low high =>
    obtain ⟨d, e, rfl⟩ := List.length_eq_two.mp (length.trans count)
    have bound : d < 64 ∧ e < 64 := by simpa using six
    have range := first d rfl
    have least : b.toNat = 0xE0 → 0x20 ≤ d := by grind
    have most : b.toNat = 0xED → d < 0x20 := by grind
    have value : joined l.payload [d, e] = ((b.toNat - 0xE0) * 64 + d) * 64 + e := by
      rw [payload]; rfl
    have code := toNat_ofNat (n := joined l.payload [d, e]) (by unfold Nat.isValidChar; omega)
    rw [value] at code ⊢
    rw [utf8EncodeChar_eq, code, if_neg (by omega), if_neg (by omega), if_pos (by omega),
      byte (by omega)]
    congr 3
    · omega
    · congr 1
      omega
  | three atLeast atMost payload count low high =>
    obtain ⟨d, e, f, rfl⟩ := List.length_eq_three.mp (length.trans count)
    have bound : d < 64 ∧ e < 64 ∧ f < 64 := by simpa using six
    have range := first d rfl
    have least : b.toNat = 0xF0 → 0x10 ≤ d := by grind
    have most : b.toNat = 0xF4 → d < 0x10 := by grind
    have value : joined l.payload [d, e, f] =
        (((b.toNat - 0xF0) * 64 + d) * 64 + e) * 64 + f := by
      rw [payload]; rfl
    have code := toNat_ofNat (n := joined l.payload [d, e, f]) (by unfold Nat.isValidChar; omega)
    rw [value] at code ⊢
    rw [utf8EncodeChar_eq, code, if_neg (by omega), if_neg (by omega), if_neg (by omega),
      byte (by omega)]
    congr 3
    · omega
    · congr 1
      · omega
      · congr 1
        omega

theorem isValidChar_toNat (c : Char) : c.toNat.isValidChar := c.valid

theorem exists_leads {n : Nat} (low : 0xC2 ≤ n) (high : n < 0xF5) :
    ∃ l, lead? (.ofNat n) = some l ∧ Leads (.ofNat n) l ∧ (UInt8.ofNat n).toNat = n := by
  have byte : (UInt8.ofNat n).toNat = n := by
    rw [UInt8.toNat_ofNat']
    omega
  have notLess : ¬UInt8.ofNat n < 0xC2 := by
    rw [UInt8.lt_iff_toNat_lt, byte]
    exact Nat.not_lt.mpr low
  have less : UInt8.ofNat n < 0xF5 := by
    rw [UInt8.lt_iff_toNat_lt, byte]
    exact high
  obtain ⟨l, found⟩ := exists_lead notLess less
  exact ⟨l, found, leads_of_lead? found, byte⟩

theorem exists_lead_payloads {c : Char} (wide : ¬c.toNat ≤ 0x7F) :
    ∃ b l payloads, utf8EncodeChar c = b :: following payloads ∧ lead? b = some l ∧
      payloads.length = l.following ∧ (∀ d ∈ payloads, d < 64) ∧ StartsIn l.low l.high payloads ∧
      joined l.payload payloads = c.toNat := by
  have valid := isValidChar_toNat c
  unfold Nat.isValidChar at valid
  have six (n : Nat) : n % 64 < 64 := Nat.mod_lt n (by decide)
  rw [utf8EncodeChar_eq, if_neg wide]
  split
  · obtain ⟨l, found, leads, byte⟩ :=
      exists_leads (n := c.toNat / 64 % 32 + 192) (by omega) (by omega)
    refine ⟨_, l, _, rfl, found, ?_⟩
    cases leads with
    | one _ _ payload count low high =>
      refine ⟨count.symm, by simp [six], ?_, ?_⟩
      · rintro d ⟨⟩
        have := six c.toNat
        omega
      · rw [payload, byte, joined_cons]
        change (c.toNat / 64 % 32 + 192 - 0xC0) * 64 + c.toNat % 64 = c.toNat
        omega
    | two atLeast => omega
    | three atLeast => omega
  split
  · obtain ⟨l, found, leads, byte⟩ :=
      exists_leads (n := c.toNat / 4096 % 16 + 224) (by omega) (by omega)
    refine ⟨_, l, _, rfl, found, ?_⟩
    cases leads with
    | one _ atMost => omega
    | two _ _ payload count low high =>
      refine ⟨count.symm, by simp [six], ?_, ?_⟩
      · rintro d ⟨⟩
        have := six (c.toNat / 64)
        rw [low, high, byte]
        split <;> split <;> omega
      · rw [payload, byte, joined_cons, joined_cons]
        change ((c.toNat / 4096 % 16 + 224 - 0xE0) * 64 + c.toNat / 64 % 64) * 64 + c.toNat % 64 =
          c.toNat
        omega
    | three atLeast => omega
  · obtain ⟨l, found, leads, byte⟩ :=
      exists_leads (n := c.toNat / 262144 % 8 + 240) (by omega) (by omega)
    refine ⟨_, l, _, rfl, found, ?_⟩
    cases leads with
    | one _ atMost => omega
    | two _ atMost => omega
    | three _ _ payload count low high =>
      refine ⟨count.symm, by simp [six], ?_, ?_⟩
      · rintro d ⟨⟩
        have := six (c.toNat / 4096)
        rw [low, high, byte]
        split <;> split <;> omega
      · rw [payload, byte, joined_cons, joined_cons, joined_cons]
        change (((c.toNat / 262144 % 8 + 240 - 0xF0) * 64 + c.toNat / 4096 % 64) * 64 +
          c.toNat / 64 % 64) * 64 + c.toNat % 64 = c.toNat
        omega

end leads

section firstUnit

variable {b : UInt8} {bs rest : List UInt8} {c : Char}

theorem firstUnit_of_lead? {l : Lead} (lead : lead? b = some l) (bs : List UInt8) :
    firstUnit b bs = continueUnit l.low l.high l.following l.payload bs := by
  have notAscii : ¬b < 0x80 := by
    rw [UInt8.lt_iff_toNat_lt, Nat.not_lt]
    exact Nat.le_trans (by decide) (leads_of_lead? lead).range.1
  rw [firstUnit, if_neg notAscii, lead]

theorem exists_firstUnit_encode (c : Char) (rest : List UInt8) :
    ∃ b bs, utf8EncodeChar c ++ rest = b :: bs ∧ firstUnit b bs = (some c, rest) := by
  by_cases ascii : c.toNat ≤ 0x7F
  · refine ⟨.ofNat c.toNat, rest, by rw [utf8EncodeChar_eq, if_pos ascii]; rfl, ?_⟩
    have byte : (UInt8.ofNat c.toNat).toNat = c.toNat := by
      rw [UInt8.toNat_ofNat']
      omega
    have less : UInt8.ofNat c.toNat < 0x80 := by
      rw [UInt8.lt_iff_toNat_lt, byte]
      exact Nat.lt_succ_of_le ascii
    rw [firstUnit, if_pos less, byte, Char.ofNat_toNat]
  · obtain ⟨b, l, payloads, encoding, lead, length, six, first, code⟩ := exists_lead_payloads ascii
    refine ⟨b, following payloads ++ rest, by rw [encoding]; rfl, ?_⟩
    rw [firstUnit_of_lead? lead, ← length, continueUnit_following six first, code,
      Char.ofNat_toNat]

theorem eq_encode_of_firstUnit (read : firstUnit b bs = (some c, rest)) :
    b :: bs = utf8EncodeChar c ++ rest := by
  unfold firstUnit at read
  split at read
  · rename_i ascii
    have less : b.toNat < 0x80 := UInt8.lt_iff_toNat_lt.mp ascii
    obtain ⟨rfl, rfl⟩ := by simpa using read
    have code := toNat_ofNat (n := b.toNat) (.inl (by omega))
    rw [utf8EncodeChar_eq, code, if_pos (by omega), UInt8.ofNat_toNat]
    rfl
  split at read
  · cases read
  · rename_i l lead
    have leads := leads_of_lead? lead
    obtain ⟨_, low, _, high⟩ := leads.range
    obtain ⟨payloads, length, six, first, rfl, rfl⟩ := exists_following low high read
    rw [encode_joined leads length six first]
    rfl

theorem firstUnit_eq_some_iff :
    firstUnit b bs = (some c, rest) ↔ b :: bs = utf8EncodeChar c ++ rest := by
  constructor
  · exact eq_encode_of_firstUnit
  · intro begins
    obtain ⟨b', bs', split, read⟩ := exists_firstUnit_encode c rest
    obtain ⟨rfl, rfl⟩ := List.cons.inj (begins.trans split)
    exact read

end firstUnit

section illFormed

variable {low high : UInt8} {n codePoint : Nat} {b : UInt8} {bs rest : List UInt8}

def Begins (bs : List UInt8) : Prop := ∃ c, bs <+: utf8EncodeChar c

/-- A beginning of `bad ++ rest`, where no encoding stands.  It is the longest that some encoding
begins with, or a byte that none begins with. -/
structure IllFormed (bad rest : List UInt8) : Prop where
  nonempty : bad ≠ []
  incomplete : ∀ c, ¬utf8EncodeChar c <+: bad ++ rest
  begins : Begins bad ∨ bad.length = 1
  longest : ∀ b ∈ rest.head?, ¬Begins (bad ++ [b])

theorem exists_continueUnit (inOrder : low ≤ high) (n codePoint : Nat) :
    ∃ tail c, continueUnit low high n codePoint tail = (some c, []) := by
  induction n generalizing low high codePoint with
  | zero => exact ⟨[], _, rfl⟩
  | succ n ih =>
    have anywhere : (0x80 : UInt8) ≤ 0xBF := by decide
    obtain ⟨tail, c, read⟩ := ih anywhere (codePoint * 64 + (low.toNat - 0x80))
    refine ⟨low :: tail, c, ?_⟩
    rw [continueUnit, if_pos ⟨UInt8.le_refl low, inOrder⟩, read]

theorem exists_taken (inOrder : low ≤ high)
    (read : continueUnit low high n codePoint bs = (none, rest)) :
    ∃ taken, bs = taken ++ rest ∧
      (∃ tail c, continueUnit low high n codePoint (taken ++ tail) = (some c, [])) ∧
      ∀ b ∈ rest.head?, ∀ tail, (continueUnit low high n codePoint (taken ++ b :: tail)).1 =
        none := by
  induction n generalizing low high codePoint bs with
  | zero => cases read
  | succ n ih =>
    cases bs with
    | nil =>
      cases read
      exact ⟨[], rfl, exists_continueUnit inOrder _ _, by simp⟩
    | cons b bs =>
      rw [continueUnit] at read
      split at read
      · rename_i inside
        obtain ⟨taken, rfl, ⟨tail, c, complete⟩, stops⟩ := ih (by decide) read
        refine ⟨b :: taken, rfl, ⟨tail, c, ?_⟩, ?_⟩
        · rw [List.cons_append, continueUnit, if_pos inside, complete]
        · intro d member tail
          rw [List.cons_append, continueUnit, if_pos inside, stops d member]
      · rename_i outside
        cases read
        refine ⟨[], rfl, exists_continueUnit inOrder _ _, ?_⟩
        rintro d ⟨⟩ tail
        rw [List.nil_append, continueUnit, if_neg outside]

theorem begins_cons_iff : Begins (b :: bs) ↔ ∃ tail c, firstUnit b (bs ++ tail) = (some c, []) := by
  simp only [firstUnit_eq_some_iff, List.append_nil]
  constructor
  · rintro ⟨c, tail, split⟩
    exact ⟨tail, c, split⟩
  · rintro ⟨tail, c, split⟩
    exact ⟨c, tail, split⟩

theorem exists_illFormed (read : firstUnit b bs = (none, rest)) :
    ∃ bad, b :: bs = bad ++ rest ∧ IllFormed bad rest := by
  have incomplete (c : Char) : ¬utf8EncodeChar c <+: b :: bs := by
    rintro ⟨after, split⟩
    cases read.symm.trans (firstUnit_eq_some_iff.mpr split.symm)
  cases lead : lead? b with
  | none =>
    have nothing (more : List UInt8) : firstUnit b more = (none, more) := by
      have notAscii : ¬b < 0x80 := by
        intro ascii
        rw [firstUnit, if_pos ascii] at read
        cases read
      rw [firstUnit, if_neg notAscii, lead]
    cases (nothing bs).symm.trans read
    refine ⟨[b], rfl, by simp, incomplete, .inr rfl, ?_⟩
    intro d _ goesOn
    obtain ⟨tail, c, found⟩ := begins_cons_iff.mp goesOn
    cases (nothing _).symm.trans found
  | some l =>
    rw [firstUnit_of_lead? lead] at read
    obtain ⟨_, _, inOrder, _⟩ := (leads_of_lead? lead).range
    obtain ⟨taken, rfl, begins, stops⟩ := exists_taken inOrder read
    refine ⟨b :: taken, rfl, by simp, incomplete, .inl ?_, ?_⟩
    · simpa only [begins_cons_iff, firstUnit_of_lead? lead] using begins
    · intro d member goesOn
      rw [List.cons_append, begins_cons_iff] at goesOn
      obtain ⟨tail, c, found⟩ := goesOn
      rw [firstUnit_of_lead? lead, List.append_assoc] at found
      cases (stops d member tail).symm.trans (congrArg Prod.fst found)

theorem Begins.of_append {bs tail : List UInt8} (begins : Begins (bs ++ tail)) : Begins bs := by
  obtain ⟨c, whole⟩ := begins
  exact ⟨c, (List.prefix_append bs tail).trans whole⟩

variable {bad bad' rest' : List UInt8}

theorem IllFormed.eq_nil_of_append {more : List UInt8} (shorter : IllFormed bad (more ++ rest))
    (longer : IllFormed (bad ++ more) rest) : more = [] := by
  cases more with
  | nil => rfl
  | cons d more =>
    exfalso
    cases longer.begins with
    | inl begins =>
      have split : bad ++ d :: more = bad ++ [d] ++ more := by simp
      rw [split] at begins
      exact shorter.longest d rfl begins.of_append
    | inr one =>
      have some : 0 < bad.length := List.length_pos_iff.mpr shorter.nonempty
      rw [List.length_append, List.length_cons] at one
      omega

theorem IllFormed.unique (here : IllFormed bad rest) (there : IllFormed bad' rest')
    (same : bad ++ rest = bad' ++ rest') : bad = bad' ∧ rest = rest' := by
  obtain ⟨more, rfl, rfl⟩ | ⟨more, rfl, rfl⟩ := List.append_eq_append_iff.mp same
  · obtain rfl := here.eq_nil_of_append there
    simp
  · obtain rfl := there.eq_nil_of_append here
    simp

theorem firstUnit_of_illFormed (illFormed : IllFormed bad rest) (split : b :: bs = bad ++ rest) :
    firstUnit b bs = (none, rest) := by
  cases read : firstUnit b bs with
  | mk unit left =>
    cases unit with
    | some c =>
      have stands := firstUnit_eq_some_iff.mp read
      rw [split] at stands
      exact absurd ⟨left, stands.symm⟩ (illFormed.incomplete c)
    | none =>
      obtain ⟨bad', split', illFormed'⟩ := exists_illFormed read
      obtain ⟨_, rfl⟩ := illFormed.unique illFormed' (split.symm.trans split')
      rfl

end illFormed

section units

variable {bs : List UInt8}

/-- The characters of bytes, with one that stands for each ill formed part. -/
inductive Decodes : List UInt8 → List Char → Prop
  | nil : Decodes [] []
  | character {c : Char} {bs : List UInt8} {cs : List Char} :
    Decodes bs cs → Decodes (utf8EncodeChar c ++ bs) (c :: cs)
  | illFormed {bad bs : List UInt8} {cs : List Char} :
    IllFormed bad bs → Decodes bs cs → Decodes (bad ++ bs) (replacement :: cs)

theorem decodes_decodeLossy (bs : List UInt8) : Decodes bs (decodeLossy bs).toList := by
  rw [decodeLossy, String.toList_ofList]
  fun_induction units bs with
  | case1 => exact .nil
  | case2 b bs ih =>
    rw [List.map_cons]
    cases read : firstUnit b bs with
    | mk unit rest =>
      rw [read] at ih
      cases unit with
      | none =>
        obtain ⟨bad, split, illFormed⟩ := exists_illFormed read
        rw [split]
        exact .illFormed illFormed ih
      | some c =>
        rw [firstUnit_eq_some_iff.mp read]
        exact .character ih

theorem units_encode_append (c : Char) (bs : List UInt8) :
    units (utf8EncodeChar c ++ bs) = some c :: units bs := by
  obtain ⟨b, rest, split, read⟩ := exists_firstUnit_encode c bs
  rw [split, units, read]

theorem units_illFormed_append {bad : List UInt8} (illFormed : IllFormed bad bs) :
    units (bad ++ bs) = none :: units bs := by
  cases begins : bad ++ bs with
  | nil => exact absurd (List.append_eq_nil_iff.mp begins).1 illFormed.nonempty
  | cons b rest => rw [units, firstUnit_of_illFormed illFormed begins.symm]

theorem decodeLossy_eq_iff {s : String} : decodeLossy bs = s ↔ Decodes bs s.toList := by
  constructor
  · rintro rfl
    exact decodes_decodeLossy bs
  · intro decodes
    rw [← String.toList_inj, decodeLossy, String.toList_ofList]
    generalize s.toList = cs at decodes ⊢
    induction decodes with
    | nil => rw [units, List.map_nil]
    | character _ ih => rw [units_encode_append, List.map_cons, ih, Option.getD_some]
    | illFormed bad _ ih => rw [units_illFormed_append bad, List.map_cons, ih, Option.getD_none]

theorem units_encode (s : String) : units (encode s) = s.toList.map some := by
  rw [encode]
  induction s.toList with
  | nil => rw [List.flatMap_nil, units, List.map_nil]
  | cons c cs ih => rw [List.flatMap_cons, units_encode_append, ih, List.map_cons]

theorem decodeLossy_encode (s : String) : decodeLossy (encode s) = s := by
  rw [decodeLossy, units_encode, List.map_map, ← String.toList_inj, String.toList_ofList]
  exact List.map_id _

theorem flatMap_encode_of_units {cs : List Char} (read : units bs = cs.map some) :
    cs.flatMap utf8EncodeChar = bs := by
  induction cs generalizing bs with
  | nil =>
    cases bs with
    | nil => rfl
    | cons b bs =>
      rw [units] at read
      cases read
  | cons c cs ih =>
    cases bs with
    | nil =>
      rw [units] at read
      cases read
    | cons b bs =>
      rw [units, List.map_cons] at read
      obtain ⟨first, later⟩ := List.cons.inj read
      rw [List.flatMap_cons, ih later, firstUnit_eq_some_iff.mp (Prod.ext first rfl)]

theorem mapM_id_eq_some_iff {us : List (Option Char)} {cs : List Char} :
    us.mapM id = some cs ↔ us = cs.map some := by
  induction us generalizing cs with
  | nil => cases cs <;> simp
  | cons u us ih =>
    cases u with
    | none => cases cs <;> simp
    | some c => cases cs <;> simp [Option.bind_eq_some_iff, ih, and_comm]

theorem decode?_eq_some_iff {s : String} : decode? bs = some s ↔ encode s = bs := by
  rw [decode?, Option.map_eq_some_iff]
  constructor
  · rintro ⟨cs, read, rfl⟩
    rw [encode, String.toList_ofList]
    exact flatMap_encode_of_units (mapM_id_eq_some_iff.mp read)
  · rintro rfl
    exact ⟨s.toList, mapM_id_eq_some_iff.mpr (units_encode s), String.ofList_toList⟩

end units

end ScriptLens.Text.Utf8
