import ScriptLens.Text.Slice

/-! # Reading bytes as UTF-8

Bytes are read as a sequence of units: a well formed sequence of one to four bytes, which is a
character, or a longest ill formed prefix.  Lossy reading puts U+FFFD in the place of each ill
formed unit. -/

namespace ScriptLens.Text.Utf8

/-- What a lead byte says of the sequence it begins: its own payload, how many bytes follow, and
the range of the first of them.  The later ones are always in `0x80 … 0xBF`. -/
structure Lead where
  payload : Nat
  following : Nat
  low : UInt8
  high : UInt8

/-- The lead bytes of sequences of two to four bytes.  The ranges leave out overlong forms,
surrogates and code points past U+10FFFF. -/
def lead? (b : UInt8) : Option Lead :=
  if b < 0xC2 then none
  else if b < 0xE0 then some ⟨b.toNat - 0xC0, 1, 0x80, 0xBF⟩
  else if b < 0xF0 then
    some ⟨b.toNat - 0xE0, 2, if b = 0xE0 then 0xA0 else 0x80, if b = 0xED then 0x9F else 0xBF⟩
  else if b < 0xF5 then
    some ⟨b.toNat - 0xF0, 3, if b = 0xF0 then 0x90 else 0x80, if b = 0xF4 then 0x8F else 0xBF⟩
  else none

/-- Reads `n` more bytes of a sequence into its code point, the first of them in `low … high`.
Gives no character where a byte is missing or out of range, and the bytes from there on. -/
def continueUnit (low high : UInt8) : (n : Nat) → (codePoint : Nat) → List UInt8 →
    Option Char × List UInt8
  | 0, codePoint, bs => (some (Char.ofNat codePoint), bs)
  | _ + 1, _, [] => (none, [])
  | n + 1, codePoint, b :: bs =>
    if low ≤ b ∧ b ≤ high then
      continueUnit 0x80 0xBF n (codePoint * 64 + (b.toNat - 0x80)) bs
    else (none, b :: bs)

def firstUnit (b : UInt8) (bs : List UInt8) : Option Char × List UInt8 :=
  if b < 0x80 then (some (Char.ofNat b.toNat), bs)
  else
    match lead? b with
    | none => (none, bs)
    | some lead => continueUnit lead.low lead.high lead.following lead.payload bs

theorem length_continueUnit_le (low high : UInt8) (n codePoint : Nat) (bs : List UInt8) :
    (continueUnit low high n codePoint bs).2.length ≤ bs.length := by
  induction bs generalizing low high n codePoint with
  | nil => cases n <;> simp [continueUnit]
  | cons b bs ih =>
    cases n with
    | zero => simp [continueUnit]
    | succ n =>
      rw [continueUnit]
      split
      · have := ih 0x80 0xBF n (codePoint * 64 + (b.toNat - 0x80))
        simp only [List.length_cons]
        omega
      · simp

theorem length_firstUnit_le (b : UInt8) (bs : List UInt8) :
    (firstUnit b bs).2.length ≤ bs.length := by
  unfold firstUnit
  split
  · simp
  · split
    · simp
    · exact length_continueUnit_le ..

def units : List UInt8 → List (Option Char)
  | [] => []
  | b :: bs => (firstUnit b bs).1 :: units (firstUnit b bs).2
termination_by bs => bs.length
decreasing_by
  have := length_firstUnit_le b bs
  simp only [List.length_cons]
  omega

def replacement : Char := '\uFFFD'

def decodeLossy (bs : List UInt8) : String :=
  String.ofList ((units bs).map (·.getD replacement))

def decode? (bs : List UInt8) : Option String := ((units bs).mapM id).map String.ofList

def firstIllFormed? (bs : List UInt8) : Option Nat :=
  let us := units bs
  if us.all Option.isSome then none
  else some (byteLength ((us.takeWhile Option.isSome).map (·.getD replacement)))

def encode (s : String) : List UInt8 := s.toList.flatMap String.utf8EncodeChar

end ScriptLens.Text.Utf8
