import ScriptLens.Token.Kind

namespace ScriptLens

structure Rgb where
  red : UInt8
  green : UInt8
  blue : UInt8
  deriving DecidableEq

def Rgb.codes (c : Rgb) : List Nat := [c.red.toNat, c.green.toNat, c.blue.toNat]

structure Style where
  foreground : Option Rgb := none
  background : Option Rgb := none
  bold : Bool := false
  italic : Bool := false
  deriving DecidableEq

namespace Style

def plain : Style := {}

def isPlain (s : Style) : Bool := s = plain

def codes (s : Style) : List Nat :=
  (s.foreground.elim [] fun c => 38 :: 2 :: c.codes) ++
    (s.background.elim [] fun c => 48 :: 2 :: c.codes) ++
    (if s.bold then [1] else []) ++ (if s.italic then [3] else [])

def escape : String := "\x1b"

def onSequence (s : Style) : String :=
  escape ++ "[" ++ String.intercalate ";" (s.codes.map fun n => toString n) ++ "m"

def offSequence : String := escape ++ "[0m"

def paint (s : Style) (text : String) : String :=
  if text.isEmpty || s.isPlain then text else s.onSequence ++ text ++ offSequence

end Style

def TokenKind.style : TokenKind → Style
  | keyword => { foreground := some ⟨255, 0, 0⟩, bold := true }
  | identifier => .plain
  | string => { foreground := some ⟨0, 128, 0⟩ }
  | number => { foreground := some ⟨0, 0, 128⟩ }
  | comment => { foreground := some ⟨128, 128, 128⟩, italic := true }
  | operator => { foreground := some ⟨0, 0, 255⟩ }
  | punctuation => { foreground := some ⟨128, 0, 128⟩ }
  | whitespace => .plain
  | error => { foreground := some ⟨255, 0, 0⟩, background := some ⟨255, 255, 0⟩ }

def Style.gutter : Style := { TokenKind.comment.style with italic := false }

end ScriptLens
