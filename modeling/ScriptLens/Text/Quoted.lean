import ScriptLens.Unicode.Printable

namespace ScriptLens.Text

def escaped (mark c : Char) : List Char :=
  if c = '\x00' then ['\\', '0']
  else if c = '\t' then ['\\', 't']
  else if c = '\n' then ['\\', 'n']
  else if c = '\r' then ['\\', 'r']
  else if c = '\\' then ['\\', '\\']
  else if c = mark then ['\\', mark]
  else if Unicode.isPrintable c && !Unicode.isCombining c then [c]
  else '\\' :: 'u' :: '\x7b' :: Nat.toDigits 16 c.toNat ++ ['\x7d']

def quotedWith (mark : Char) (cs : List Char) : List Char :=
  mark :: cs.flatMap (escaped mark) ++ [mark]

def quoted (s : String) : String := String.ofList (quotedWith '"' s.toList)

def quotedChar (c : Char) : String := String.ofList (quotedWith '\'' [c])

end ScriptLens.Text
