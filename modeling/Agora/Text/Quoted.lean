import Agora.Text.LowerCase
import Agora.Text.PrintTable

/-!
Quoted text: a string between double quotes, with a backslash before quotes and backslashes, short
forms for the tab, the line ends and the null character, and the number in braces for any other
character that is not visible on its own.
-/

set_option autoImplicit false

namespace Agora.Text

def hexNumeral (n : Nat) : List Char := Nat.toDigits 16 n

def isHidden (c : Char) : Bool :=
  let n := c.toNat
  if 0x20 ≤ n && n < 0x7F then false else inRanges PrintTable.unprintable n

def quotedChar (c : Char) : List Char :=
  if c = '"' then ['\\', '"']
  else if c = '\\' then ['\\', '\\']
  else if c = '\t' then ['\\', 't']
  else if c = '\r' then ['\\', 'r']
  else if c = '\n' then ['\\', 'n']
  else if c.toNat = 0 then ['\\', '0']
  else if isHidden c then ['\\', 'u', '\x7b'] ++ hexNumeral c.toNat ++ ['\x7d']
  else [c]

def quoted (s : String) : String :=
  String.ofList ('"' :: s.toList.flatMap quotedChar ++ ['"'])

end Agora.Text
