import TagAtlas.Text.HiddenTable

/-!
# Texts as reports show them

A text between quotes, in which quotes, backslashes and what does not show by itself are escaped.
-/

namespace TagAtlas.Text

/-- Whether a character does not show by itself. -/
def isHidden (c : Char) : Bool := c.toNat < 32 || c.toNat = 127 || inSpans HiddenTable.spans c.toNat

def shownChar (c : Char) : List Char :=
  if c = '\x22' then ['\\', '\x22']
  else if c = '\\' then ['\\', '\\']
  else if c = '\t' then ['\\', 't']
  else if c = '\n' then ['\\', 'n']
  else if c = '\r' then ['\\', 'r']
  else if c.toNat = 0 then ['\\', '0']
  else if isHidden c then '\\' :: 'u' :: '\x7b' :: Nat.toDigits 16 c.toNat ++ ['\x7d']
  else [c]

def shown (s : String) : String := String.ofList ('\x22' :: s.toList.flatMap shownChar ++ ['\x22'])

end TagAtlas.Text
