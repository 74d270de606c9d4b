import Federation.Text.Quoted.Table

/-!
# Federation.Text.Quoted — texts shown in quotes

The form in which a text is shown to a person reading a diagnostic: between double quotes, with a
backslash before a quote or a backslash, short names for the usual control characters, and the
code point for every other character that has no picture of its own.
-/

namespace Federation.Text

/-- A character as it is shown between double quotes. -/
def Quoted.spell (c : Char) : List Char :=
  if c = '"' then ['\\', '"']
  else if c = '\\' then ['\\', '\\']
  else if c = '\t' then ['\\', 't']
  else if c = '\n' then ['\\', 'n']
  else if c = '\r' then ['\\', 'r']
  else if c = '\x00' then ['\\', '0']
  else if inRanges Quoted.hidden c then
    ['\\', 'u', '\x7b'] ++ Nat.toDigits 16 c.toNat ++ ['\x7d']
  else [c]

/-- A text in double quotes. -/
def quoted (s : String) : String :=
  String.ofList ('"' :: s.toList.flatMap Quoted.spell ++ ['"'])

end Federation.Text
