import Gatehouse.Text.Unprintable
import Gatehouse.Text.Ascii

/-!
# Quoted text in messages

Messages show a text from outside in double quotes, with everything that
could break the line or hide spelled out: the quote and the backslash are
escaped, five controls have short names, and any other unprintable
character stands as its number in hexadecimal. Lists and sets of texts are
written around their quoted members.
-/

namespace Gatehouse.Text

/-- The spelling of one character inside quotes. -/
def quoteChar (c : Char) : List Char :=
  if c = '"' then ['\\', '"']
  else if c = '\\' then ['\\', '\\']
  else if c = '\n' then ['\\', 'n']
  else if c = '\r' then ['\\', 'r']
  else if c = '\t' then ['\\', 't']
  else if c.toNat = 0 then ['\\', '0']
  else if isUnprintable c then
    ['\\', 'u', '\x7b'] ++ Nat.toDigits 16 c.toNat ++ ['\x7d']
  else [c]

/-- A text in double quotes. -/
def quote (s : String) : String :=
  String.ofList ('"' :: (s.toList.flatMap quoteChar ++ ['"']))

/-- A list of texts: brackets around the quoted members. -/
def quoteList (texts : List String) : String :=
  "[" ++ join ", " (texts.map quote) ++ "]"

/-- A set of texts: braces around the quoted members. -/
def quoteSet (texts : List String) : String :=
  "\x7b" ++ join ", " (texts.map quote) ++ "\x7d"

end Gatehouse.Text
