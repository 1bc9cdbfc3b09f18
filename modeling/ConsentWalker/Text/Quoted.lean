import ConsentWalker.Text.DisplayTables
/-!
# Text — quoted strings

How a string is shown in a message between quotation marks: marks and backslashes are escaped, as
are the usual controls, and a character that has no visible form or would combine with its
neighbour is written as its code point. `quoted` adds the marks, and `quotedList` shows a list of
strings between brackets.
-/

namespace ConsentWalker
namespace Text

/-- A number in lower-case hexadecimal. -/
def hexadecimal (n : Nat) : List Char := Nat.toDigits 16 n

/-- The written form of one character between quotation marks. -/
def escaped (c : Char) : List Char :=
  if c = '\x00' then ['\\', '0']
  else if c = '\t' then ['\\', 't']
  else if c = '\r' then ['\\', 'r']
  else if c = '\n' then ['\\', 'n']
  else if c = '\\' then ['\\', '\\']
  else if c = '"' then ['\\', '"']
  else if isCombining c || isUnprintable c then
    ['\\', 'u', '\x7b'] ++ hexadecimal c.toNat ++ ['\x7d']
  else [c]

/-- A character list between quotation marks. -/
def quotedChars (cs : List Char) : List Char := '"' :: cs.flatMap escaped ++ ['"']

/-- A string between quotation marks. -/
def quoted (s : String) : String := String.ofList (quotedChars s.toList)

/-- A list of strings, each between quotation marks. -/
def quotedList (ss : List String) : String :=
  "[" ++ ", ".intercalate (ss.map quoted) ++ "]"

/-- A character shown on its own, between single marks. -/
def quotedChar (c : Char) : String :=
  if c = '\'' then "'\\''"
  else if c = '"' then "'\"'"
  else "'" ++ String.ofList (escaped c) ++ "'"

end Text
end ConsentWalker
