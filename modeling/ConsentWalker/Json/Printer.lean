import ConsentWalker.Json.Basic
/-!
# JSON — compact text

The text of a value without any space. Strings escape the two marks and the controls below the
space and nothing else; a number that is not finite has no form of its own and is written `null`.
-/

namespace ConsentWalker
namespace Json

/-- The two hexadecimal digits of a control character. -/
def controlDigits (n : Nat) : List Char :=
  [Nat.digitChar (n / 16), Nat.digitChar (n % 16)]

/-- The written form of a character between quotation marks. -/
def escape (c : Char) : List Char :=
  if c = '"' then ['\\', '"']
  else if c = '\\' then ['\\', '\\']
  else if c = '\x08' then ['\\', 'b']
  else if c = '\x0c' then ['\\', 'f']
  else if c = '\n' then ['\\', 'n']
  else if c = '\r' then ['\\', 'r']
  else if c = '\t' then ['\\', 't']
  else if c.toNat < 0x20 then ['\\', 'u', '0', '0'] ++ controlDigits c.toNat
  else [c]

/-- A string between quotation marks. -/
def printString (s : String) : List Char := '"' :: s.toList.flatMap escape ++ ['"']

/-- The digits of an integer with its sign. -/
def printInt (i : Int) : List Char :=
  if i < 0 then '-' :: Decimal.digits i.natAbs else Decimal.digits i.natAbs

/-- The text of a number. -/
def printNumber : Number → List Char
  | .integer i => printInt i
  | .real x => ((Decimal.Layout.data.write? x).getD "null").toList

mutual

/-- The compact text of a value. -/
def print : Json → List Char
  | .null => ['n', 'u', 'l', 'l']
  | .bool true => ['t', 'r', 'u', 'e']
  | .bool false => ['f', 'a', 'l', 's', 'e']
  | .number n => printNumber n
  | .string s => printString s
  | .array items => '[' :: printItems items ++ [']']
  | .object members => '\x7b' :: printMembers members ++ ['\x7d']

/-- The elements of an array, separated by commas. -/
def printItems : List Json → List Char
  | [] => []
  | [v] => print v
  | v :: rest => print v ++ ',' :: printItems rest

/-- The members of an object, separated by commas. -/
def printMembers : List (String × Json) → List Char
  | [] => []
  | [(k, v)] => printString k ++ ':' :: print v
  | (k, v) :: rest => printString k ++ ':' :: print v ++ ',' :: printMembers rest

end

/-- The compact text of a value. -/
def compact (v : Json) : String := String.ofList v.print

end Json
end ConsentWalker
