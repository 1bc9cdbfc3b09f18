/-!
# Text — blank characters and trimming

A character is blank when it has the White_Space property; trimming drops the blank characters at
both ends. Markup and style sheets have a smaller set of their own, `isMarkupSpace`, at which
`words` splits.
-/

namespace ConsentWalker
namespace Text

/-- Characters with the White_Space property. -/
def isBlank (c : Char) : Bool :=
  let n := c.toNat
  (9 ≤ n && n ≤ 13) || n == 0x20 || n == 0x85 || n == 0xA0 || n == 0x1680 ||
    (0x2000 ≤ n && n ≤ 0x200A) || n == 0x2028 || n == 0x2029 || n == 0x202F || n == 0x205F ||
    n == 0x3000

/-- The space characters of markup and style sheets: tab, line feed, form feed, carriage return
and space. -/
def isMarkupSpace (c : Char) : Bool :=
  c == ' ' || c == '\t' || c == '\n' || c == '\x0c' || c == '\r'

/-- Drops the characters of a class at both ends. -/
def dropEnds (p : Char → Bool) (cs : List Char) : List Char :=
  ((cs.dropWhile p).reverse.dropWhile p).reverse

/-- Drops the blank characters at both ends. -/
def trimList (cs : List Char) : List Char := dropEnds isBlank cs

/-- Drops the blank characters at both ends of a string. -/
def trim (s : String) : String := String.ofList (trimList s.toList)

/-- Splits at every character of a class; neighbouring separators leave an empty piece between
them. -/
def splitAtAll (p : Char → Bool) : List Char → List (List Char)
  | [] => [[]]
  | c :: cs =>
    if p c then [] :: splitAtAll p cs
    else match splitAtAll p cs with
      | [] => [[c]]
      | piece :: pieces => (c :: piece) :: pieces

/-- The words of a text: what stands between space characters, empty pieces left out. -/
def words (s : String) : List String :=
  ((splitAtAll isMarkupSpace s.toList).filter (! ·.isEmpty)).map String.ofList

/-- The lower-case form by the Latin alphabet alone; all other characters stay. -/
def asciiLower (s : String) : String := String.ofList (s.toList.map Char.toLower)

/-- Equality up to the case of Latin letters. -/
def sameUpToCase (s t : String) : Bool :=
  s.toList.map Char.toLower == t.toList.map Char.toLower

/-- Whether `needle` stands somewhere in `text`. -/
def occursIn (needle : List Char) : List Char → Bool
  | [] => needle.isEmpty
  | c :: cs => needle.isPrefixOf (c :: cs) || occursIn needle cs

end Text
end ConsentWalker
