/-!
# Text — digits and codes

The values of decimal and hexadecimal digits, for all that reads numbers: data, style sheets,
markup and the failures of a page's scripts. What a run of decimal digits denotes is
`Nat.ofDigitChars 10`; `hexNumber` is the same for hexadecimal ones, which may be small letters or
capitals. Digits as they are printed are read as what they denote (`hexDigit?_digitChar`).

Markup and style sheets also write characters as their codes, and show one in place of those that
there are not (`coded`).
-/

namespace ConsentWalker
namespace Text

/-- The value of a decimal digit. -/
def digit? (c : Char) : Option Nat := if c.isDigit then some (c.toNat - '0'.toNat) else none

/-- The value of a hexadecimal digit. -/
def hexDigit? (c : Char) : Option Nat :=
  match digit? c with
  | some d => some d
  | none =>
    if 'a' ≤ c ∧ c ≤ 'f' then some (c.toNat - 'a'.toNat + 10)
    else if 'A' ≤ c ∧ c ≤ 'F' then some (c.toNat - 'A'.toNat + 10)
    else none

/-- The number a run of hexadecimal digits denotes. -/
def hexNumber (ds : List Char) : Nat := ds.foldl (fun n d => n * 16 + (hexDigit? d).getD 0) 0

/-- The character that stands for one that cannot be shown. -/
def replacement : Char := '\ufffd'

/-- A null as it is shown where it cannot be left out; all other characters stay. -/
def shownNull (c : Char) : Char := if c = '\x00' then replacement else c

/-- The character of a code, or the replacement character when there is none. -/
def coded (n : Nat) : Char := if n = 0 ∨ ¬ n.isValidChar then replacement else Char.ofNat n

theorem digit?_of_isDigit {c : Char} (hc : c.isDigit = true) :
    digit? c = some (c.toNat - '0'.toNat) :=
  if_pos hc

/-- A decimal digit is read as printed. -/
theorem digit?_digitChar {d : Nat} (h : d < 10) : digit? (Nat.digitChar d) = some d := by
  have hall : ∀ d < 10, digit? (Nat.digitChar d) = some d := by decide
  exact hall d h

/-- A hexadecimal digit is read as printed. -/
theorem hexDigit?_digitChar {d : Nat} (h : d < 16) : hexDigit? (Nat.digitChar d) = some d := by
  have hall : ∀ d < 16, hexDigit? (Nat.digitChar d) = some d := by decide
  exact hall d h

end Text
end ConsentWalker
