import ConsentWalker.Text.CaseTables
/-!
# Text — lower-casing

The full Unicode lower-case form of a text. It is taken letter by letter with two exceptions: the
dotted capital I becomes two characters, and a capital sigma depends on its surroundings. At the
end of a word of more than one letter it becomes `ς`, elsewhere `σ`; `lowerSigma_eq` says which.
-/

namespace ConsentWalker
namespace Text

/-- Whether the next letter of a word, past the characters a word may hold between letters, has a
case. -/
def meetsCased : List Char → Bool
  | [] => false
  | c :: cs => if isCaseIgnorable c then meetsCased cs else isCased c

/-- The capital sigma between what stands before it, nearest first, and what follows. -/
def lowerSigma (before after : List Char) : Char :=
  if meetsCased before && ! meetsCased after then 'ς' else 'σ'

/-- The lower-case form of one letter away from the sigma rule. -/
def lowerChar (c : Char) : List Char :=
  if c.toNat < 0x80 then [c.toLower]
  else if c = 'İ' then ['i', '\u0307']
  else [Char.ofNat (lowerOf c.toNat)]

/-- Lower-cases the rest of a text, given what stands before it, nearest first. -/
def lowerFrom (before : List Char) : List Char → List Char
  | [] => []
  | c :: cs =>
    (if c = 'Σ' then [lowerSigma before cs] else lowerChar c) ++ lowerFrom (c :: before) cs

/-- The full lower-case form of a text. -/
def lower (cs : List Char) : List Char := lowerFrom [] cs

/-- **A sigma is final exactly where a letter precedes it and none follows.** -/
theorem lowerSigma_eq (before after : List Char) :
    lowerSigma before after = 'ς' ↔ meetsCased before = true ∧ meetsCased after = false := by
  unfold lowerSigma
  cases meetsCased before <;> cases meetsCased after <;> simp

end Text
end ConsentWalker
