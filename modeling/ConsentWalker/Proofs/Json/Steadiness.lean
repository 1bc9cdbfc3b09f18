import ConsentWalker.Json.Parser
/-!
# JSON — numbers and what follows them

A number has no mark at its end: it goes on as long as a letter does. So what was read off the end
of a text is read again in the middle of another one if what follows there cannot go on with it
(`Ends`), and the reader stops where it stopped before. This is what `Steady` says of a reader;
`steady_number` says it of the readers of numbers, by way of every part that a number can have.
-/

namespace ConsentWalker
namespace Json

/-- **What ends a number**: nothing more, or a letter that no number has after a digit. -/
def Ends (rest : List Char) : Prop :=
  ∀ c ∈ rest.head?, Text.digit? c = none ∧ c ≠ '.' ∧ c ≠ 'e' ∧ c ≠ 'E'

/-- **A reader that what follows does not matter to**, if it ends a number: what is read from a text
is read from it wherever it stands, and what was left of it is left. -/
def Steady {α : Type} (read : List Char → Nat → Read α) : Prop :=
  ∀ cs n a k, read cs n = .ok (a, k) → ∀ rest, Ends rest → ∀ m,
    ∃ m', read (cs ++ rest) m = .ok (a, ⟨k.rest ++ rest, m'⟩)

section Numbers

variable {negative up : Bool} {significand seen dropped x n : Nat} {start exponent : Int}
  {rest : List Char}

/-! ## The end of a number -/

/-- Where a number ends, so do the digits of its exponent. -/
theorem readExponentDigits_ends (hrest : Ends rest) :
    readExponentDigits negative significand start up x rest n =
      finishReal negative significand (if up then start + x else start - x) ⟨rest, n⟩ := by
  cases rest with
  | nil => rfl
  | cons c cs => rw [readExponentDigits, (hrest c rfl).1]

/-- Where a number ends, no exponent follows. -/
theorem readOptionalExponent_ends (hrest : Ends rest) :
    readOptionalExponent negative significand exponent ⟨rest, n⟩ =
      finishReal negative significand exponent ⟨rest, n⟩ := by
  cases rest with
  | nil => rfl
  | cons c cs =>
    obtain ⟨-, -, he, hE⟩ := hrest c rfl
    exact if_neg (not_or.2 ⟨he, hE⟩)

/-- Where a number ends, so does its fraction, if there was a digit. -/
theorem readFraction_ends (hseen : seen ≠ 0) (hrest : Ends rest) :
    readFraction negative start significand seen rest n =
      finishReal negative significand (start - seen) ⟨rest, n⟩ := by
  cases rest with
  | nil => exact if_neg hseen
  | cons c cs =>
    rw [readFraction, (hrest c rfl).1]
    exact (if_neg hseen).trans (readOptionalExponent_ends hrest)

theorem readLongInteger_ends (hrest : Ends rest) :
    readLongInteger negative significand dropped rest n =
      finishReal negative significand dropped ⟨rest, n⟩ := by
  cases rest with
  | nil => rfl
  | cons c cs =>
    obtain ⟨hdigit, hpoint, -⟩ := hrest c rfl
    rw [readLongInteger, hdigit, if_neg (by simp), if_neg hpoint, readOptionalExponent_ends hrest]

/-- After an integer part that no point follows, an exponent follows or the number is whole. -/
theorem finishInteger_of_ne {c : Char} (hpoint : c ≠ '.') (cs : List Char) :
    finishInteger negative significand ⟨c :: cs, n⟩ =
      if c = 'e' ∨ c = 'E' then readExponent negative significand 0 (Cursor.past ⟨c :: cs, n⟩ c cs)
      else finishInteger.whole negative significand ⟨c :: cs, n⟩ := by
  rw [finishInteger]
  split
  · next h => exact absurd (List.head_eq_of_cons_eq h) hpoint
  · next h =>
    obtain ⟨rfl, rfl⟩ := List.cons.inj h
    rfl
  · next h => cases h

theorem finishInteger_ends (hrest : Ends rest) :
    finishInteger negative significand ⟨rest, n⟩ =
      finishInteger.whole negative significand ⟨rest, n⟩ := by
  cases rest with
  | nil => rfl
  | cons c cs =>
    obtain ⟨-, hpoint, he, hE⟩ := hrest c rfl
    rw [finishInteger_of_ne hpoint, if_neg (not_or.2 ⟨he, hE⟩)]

/-- Where a number ends, so do the digits of its integer part. -/
theorem readInteger_ends (hrest : Ends rest) :
    readInteger negative significand rest n = finishInteger negative significand ⟨rest, n⟩ := by
  cases rest with
  | nil => rfl
  | cons c cs => rw [readInteger, (hrest c rfl).1]

/-- Digits that are passed over end where a number ends, if not before. -/
theorem skipDigits_append (hrest : Ends rest) (cs : List Char) (n m : Nat) :
    ∃ m', skipDigits (cs ++ rest) m = ⟨(skipDigits cs n).rest ++ rest, m'⟩ := by
  induction cs generalizing n m with
  | nil =>
    cases rest with
    | nil => exact ⟨m, rfl⟩
    | cons c cs => exact ⟨m, if_neg (by simp [(hrest c rfl).1])⟩
  | cons c cs ih =>
    rw [List.cons_append, skipDigits, skipDigits]
    split
    · exact ih (n + 1) (m + 1)
    · exact ⟨m, rfl⟩

/-! ## The parts of a number -/

/-- A number whose parts were all read looks no further. -/
theorem steady_finishReal (negative : Bool) (significand : Nat) (exponent : Int) :
    Steady fun cs n => finishReal negative significand exponent ⟨cs, n⟩ := by
  intro cs n a k h rest _ m
  unfold finishReal at h ⊢
  cases hscaled : scaleByTen negative significand exponent with
  | none =>
    rw [hscaled] at h
    cases h
  | some y =>
    rw [hscaled] at h
    cases h
    exact ⟨m, rfl⟩

/-- The digits of an exponent are steady, also those that are passed over because the exponent is
too large already. -/
theorem steady_exponentDigits (negative : Bool) (significand : Nat) (start : Int) (up : Bool)
    (x : Nat) :
    Steady (readExponentDigits negative significand start up x) := by
  intro cs
  induction cs generalizing x with
  | nil =>
    intro n a k h rest hrest m
    rw [List.nil_append, readExponentDigits_ends hrest]
    exact steady_finishReal _ _ _ [] n a k h rest hrest m
  | cons c cs ih =>
    intro n a k h rest hrest m
    rw [readExponentDigits] at h
    rw [List.cons_append, readExponentDigits]
    cases hdigit : Text.digit? c with
    | none =>
      rw [hdigit] at h
      exact steady_finishReal _ _ _ (c :: cs) n a k h rest hrest m
    | some d =>
      rw [hdigit] at h
      dsimp only at h ⊢
      split at h
      · next hlarge =>
        rw [if_pos hlarge]
        split at h
        · cases h
        · next hzero =>
          cases h
          obtain ⟨m', hm'⟩ := skipDigits_append hrest cs (n + 1) (m + 1)
          exact ⟨m', by rw [if_neg hzero, hm']⟩
      · next hsmall =>
        rw [if_neg hsmall]
        exact ih _ _ a k h rest hrest _

/-- The digits of an exponent, at least one. -/
def readUnsignedExponent (negative : Bool) (significand : Nat) (start : Int) (up : Bool) :
    List Char → Nat → Read Number
  | [], n => Cursor.fault ⟨[], n⟩ .endInValue
  | c :: cs, n =>
    match Text.digit? c with
    | none => Cursor.faultAhead ⟨c :: cs, n⟩ .badNumber
    | some d => readExponentDigits negative significand start up d cs (n + 1)

theorem readExponent_plus (cs : List Char) :
    readExponent negative significand start ⟨'+' :: cs, n⟩ =
      readUnsignedExponent negative significand start true cs (n + 1) := by
  cases cs <;> rfl

theorem readExponent_minus (cs : List Char) :
    readExponent negative significand start ⟨'-' :: cs, n⟩ =
      readUnsignedExponent negative significand start false cs (n + 1) := by
  cases cs <;> rfl

/-- An exponent without a sign is one with a plus. -/
theorem readExponent_unsigned {c : Char} (hplus : c ≠ '+') (hminus : c ≠ '-') (cs : List Char) :
    readExponent negative significand start ⟨c :: cs, n⟩ =
      readUnsignedExponent negative significand start true (c :: cs) n := by
  rw [readExponent]
  split
  next hsign =>
    split at hsign
    · next h => exact absurd (List.head_eq_of_cons_eq h) hplus
    · next h => exact absurd (List.head_eq_of_cons_eq h) hminus
    · cases hsign
      rfl

theorem steady_unsignedExponent (negative : Bool) (significand : Nat) (start : Int) (up : Bool) :
    Steady (readUnsignedExponent negative significand start up) := by
  intro cs n a k h rest hrest m
  cases cs with
  | nil => cases h
  | cons c cs =>
    rw [readUnsignedExponent] at h
    rw [List.cons_append, readUnsignedExponent]
    cases hdigit : Text.digit? c with
    | none =>
      rw [hdigit] at h
      cases h
    | some d =>
      rw [hdigit] at h
      exact steady_exponentDigits _ _ _ _ _ cs _ a k h rest hrest _

/-- An exponent is steady, with a sign or without. -/
theorem steady_exponent (negative : Bool) (significand : Nat) (start : Int) :
    Steady fun cs n => readExponent negative significand start ⟨cs, n⟩ := by
  intro cs n a k h rest hrest m
  dsimp only at h ⊢
  cases cs with
  | nil => cases h
  | cons c cs =>
    rw [List.cons_append]
    by_cases hplus : c = '+'
    · subst hplus
      rw [readExponent_plus] at h ⊢
      exact steady_unsignedExponent _ _ _ _ cs _ a k h rest hrest _
    by_cases hminus : c = '-'
    · subst hminus
      rw [readExponent_minus] at h ⊢
      exact steady_unsignedExponent _ _ _ _ cs _ a k h rest hrest _
    · rw [readExponent_unsigned hplus hminus] at h ⊢
      exact steady_unsignedExponent _ _ _ _ (c :: cs) _ a k h rest hrest _

/-- So is one that may be left out: what ends a number begins no exponent. -/
theorem steady_optionalExponent (negative : Bool) (significand : Nat) (exponent : Int) :
    Steady fun cs n => readOptionalExponent negative significand exponent ⟨cs, n⟩ := by
  intro cs n a k h rest hrest m
  dsimp only at h ⊢
  cases cs with
  | nil =>
    rw [List.nil_append, readOptionalExponent_ends hrest]
    exact steady_finishReal _ _ _ [] n a k h rest hrest m
  | cons c cs =>
    rw [readOptionalExponent] at h
    rw [List.cons_append, readOptionalExponent]
    dsimp only at h ⊢
    split at h
    · next hletter =>
      rw [if_pos hletter]
      exact steady_exponent _ _ _ cs _ a k h rest hrest _
    · next hletter =>
      rw [if_neg hletter]
      exact steady_finishReal _ _ _ (c :: cs) n a k h rest hrest m

/-- A fraction is steady, with an exponent after it or without. -/
theorem steady_fraction (negative : Bool) (start : Int) (significand seen : Nat) :
    Steady (readFraction negative start significand seen) := by
  intro cs
  induction cs generalizing significand seen with
  | nil =>
    intro n a k h rest hrest m
    rw [readFraction] at h
    split at h
    · cases h
    · next hseen =>
      rw [List.nil_append, readFraction_ends hseen hrest]
      exact steady_finishReal _ _ _ [] n a k h rest hrest m
  | cons c cs ih =>
    intro n a k h rest hrest m
    rw [readFraction] at h
    rw [List.cons_append, readFraction]
    cases hdigit : Text.digit? c with
    | none =>
      rw [hdigit] at h
      dsimp only at h ⊢
      split at h
      · cases h
      · next hseen =>
        rw [if_neg hseen]
        exact steady_optionalExponent _ _ _ (c :: cs) n a k h rest hrest m
    | some d =>
      rw [hdigit] at h
      dsimp only at h ⊢
      split at h
      · next hlarge =>
        rw [if_pos hlarge]
        obtain ⟨m', hm'⟩ := skipDigits_append hrest (c :: cs) n m
        rw [← List.cons_append, hm']
        exact steady_optionalExponent _ _ _ (skipDigits (c :: cs) n).rest _ a k h rest hrest m'
      · next hsmall =>
        rw [if_neg hsmall]
        exact ih _ _ _ a k h rest hrest _

/-- The digits that a significand has no room for are steady, with what comes after them. -/
theorem steady_longInteger (negative : Bool) (significand dropped : Nat) :
    Steady (readLongInteger negative significand dropped) := by
  intro cs
  induction cs generalizing dropped with
  | nil =>
    intro n a k h rest hrest m
    rw [List.nil_append, readLongInteger_ends hrest]
    exact steady_finishReal _ _ _ [] n a k h rest hrest m
  | cons c cs ih =>
    intro n a k h rest hrest m
    rw [readLongInteger] at h
    rw [List.cons_append, readLongInteger]
    split at h
    · next hdigit =>
      rw [if_pos hdigit]
      exact ih _ _ a k h rest hrest _
    · next hdigit =>
      rw [if_neg hdigit]
      split at h
      · next hpoint =>
        rw [if_pos hpoint]
        exact steady_fraction _ _ _ _ cs _ a k h rest hrest _
      · next hpoint =>
        rw [if_neg hpoint]
        exact steady_optionalExponent _ _ _ (c :: cs) n a k h rest hrest m

/-! ## Numbers -/

theorem steady_whole (negative : Bool) (significand : Nat) :
    Steady fun cs n => finishInteger.whole negative significand ⟨cs, n⟩ := by
  intro cs n a k h rest _ m
  dsimp only at h ⊢
  unfold finishInteger.whole at h ⊢
  split at h
  · next hplain =>
    cases h
    exact ⟨m, if_pos hplain⟩
  · next hsigned =>
    rw [if_neg hsigned]
    split at h
    · next hreal =>
      cases h
      exact ⟨m, if_pos hreal⟩
    · next hwhole =>
      cases h
      exact ⟨m, if_neg hwhole⟩

/-- What comes after the digits of an integer is steady. -/
theorem steady_finishInteger (negative : Bool) (significand : Nat) :
    Steady fun cs n => finishInteger negative significand ⟨cs, n⟩ := by
  intro cs n a k h rest hrest m
  dsimp only at h ⊢
  cases cs with
  | nil =>
    rw [List.nil_append, finishInteger_ends hrest]
    exact steady_whole _ _ [] n a k h rest hrest m
  | cons c cs =>
    by_cases hpoint : c = '.'
    · subst hpoint
      exact steady_fraction _ _ _ _ cs _ a k h rest hrest _
    · rw [finishInteger_of_ne hpoint] at h
      rw [List.cons_append, finishInteger_of_ne hpoint]
      split at h
      · next hletter =>
        rw [if_pos hletter]
        exact steady_exponent _ _ _ cs _ a k h rest hrest _
      · next hletter =>
        rw [if_neg hletter]
        exact steady_whole _ _ (c :: cs) n a k h rest hrest m

/-- The digits of an integer are steady, as many as there are. -/
theorem steady_integer (negative : Bool) (significand : Nat) :
    Steady (readInteger negative significand) := by
  intro cs
  induction cs generalizing significand with
  | nil =>
    intro n a k h rest hrest m
    rw [List.nil_append, readInteger_ends hrest]
    exact steady_finishInteger _ _ [] n a k h rest hrest m
  | cons c cs ih =>
    intro n a k h rest hrest m
    rw [readInteger] at h
    rw [List.cons_append, readInteger]
    cases hdigit : Text.digit? c with
    | none =>
      rw [hdigit] at h
      exact steady_finishInteger _ _ (c :: cs) n a k h rest hrest m
    | some d =>
      rw [hdigit] at h
      dsimp only at h ⊢
      split at h
      · next hlarge =>
        rw [if_pos hlarge]
        exact steady_longInteger _ _ _ (c :: cs) n a k h rest hrest m
      · next hsmall =>
        rw [if_neg hsmall]
        exact ih _ _ a k h rest hrest _

/-- A number that starts with another digit than zero goes on with more digits. -/
theorem readNumber_positive {c : Char} {d : Nat} (hc : Text.digit? c = some d) (hd : d ≠ 0)
    (cs : List Char) :
    readNumber negative ⟨c :: cs, n⟩ = readInteger negative d cs (n + 1) := by
  rw [readNumber]
  dsimp only
  rw [hc]
  split
  · next h => cases h
  · next h => exact absurd (Option.some.inj h) hd
  · next h =>
    cases h
    rfl

/-- A leading zero stands alone. -/
theorem readNumber_zero {c : Char} (hc : Text.digit? c = some 0) (cs : List Char) :
    readNumber negative ⟨c :: cs, n⟩ =
      if (cs.head?.bind Text.digit?).isSome then Cursor.faultAhead ⟨cs, n + 1⟩ .badNumber
      else finishInteger negative 0 ⟨cs, n + 1⟩ := by
  rw [readNumber]
  dsimp only
  rw [hc]
  cases cs <;> rfl

/-- What ends a number adds no digit in front. -/
theorem head?_bind_digit? (hrest : Ends rest) (cs : List Char) :
    (cs ++ rest).head?.bind Text.digit? = cs.head?.bind Text.digit? := by
  cases cs with
  | nil =>
    cases rest with
    | nil => rfl
    | cons c rest => exact (hrest c rfl).1
  | cons c cs => rfl

/-- **What follows a number does not change it**, unless it could go on with it. -/
theorem steady_number (negative : Bool) : Steady fun cs n => readNumber negative ⟨cs, n⟩ := by
  intro cs n a k h rest hrest m
  dsimp only at h ⊢
  cases cs with
  | nil => cases h
  | cons c cs =>
    rw [List.cons_append]
    cases hdigit : Text.digit? c with
    | none =>
      rw [readNumber] at h
      dsimp only at h
      rw [hdigit] at h
      cases h
    | some d =>
      by_cases hd : d = 0
      · subst hd
        rw [readNumber_zero hdigit] at h
        rw [readNumber_zero hdigit, head?_bind_digit? hrest]
        split at h
        · cases h
        · next halone =>
          rw [if_neg halone]
          exact steady_finishInteger _ _ cs _ a k h rest hrest _
      · rw [readNumber_positive hdigit hd] at h ⊢
        exact steady_integer _ _ cs _ a k h rest hrest _

end Numbers
end Json
end ConsentWalker
