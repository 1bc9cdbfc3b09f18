import Mathlib.Algebra.Group.Int.Defs
import Mathlib.Data.List.Basic
import ConsentWalker.Proofs.Json.Steadiness
/-!
# JSON — strings and numbers are read as printed

`Reads` says that a reader reads a text as a value wherever the text stands, and stops behind it. A
string is read up to its closing mark: of the letters between the marks each stands for itself or is
an escape (`escape_cases`), so none of them is that mark. An integer of 64 bits is read from its
digits. Of a double that is asked and not shown, because readers round by each factor and may miss
by a place; but one that is read from its own text is read from it everywhere (`reads_real`).
-/

namespace ConsentWalker
namespace Json

/-! ## Blanks -/

section Blanks

variable {gap cs : List Char} {n : Nat}

/-- What may stand between the parts of a text. -/
def isGap (c : Char) : Bool := c = ' ' || c = '\n' || c = '\t' || c = '\r'

/-- Nothing but blanks. -/
def IsGap (gap : List Char) : Prop := ∀ c ∈ gap, isGap c = true

theorem isGap_nil : IsGap [] := fun _ h => absurd h List.not_mem_nil

namespace Cursor

theorem skipBlanks_cons (c : Char) (cs : List Char) (n : Nat) :
    skipBlanks (c :: cs) n = if isGap c then skipBlanks cs (n + 1) else ⟨c :: cs, n⟩ := rfl

/-- Blanks are passed over, however many. -/
theorem skipBlanks_gap (hgap : IsGap gap) (cs : List Char) (n : Nat) :
    skipBlanks (gap ++ cs) n = skipBlanks cs (n + gap.length) := by
  induction gap generalizing n with
  | nil => rfl
  | cons c gap ih =>
    obtain ⟨hc, hgap⟩ := List.forall_mem_cons.1 hgap
    rw [List.cons_append, skipBlanks_cons, if_pos hc, ih hgap, List.length_cons]
    congr 1
    omega

theorem skipBlanks_of_not {c : Char} (hc : isGap c = false) (cs : List Char) (n : Nat) :
    skipBlanks (c :: cs) n = ⟨c :: cs, n⟩ := by
  rw [skipBlanks_cons, hc, if_neg (by simp)]

/-- After blanks the reader stands at the first letter that is none. -/
theorem blanks_gap (hgap : IsGap gap) {c : Char} (hc : isGap c = false) (cs : List Char) (n : Nat) :
    blanks ⟨gap ++ c :: cs, n⟩ = ⟨c :: cs, n + gap.length⟩ :=
  (skipBlanks_gap hgap _ n).trans (skipBlanks_of_not hc cs _)

theorem blanks_blanks (k : Cursor) : k.blanks.blanks = k.blanks := by
  obtain ⟨cs, n⟩ := k
  induction cs generalizing n with
  | nil => rfl
  | cons c cs ih =>
    cases hc : isGap c with
    | true =>
      have hskip : blanks ⟨c :: cs, n⟩ = blanks ⟨cs, n + 1⟩ := if_pos hc
      rw [hskip]
      exact ih (n + 1)
    | false =>
      have hstay : blanks ⟨c :: cs, n⟩ = ⟨c :: cs, n⟩ := skipBlanks_of_not hc cs n
      rw [hstay, hstay]

end Cursor

/-- What is left when a text has ended is blank. -/
theorem isGap_of_readEnd {k : Cursor} {r : Unit × Cursor} (h : readEnd k = .ok r) :
    IsGap k.rest := by
  obtain ⟨cs, n⟩ := k
  induction cs generalizing n with
  | nil => exact isGap_nil
  | cons c cs ih =>
    cases hc : isGap c with
    | true =>
      have hskip : Cursor.blanks ⟨c :: cs, n⟩ = Cursor.blanks ⟨cs, n + 1⟩ := if_pos hc
      refine List.forall_mem_cons.2 ⟨hc, ih (n + 1) ?_⟩
      rw [readEnd, ← hskip]
      exact h
    | false =>
      rw [readEnd, Cursor.blanks, Cursor.skipBlanks_of_not hc] at h
      cases h

end Blanks

/-- **A reader reads a text as a value** wherever the text stands, and stops behind it, but for
blanks. -/
def Reads {α : Type} (read : Cursor → Read α) (text : List Char) (a : α) : Prop :=
  ∀ rest, Ends rest → ∀ n, ∃ gap n', IsGap gap ∧ read ⟨text ++ rest, n⟩ = .ok (a, ⟨gap ++ rest, n'⟩)

/-! ## Strings -/

section Strings

variable {rest : List Char} {n : Nat}

/-- Four digits are read as the number they denote. -/
theorem readUnit_digits {a b c d : Char} {i j k l : Nat} (ha : Text.hexDigit? a = some i)
    (hb : Text.hexDigit? b = some j) (hc : Text.hexDigit? c = some k)
    (hd : Text.hexDigit? d = some l) (rest : List Char) (n : Nat) :
    readUnit ⟨a :: b :: c :: d :: rest, n⟩ =
      .ok (((i * 16 + j) * 16 + k) * 16 + l, ⟨rest, n + 4⟩) := by
  have hsize : ¬ ((a :: b :: c :: d :: rest).map Char.utf8Size).foldr (· + ·) 0 < 4 := by
    have ha := a.utf8Size_pos
    have hb := b.utf8Size_pos
    have hc := c.utf8Size_pos
    have hd := d.utf8Size_pos
    simp only [List.map_cons, List.foldr_cons]
    omega
  rw [readUnit]
  dsimp only
  rw [if_neg hsize, ha, hb, hc, hd]

/-- An escaped unit that is no half of a pair is the letter of that number. -/
theorem readEscape_unit {cs : List Char} {u : Nat} {k : Cursor}
    (h : readUnit ⟨cs, n + 'u'.utf8Size⟩ = .ok (u, k)) (hu : u < 0xD800) :
    readEscape ⟨'u' :: cs, n⟩ = .ok (Char.ofNat u, k) := by
  rw [readEscape]
  dsimp only [Cursor.past]
  rw [h]
  dsimp only
  rw [if_neg (by omega), if_neg (by omega)]
  rfl

/-- A control is read from its code point. -/
theorem readEscape_control {c : Char} (hc : c.toNat < 0x20) (rest : List Char) (n : Nat) :
    ∃ n', readEscape ⟨'u' :: '0' :: '0' :: controlDigits c.toNat ++ rest, n⟩ =
      .ok (c, ⟨rest, n'⟩) := by
  have hunit := readUnit_digits (Text.hexDigit?_digitChar (d := 0) (by decide))
    (Text.hexDigit?_digitChar (d := 0) (by decide))
    (Text.hexDigit?_digitChar (d := c.toNat / 16) (by omega))
    (Text.hexDigit?_digitChar (d := c.toNat % 16) (by omega)) rest (n + 'u'.utf8Size)
  have hcode : ((0 * 16 + 0) * 16 + c.toNat / 16) * 16 + c.toNat % 16 = c.toNat := by omega
  rw [hcode] at hunit
  exact ⟨_, (readEscape_unit hunit (by omega)).trans (by rw [Char.ofNat_toNat])⟩

/-- **A letter between quotation marks** stands for itself, or is an escape that is read as the
letter. -/
theorem escape_cases (c : Char) :
    (escape c = [c] ∧ c ≠ '"' ∧ c ≠ '\\' ∧ ¬ c.toNat < 0x20) ∨
      ∃ e, escape c = '\\' :: e ∧
        ∀ rest n, ∃ n', readEscape ⟨e ++ rest, n⟩ = .ok (c, ⟨rest, n'⟩) := by
  unfold escape
  -- seven letters have escapes of their own
  iterate 7
    split
    · next h => exact .inr ⟨_, rfl, fun rest n => ⟨_, by rw [h]; rfl⟩⟩
  split
  · next hcontrol => exact .inr ⟨_, rfl, readEscape_control hcontrol⟩
  · next hquote hback _ _ _ _ _ hcontrol => exact .inl ⟨rfl, hquote, hback, hcontrol⟩

/-- Every letter costs the reader one step, however it is written. -/
theorem readStringFrom_escaped (rest s : List Char) {acc : List Char} {fuel : Nat}
    (hfuel : (s.flatMap escape).length < fuel) (n : Nat) :
    ∃ n', readStringFrom fuel acc ⟨s.flatMap escape ++ '"' :: rest, n⟩ =
      .ok (String.ofList (acc.reverse ++ s), ⟨rest, n'⟩) := by
  induction s generalizing acc fuel n with
  | nil =>
    obtain ⟨fuel, rfl⟩ := Nat.exists_eq_add_one_of_ne_zero (Nat.ne_zero_of_lt hfuel)
    exact ⟨_, by rw [List.append_nil]; rfl⟩
  | cons c s ih =>
    obtain ⟨fuel, rfl⟩ := Nat.exists_eq_add_one_of_ne_zero (Nat.ne_zero_of_lt hfuel)
    rw [List.flatMap_cons, List.length_append] at hfuel
    rw [List.flatMap_cons, List.append_assoc]
    have hacc : acc.reverse ++ c :: s = (c :: acc).reverse ++ s := by simp
    rw [hacc]
    obtain ⟨hplain, hquote, hback, hcontrol⟩ | ⟨e, he, hread⟩ := escape_cases c
    · rw [hplain] at hfuel ⊢
      rw [List.length_singleton, Nat.add_comm] at hfuel
      obtain ⟨n', hrest⟩ := ih (Nat.lt_of_succ_lt_succ hfuel) (n + c.utf8Size)
      refine ⟨n', ?_⟩
      rw [List.singleton_append, readStringFrom]
      dsimp only [Cursor.past]
      rw [if_neg hquote, if_neg hback, if_neg hcontrol, hrest]
    · rw [he] at hfuel ⊢
      rw [List.length_cons] at hfuel
      have hless : (s.flatMap escape).length < fuel := by omega
      obtain ⟨m, hletter⟩ := hread (s.flatMap escape ++ '"' :: rest) (n + '\\'.utf8Size)
      obtain ⟨n', hrest⟩ := ih hless m
      refine ⟨n', ?_⟩
      rw [List.cons_append, readStringFrom]
      dsimp only [Cursor.past]
      rw [if_neg (by decide), if_pos rfl, hletter]
      exact hrest

/-- **A string is read up to its mark**, whatever letters it has. -/
theorem readString_escaped (s : String) (rest : List Char) (n : Nat) :
    ∃ n', readString ⟨s.toList.flatMap escape ++ '"' :: rest, n⟩ = .ok (s, ⟨rest, n'⟩) := by
  have hfuel : (s.toList.flatMap escape).length <
      (s.toList.flatMap escape ++ '"' :: rest).length + 1 := by
    rw [List.length_append]
    exact Nat.lt_succ_of_le (Nat.le_add_right _ _)
  obtain ⟨n', h⟩ := readStringFrom_escaped rest s.toList hfuel n
  refine ⟨n', ?_⟩
  rw [readString, h, List.reverse_nil, List.nil_append, String.ofList_toList]

theorem value_string {cs : List Char} {s : String} {k : Cursor} {depth : Nat}
    (h : readString ⟨cs, n + 1⟩ = .ok (s, k)) :
    value (depth + 1) ⟨'"' :: cs, n⟩ = .ok (.string s, k) := by
  rw [value]
  change Except.bind (readString ⟨cs, n + 1⟩) _ = _
  rw [h]
  rfl

/-- A printed string is read as the string, whatever stands in it. -/
theorem reads_string {depth : Nat} (s : String) :
    Reads (value (depth + 1)) (printString s) (.string s) := by
  intro rest _ n
  obtain ⟨n', h⟩ := readString_escaped s rest (n + 1)
  rw [printString, List.append_assoc, List.cons_append]
  exact ⟨[], n', isGap_nil, value_string h⟩

end Strings

/-! ## Numbers -/

section Numbers

variable {negative : Bool} {text rest : List Char} {n m depth : Nat}

/-- Digits read after a number make no smaller one. -/
theorem le_ofDigitChars (ds : List Char) (n : Nat) : n ≤ Nat.ofDigitChars 10 ds n := by
  induction ds generalizing n with
  | nil => exact Nat.le_of_eq Nat.ofDigitChars_nil.symm
  | cons c ds ih =>
    rw [Nat.ofDigitChars_cons]
    refine Nat.le_trans ?_ (ih _)
    omega

/-- Digits are added to a number as long as it is one of 64 bits. -/
theorem readInteger_digits {ds : List Char} (hds : ∀ c ∈ ds, c.isDigit = true)
    (hle : Nat.ofDigitChars 10 ds n ≤ significandLimit) (rest : List Char) (m : Nat) :
    readInteger negative n (ds ++ rest) m =
      readInteger negative (Nat.ofDigitChars 10 ds n) rest (m + ds.length) := by
  induction ds generalizing n m with
  | nil => rw [Nat.ofDigitChars_nil]; rfl
  | cons c ds ih =>
    obtain ⟨hc, hds⟩ := List.forall_mem_cons.1 hds
    rw [Nat.ofDigitChars_cons, Nat.mul_comm] at hle ⊢
    have hfits : ¬ significandLimit < n * 10 + (c.toNat - '0'.toNat) :=
      Nat.not_lt.2 (Nat.le_trans (le_ofDigitChars ds _) hle)
    rw [List.cons_append, readInteger, Text.digit?_of_isDigit hc]
    dsimp only
    rw [if_neg hfits, ih hds hle, List.length_cons]
    congr 1
    omega

/-- The first digit of a number is not a zero. -/
theorem toDigits_of_pos (hn : 0 < n) :
    ∃ d cs, 0 < d ∧ d < 10 ∧ Nat.toDigits 10 n = Nat.digitChar d :: cs := by
  induction n using Nat.strongRecOn with
  | _ n ih =>
    rcases Nat.lt_or_ge n 10 with hlt | hge
    · exact ⟨n, [], hn, hlt, Nat.toDigits_of_lt_base hlt⟩
    · obtain ⟨d, cs, hd, hlt, hdigits⟩ := ih (n / 10) (by omega) (by omega)
      refine ⟨d, cs ++ [Nat.digitChar (n % 10)], hd, hlt, ?_⟩
      rw [Nat.toDigits_of_base_le (by decide) hge, hdigits, List.cons_append]

/-- **The digits of a number are read as the number.** -/
theorem readNumber_toDigits (negative : Bool) (hn : n ≤ significandLimit) (hrest : Ends rest)
    (m : Nat) :
    ∃ m', readNumber negative ⟨Nat.toDigits 10 n ++ rest, m⟩ =
      finishInteger.whole negative n ⟨rest, m'⟩ := by
  rcases Nat.eq_zero_or_pos n with rfl | hpos
  · have halone : ¬ (rest.head?.bind Text.digit?).isSome := by
      have hnone := head?_bind_digit? hrest []
      rw [List.nil_append] at hnone
      rw [hnone]
      simp
    refine ⟨m + 1, ?_⟩
    rw [Nat.toDigits_zero, List.singleton_append, readNumber_zero rfl, if_neg halone,
      finishInteger_ends hrest]
  · obtain ⟨d, cs, hd, hlt, hdigits⟩ := toDigits_of_pos hpos
    have hcs : ∀ c ∈ cs, c.isDigit = true := fun c hc =>
      Nat.isDigit_of_mem_toDigits (b := 10) (n := n) (by decide) (by decide)
        (hdigits ▸ List.mem_cons_of_mem _ hc)
    have hvalue : Nat.ofDigitChars 10 cs d = n := by
      have hall := Nat.ofDigitChars_ten_toDigits (n := n)
      rwa [hdigits, Nat.ofDigitChars_cons_digitChar_of_lt_ten hlt, Nat.mul_zero,
        Nat.zero_add] at hall
    refine ⟨m + 1 + cs.length, ?_⟩
    rw [hdigits, List.cons_append,
      readNumber_positive (Text.digit?_digitChar hlt) (Nat.ne_of_gt hd),
      readInteger_digits hcs (hvalue.symm ▸ hn), hvalue, readInteger_ends hrest,
      finishInteger_ends hrest]

/-- The text of a number with its sign. -/
def signed (negative : Bool) (text : List Char) : List Char :=
  if negative then '-' :: text else text

/-- A text that starts with a digit. -/
def StartsWithDigit (text : List Char) : Prop := ∃ c cs, text = c :: cs ∧ c.isDigit = true

theorem startsWithDigit_digits (n : Nat) : StartsWithDigit (Decimal.digits n) := by
  obtain ⟨c, cs, hcs⟩ := List.exists_cons_of_ne_nil (Nat.toDigits_ne_nil (n := n) (b := 10))
  exact ⟨c, cs, hcs, Nat.isDigit_of_mem_toDigits (by decide) (by decide) (hcs ▸ List.mem_cons_self)⟩

theorem StartsWithDigit.append (h : StartsWithDigit text) (rest : List Char) :
    StartsWithDigit (text ++ rest) := by
  obtain ⟨c, cs, rfl, hc⟩ := h
  exact ⟨c, cs ++ rest, rfl, hc⟩

theorem StartsWithDigit.take (h : StartsWithDigit text) (hn : 0 < n) :
    StartsWithDigit (text.take n) := by
  obtain ⟨c, cs, rfl, hc⟩ := h
  cases n with
  | zero => exact absurd hn (Nat.lt_irrefl 0)
  | succ n => exact ⟨c, cs.take n, rfl, hc⟩

/-- However it is laid out, a number starts with a digit. -/
theorem startsWithDigit_unsigned (l : Decimal.Layout) (d : Decimal.Digits) :
    StartsWithDigit (l.unsigned d) := by
  have hdigits := startsWithDigit_digits d.digits
  unfold Decimal.Layout.unsigned
  dsimp only
  split
  · exact ⟨'0', _, rfl, rfl⟩
  split
  · exact (hdigits.append _).append _
  split
  · next hpoint => exact (hdigits.take (by omega)).append _
  split
  · exact ⟨'0', _, rfl, rfl⟩
  · exact ((hdigits.take Nat.one_pos).append _).append _

theorem value_minus (cs : List Char) (n : Nat) :
    value (depth + 1) ⟨'-' :: cs, n⟩ =
      (readNumber true ⟨cs, n + 1⟩).map fun p => (.number p.1, p.2) := by
  rw [value]
  change Except.bind (readNumber true ⟨cs, n + 1⟩) (fun p => .ok (Json.number p.1, p.2)) = _
  cases readNumber true ⟨cs, n + 1⟩ <;> rfl

theorem isGap_of_isDigit {c : Char} (hc : c.isDigit = true) : isGap c = false := by
  rw [Bool.eq_false_iff]
  intro hgap
  simp only [isGap, Bool.or_eq_true, decide_eq_true_eq] at hgap
  rcases hgap with ((rfl | rfl) | rfl) | rfl <;> exact absurd hc (by decide)

theorem value_digit {c : Char} (hc : c.isDigit = true) (cs : List Char) (n : Nat) :
    value (depth + 1) ⟨c :: cs, n⟩ =
      (readNumber false ⟨c :: cs, n⟩).map fun p => (.number p.1, p.2) := by
  have hblanks : Cursor.blanks ⟨c :: cs, n⟩ = ⟨c :: cs, n⟩ :=
    Cursor.skipBlanks_of_not (isGap_of_isDigit hc) cs n
  rw [value]
  dsimp only
  rw [hblanks]
  dsimp only
  -- no digit is one of the letters that values of other kinds and negative numbers start with
  split
  iterate 7 exact absurd hc (by decide)
  rw [Text.digit?_of_isDigit hc]
  cases readNumber false ⟨c :: cs, n⟩ <;> rfl

/-- A printed number is read by the reader of numbers, after its sign. -/
theorem value_signed (depth : Nat) (negative : Bool) (htext : StartsWithDigit text)
    (rest : List Char) (n : Nat) :
    ∃ m, value (depth + 1) ⟨signed negative text ++ rest, n⟩ =
      (readNumber negative ⟨text ++ rest, m⟩).map fun p => (.number p.1, p.2) := by
  obtain ⟨c, cs, rfl, hc⟩ := htext
  cases negative with
  | true => exact ⟨n + 1, value_minus (c :: cs ++ rest) n⟩
  | false => exact ⟨n, value_digit hc (cs ++ rest) n⟩

/-- So what that reader reads is read as a value. -/
theorem reads_signed {x : Number} (htext : StartsWithDigit text)
    (h : Reads (readNumber negative) text x) :
    Reads (value (depth + 1)) (signed negative text) (.number x) := by
  intro rest hrest n
  obtain ⟨m, hvalue⟩ := value_signed depth negative htext rest n
  obtain ⟨gap, n', hgap, hread⟩ := h rest hrest m
  exact ⟨gap, n', hgap, by rw [hvalue, hread]; rfl⟩

/-- **An integer of 64 bits is read as itself.** -/
theorem reads_integer {i : Int} (hlow : -2 ^ 63 ≤ i) (hhigh : i < 2 ^ 64) :
    Reads (value (depth + 1)) (printInt i) (.number (.integer i)) := by
  have hsigned : printInt i = signed (i < 0) (Decimal.digits i.natAbs) := by
    unfold printInt signed
    simp only [decide_eq_true_eq]
  rw [hsigned]
  refine reads_signed (startsWithDigit_digits _) fun rest hrest n => ?_
  have hlimit : significandLimit = 2 ^ 64 - 1 := rfl
  obtain ⟨m, hread⟩ := readNumber_toDigits (decide (i < 0)) (n := i.natAbs) (by omega) hrest n
  refine ⟨[], m, isGap_nil, hread.trans ?_⟩
  unfold finishInteger.whole
  by_cases hneg : i < 0
  · have hself : -(i.natAbs : Int) = i := by omega
    rw [decide_eq_true hneg, if_neg (by simp), if_neg (by omega), hself]
    rfl
  · have hself : (i.natAbs : Int) = i := by omega
    rw [decide_eq_false hneg, if_pos Bool.not_false, hself]
    rfl

/-- A text that is read as a whole is that of a value, and of blanks. -/
theorem value_of_parse {text : String} {v : Json} (h : parse text = .ok v) :
    ∃ k, value depthLimit ⟨text.toList, 0⟩ = .ok (v, k) ∧ IsGap k.rest := by
  rw [parse] at h
  cases hvalue : value depthLimit ⟨text.toList, 0⟩ with
  | error e =>
    rw [hvalue] at h
    cases h
  | ok r =>
    obtain ⟨w, k⟩ := r
    rw [hvalue] at h
    change Except.bind (readEnd k) (fun _ => .ok w) = .ok v at h
    cases hend : readEnd k with
    | error e =>
      rw [hend] at h
      cases h
    | ok r =>
      rw [hend] at h
      cases h
      exact ⟨k, rfl, isGap_of_readEnd hend⟩

/-- **A number that is read off the end of a text** is read in the same way everywhere. -/
theorem reads_of_parse {x : Number} (htext : StartsWithDigit text)
    (h : parse (String.ofList (signed negative text)) = .ok (.number x)) :
    Reads (value (depth + 1)) (signed negative text) (.number x) := by
  obtain ⟨k, hvalue, hgap⟩ := value_of_parse h
  rw [String.toList_ofList] at hvalue
  obtain ⟨m, halone⟩ := value_signed 127 negative htext [] 0
  rw [List.append_nil, List.append_nil] at halone
  rw [depthLimit, halone] at hvalue
  cases hread : readNumber negative ⟨text, m⟩ with
  | error e =>
    rw [hread] at hvalue
    cases hvalue
  | ok r =>
    rw [hread] at hvalue
    cases hvalue
    refine reads_signed htext fun rest hrest n => ?_
    obtain ⟨n', hsteady⟩ := steady_number negative text m r.1 r.2 hread rest hrest n
    exact ⟨r.2.rest, n', hgap, hsteady⟩

theorem printNumber_finite (negative : Bool) (m : Nat) (e : Int) :
    ∃ text, StartsWithDigit text ∧
      printNumber (.real (.finite negative m e)) = signed negative text := by
  refine ⟨_, startsWithDigit_unsigned .data
    (if m = 0 then ⟨0, 0⟩ else Decimal.shortest Decimal.Layout.data.format m e), ?_⟩
  rw [printNumber, Decimal.Layout.write?, Option.getD_some, String.toList_ofList]
  cases negative <;> rfl

theorem parse_null : parse "null" = .ok .null := rfl

/-- **A double whose own text is read as the double** is read as itself everywhere. -/
theorem reads_real {x : Decimal.Binary} (h : parse (Json.real x).compact = .ok (.real x)) :
    Reads (value (depth + 1)) (printNumber (.real x)) (.number (.real x)) := by
  -- what is not finite is written as `null`
  have hnull : (Json.real x).compact ≠ "null" := fun heq => by
    rw [heq, parse_null] at h
    cases h
  cases x with
  | finite negative m e =>
    obtain ⟨text, htext, hprint⟩ := printNumber_finite negative m e
    rw [hprint]
    refine reads_of_parse htext
      (Eq.trans (congrArg (fun cs => parse (String.ofList cs)) hprint.symm) h)
  | infinite s => exact absurd (String.ofList_toList (s := "null")) hnull
  | undefined => exact absurd (String.ofList_toList (s := "null")) hnull

end Numbers

end Json
end ConsentWalker
