import Mathlib.Data.List.DropRight
import Mathlib.Data.List.Forall2
import Mathlib.Data.List.TakeWhile
import ConsentWalker.Page.Style
/-!
# Page — declarations and the style they make

A style attribute is a row of pieces with `;` between them, and a piece with a `:` declares. The
last one that declares a property decides about it, whatever pieces stand around it, and what the
kind of the element suggests counts only if there is none (`Element.style_overridden`). So a
declaration that is put behind a style replaces what the style had for its own property, and for no
other.
-/

namespace ConsentWalker

namespace Text

/-- Pieces are those of the library. -/
theorem splitAtAll_eq_splitOnP (p : Char → Bool) (cs : List Char) :
    splitAtAll p cs = cs.splitOnP p := by
  induction cs with
  | nil => rfl
  | cons c cs ih =>
    rw [splitAtAll, List.splitOnP_cons_eq_if_modifyHead, ih]
    cases hsplit : cs.splitOnP p with
    | nil => exact absurd hsplit (List.splitOnP_ne_nil p cs)
    | cons piece pieces => rfl

/-- **A text without the blanks around it**: nothing but blanks is missing on either side, and what
is left neither starts nor ends with a blank. -/
structure IsTrimmed (cs result : List Char) : Prop where
  around : ∃ front back, cs = front ++ result ++ back ∧ ∀ c ∈ front ++ back, isBlank c = true
  starts : ∀ c ∈ result.head?, isBlank c = false
  ends : ∀ c ∈ result.getLast?, isBlank c = false

/-- Where dropping stops, what it drops is over. -/
theorem not_of_head?_dropWhile {p : Char → Bool} {cs : List Char} {c : Char}
    (h : (cs.dropWhile p).head? = some c) : p c = false := by
  have hnot := List.head?_dropWhile_not p cs
  rw [h] at hnot
  exact hnot

theorem isTrimmed_trimList (cs : List Char) : IsTrimmed cs (trimList cs) := by
  have hresult : trimList cs = (cs.dropWhile isBlank).rdropWhile isBlank := rfl
  refine ⟨⟨cs.takeWhile isBlank, (cs.dropWhile isBlank).rtakeWhile isBlank, ?_, ?_⟩, ?_, ?_⟩
  · rw [hresult, List.append_assoc, List.rdropWhile_append_rtakeWhile,
      List.takeWhile_append_dropWhile]
  · intro c hc
    rcases List.mem_append.1 hc with hc | hc
    · exact List.mem_takeWhile_imp hc
    · exact List.mem_rtakeWhile_imp hc
  · -- what is left starts as it did before its end was dropped
    intro c hc
    obtain ⟨rest, hrest⟩ := List.rdropWhile_prefix isBlank (cs.dropWhile isBlank)
    have hhead : (cs.dropWhile isBlank).head? = some c := by
      rw [← hrest, List.head?_append, ← hresult, hc, Option.some_or]
    exact not_of_head?_dropWhile hhead
  · intro c hc
    exact not_of_head?_dropWhile (List.getLast?_reverse.symm.trans hc)

end Text

namespace Style

/-! ## Values -/

section Values

variable {start cs : List Char}

/-- **What is dropped are copies of the start**, and none is left. -/
theorem dropFronts_spec (hstart : start ≠ []) {fuel : Nat} (hfuel : cs.length ≤ fuel) :
    (∃ k, cs = (List.replicate k start).flatten ++ dropFronts start fuel cs) ∧
      ¬ start <+: dropFronts start fuel cs := by
  induction fuel generalizing cs with
  | zero =>
    obtain rfl : cs = [] := List.length_eq_zero_iff.1 (Nat.le_zero.1 hfuel)
    exact ⟨⟨0, rfl⟩, fun h => hstart (List.prefix_nil.1 h)⟩
  | succ fuel ih =>
    rw [dropFronts]
    split
    · next hfront =>
      obtain ⟨rest, rfl⟩ := List.isPrefixOf_iff_prefix.1 hfront
      have hpos : 0 < start.length := List.length_pos_iff.2 hstart
      rw [List.length_append] at hfuel
      rw [List.drop_left]
      obtain ⟨⟨k, hk⟩, hnone⟩ := @ih rest (by omega)
      refine ⟨⟨k + 1, ?_⟩, hnone⟩
      rw [List.replicate_succ, List.flatten_cons, List.append_assoc, ← hk]
    · next hfront => exact ⟨⟨0, rfl⟩, fun h => hfront (List.isPrefixOf_iff_prefix.2 h)⟩

/-- **A value without blanks around it and without its marks of importance**, of which there may be
several in a row. -/
def IsCleaned (value result : List Char) : Prop :=
  ∃ body k, Text.IsTrimmed value (body ++ (List.replicate k importantMark).flatten) ∧
    ¬ importantMark <:+ body ∧ Text.IsTrimmed body result

theorem isCleaned_cleaned (value : List Char) : IsCleaned value (cleaned value) := by
  have hmark : importantMark.reverse ≠ [] := by decide
  have hfuel : (Text.trimList value).reverse.length ≤ (Text.trimList value).length := by
    rw [List.length_reverse]
  obtain ⟨⟨k, hk⟩, hnone⟩ := dropFronts_spec hmark hfuel
  have hturned := congrArg List.reverse hk
  rw [List.reverse_reverse, List.reverse_append, List.reverse_flatten, List.map_replicate,
    List.reverse_reverse, List.reverse_replicate] at hturned
  refine ⟨_, k, ?_, fun h => hnone (List.reverse_suffix.1 (by simpa using h)),
    Text.isTrimmed_trimList _⟩
  rw [← hturned]
  exact Text.isTrimmed_trimList value

end Values

/-! ## Declarations -/

section Declarations

variable {property : String} {name value piece : List Char}

theorem splitDeclaration?_of_colon (hname : ':' ∉ name) :
    splitDeclaration? (name ++ ':' :: value) = some (name, value) := by
  have hall : ∀ c ∈ name, decide (c ≠ ':') = true := fun c hc =>
    decide_eq_true fun heq => hname (heq ▸ hc)
  rw [splitDeclaration?, List.dropWhile_append_of_pos hall, List.takeWhile_append_of_pos hall]
  simp

theorem declares?_of_colon (hname : ':' ∉ name) : declares? property (name ++ ':' :: value) =
    if Text.sameUpToCase (String.ofList (Text.trimList name)) property
      then some (String.ofList (cleaned value))
    else none := by
  rw [declares?, splitDeclaration?_of_colon hname]

theorem declares?_of_no_colon (hpiece : ':' ∉ piece) : declares? property piece = none := by
  have hall : piece.dropWhile (· ≠ ':') = [] :=
    List.dropWhile_eq_nil_iff.2 fun c hc => decide_eq_true fun heq => hpiece (heq ▸ hc)
  rw [declares?, splitDeclaration?, hall]

theorem declares?_piece {property name value : String} (hname : ':' ∉ name.toList) :
    declares? property (name ++ ":" ++ value).toList =
      if Text.sameUpToCase (Text.trim name) property
        then some (String.ofList (cleaned value.toList)) else none := by
  have hchars : (name ++ ":" ++ value).toList = name.toList ++ ':' :: value.toList := by simp
  rw [hchars, declares?_of_colon hname]
  rfl

/-- **A piece that declares a property.** What is no declaration, or one of something else, does
not. -/
def Declares (property : String) (piece : String) : Prop :=
  ∃ name value, piece = name ++ ":" ++ value ∧ ':' ∉ name.toList ∧
    Text.sameUpToCase (Text.trim name) property = true

theorem declares?_eq_none {property piece : String} :
    declares? property piece.toList = none ↔ ¬ Declares property piece := by
  constructor
  · rintro h ⟨name, value, rfl, hname, hsame⟩
    rw [declares?_piece hname, if_pos hsame] at h
    cases h
  · intro hno
    by_cases hcolon : ':' ∈ piece.toList
    · -- the name ends at the first colon
      obtain ⟨name, value, hsplit, hname⟩ := List.eq_append_cons_of_mem hcolon
      rw [hsplit, declares?_of_colon hname, if_neg]
      refine fun hsame =>
        hno ⟨String.ofList name, String.ofList value, ?_, by simpa using hname, ?_⟩
      · rw [← String.toList_inj, hsplit]
        simp
      · rw [Text.trim, String.toList_ofList]
        exact hsame
    · exact declares?_of_no_colon hcolon

end Declarations

/-! ## Styles -/

section Styles

variable {property : String}

theorem declared?_eq (style : String) :
    declared? style property =
      (style.toList.splitOn ';').reverse.findSome? (declares? property) := by
  rw [declared?, Text.splitAtAll_eq_splitOnP]
  rfl

/-- **What is put behind a style is asked first.** -/
theorem declared?_append {piece : String} (style : String) (hpiece : ';' ∉ piece.toList) :
    declared? (style ++ ";" ++ piece) property =
      (declares? property piece.toList).or (declared? style property) := by
  have hchars : (style ++ ";" ++ piece).toList = style.toList ++ ';' :: piece.toList := by simp
  have hwhole : piece.toList.splitOnP (· == ';') = [piece.toList] :=
    List.splitOnP_eq_singleton fun c hc => beq_false_of_ne fun heq => hpiece (heq ▸ hc)
  rw [declared?_eq, declared?_eq, hchars, List.splitOn,
    List.splitOnP_append_cons (p := (· == ';')) _ _ (beq_self_eq_true ';'), hwhole,
    List.reverse_append, List.reverse_singleton, List.singleton_append, List.findSome?_cons]
  cases declares? property piece.toList <;> rfl

/-- What a style of pieces declares is what the last of them does that declares the property. -/
theorem declared?_intercalate {pieces : List String} (hne : pieces ≠ [])
    (hpieces : ∀ g ∈ pieces, ';' ∉ g.toList) :
    declared? (";".intercalate pieces) property =
      pieces.reverse.findSome? fun g => declares? property g.toList := by
  have hsplit : (";".intercalate pieces).toList.splitOn ';' = pieces.map String.toList := by
    rw [String.toList_intercalate]
    refine List.splitOn_intercalate ';' (fun cs hcs => ?_) (by simpa using hne)
    obtain ⟨g, hg, rfl⟩ := List.mem_map.1 hcs
    exact hpieces g hg
  rw [declared?_eq, hsplit, ← List.map_reverse, List.findSome?_map]
  rfl

end Styles

/-! ## Letters -/

section Letters

variable {c d : Char}

/-- **A small letter of the Latin alphabet and its capital**, whose codes are 32 apart. -/
def IsSmallOf (small capital : Char) : Prop :=
  'A' ≤ capital ∧ capital ≤ 'Z' ∧ small.toNat = capital.toNat + 32

/-- The same letter, whether it is small or a capital. -/
def SameLetter (c d : Char) : Prop := c = d ∨ IsSmallOf c d ∨ IsSmallOf d c

theorem isUpper_iff : c.isUpper = true ↔ 'A' ≤ c ∧ c ≤ 'Z' := decide_eq_true_iff

/-- The codes of the capitals are those from 65 to 90. -/
theorem isSmallOf_iff : IsSmallOf c d ↔ 65 ≤ d.toNat ∧ d.toNat ≤ 90 ∧ c.toNat = d.toNat + 32 :=
  and_congr UInt32.le_iff_toNat_le (and_congr UInt32.le_iff_toNat_le Iff.rfl)

theorem isSmallOf_toLower (h : c.isUpper = true) : IsSmallOf c.toLower c := by
  obtain ⟨hfirst, hlast⟩ := isUpper_iff.1 h
  refine ⟨hfirst, hlast, ?_⟩
  have hhigh : c.val.toNat ≤ 90 := UInt32.le_iff_toNat_le.1 hlast
  unfold Char.toLower
  split
  · change (c.val + 32).toNat = c.val.toNat + 32
    rw [UInt32.toNat_add]
    exact Nat.mod_eq_of_lt (Nat.lt_of_le_of_lt (Nat.add_le_add_right hhigh 32) (by decide))
  · next hno => exact absurd ⟨hfirst, hlast⟩ hno

/-- **What is no capital is its own small form.** -/
theorem toLower_of_not_isUpper (h : ¬ c.isUpper = true) : c.toLower = c := by
  unfold Char.toLower
  split
  · next hupper => exact absurd (isUpper_iff.2 hupper) h
  · rfl

/-- The code of a small form. -/
theorem toNat_toLower (c : Char) :
    c.toLower.toNat = if 65 ≤ c.toNat ∧ c.toNat ≤ 90 then c.toNat + 32 else c.toNat := by
  by_cases h : c.isUpper = true
  · obtain ⟨hlow, hhigh, hcode⟩ := isSmallOf_iff.1 (isSmallOf_toLower h)
    rw [hcode, if_pos ⟨hlow, hhigh⟩]
  · rw [toLower_of_not_isUpper h, if_neg]
    rintro ⟨hlow, hhigh⟩
    exact h (isUpper_iff.2 ⟨UInt32.le_iff_toNat_le.2 hlow, UInt32.le_iff_toNat_le.2 hhigh⟩)

/-- **Letters have one small form if they are the same letter**, and only then. -/
theorem toLower_eq_toLower_iff : c.toLower = d.toLower ↔ SameLetter c d := by
  unfold SameLetter
  rw [← Char.toNat_inj, toNat_toLower, toNat_toLower, ← Char.toNat_inj, isSmallOf_iff,
    isSmallOf_iff]
  split <;> split <;> omega

/-- **Texts are equal up to case if they are so letter by letter.** -/
theorem sameUpToCase_iff {s t : String} :
    Text.sameUpToCase s t = true ↔ List.Forall₂ SameLetter s.toList t.toList := by
  unfold Text.sameUpToCase
  rw [beq_iff_eq, ← List.forall₂_eq_eq_eq, List.forall₂_map_left_iff, List.forall₂_map_right_iff]
  exact ⟨fun h => h.imp fun _ _ => toLower_eq_toLower_iff.1,
    fun h => h.imp fun _ _ => toLower_eq_toLower_iff.2⟩

end Letters

/-! ## Names of properties -/

section Names

/-- **The dashed form of a name, letter by letter**: a capital becomes a dash and its small letter,
and every other character stays. -/
inductive IsDashed : List Char → List Char → Prop where
  | nil : IsDashed [] []
  | capital {small c : Char} {cs ds : List Char} : IsSmallOf small c → IsDashed cs ds →
      IsDashed (c :: cs) ('-' :: small :: ds)
  | other {c : Char} {cs ds : List Char} : ¬ ('A' ≤ c ∧ c ≤ 'Z') → IsDashed cs ds →
      IsDashed (c :: cs) (c :: ds)

theorem isDashed_kebab (property : String) : IsDashed property.toList (kebab property).toList := by
  rw [kebab, String.toList_ofList]
  induction property.toList with
  | nil => exact .nil
  | cons c cs ih =>
    rw [List.flatMap_cons]
    split
    · next hupper => exact .capital (isSmallOf_toLower hupper) ih
    · next hlow => exact .other (fun h => hlow (isUpper_iff.2 h)) ih

/-- A dashed form has no capitals. -/
theorem IsDashed.not_isUpper {cs ds : List Char} (h : IsDashed cs ds) :
    ∀ d ∈ ds, ¬ d.isUpper = true := by
  induction h with
  | nil => exact fun d hd => absurd hd List.not_mem_nil
  | @capital small c cs ds hsmall _ ih =>
    refine List.forall_mem_cons.2 ⟨by decide, List.forall_mem_cons.2 ⟨fun hupper => ?_, ih⟩⟩
    obtain ⟨hlow, -, hcode⟩ := isSmallOf_iff.1 hsmall
    obtain ⟨-, hhigh, -⟩ := isSmallOf_iff.1 (isSmallOf_toLower hupper)
    omega
  | other hno _ ih => exact List.forall_mem_cons.2 ⟨fun hupper => hno (isUpper_iff.1 hupper), ih⟩

/-- A name without capitals has no other dashed form than itself. -/
theorem IsDashed.eq_self {cs ds : List Char} (h : IsDashed cs ds)
    (hcs : ∀ c ∈ cs, ¬ c.isUpper = true) : ds = cs := by
  induction h with
  | nil => rfl
  | capital hsmall _ ih =>
    exact absurd (isUpper_iff.2 ⟨hsmall.1, hsmall.2.1⟩) (hcs _ List.mem_cons_self)
  | other _ _ ih => rw [ih (List.forall_mem_cons.1 hcs).2]

/-- **The dashed form is its own dashed form.** -/
theorem kebab_kebab (property : String) : kebab (kebab property) = kebab property :=
  String.toList_inj.1
    ((isDashed_kebab (kebab property)).eq_self (isDashed_kebab property).not_isUpper)

end Names

/-! ## What the kind of an element suggests -/

/-- **The style of an element that declares none**: what is hidden or generates no box is not
displayed, what stands in a line of text is displayed in it, and everything else is a block; all is
visible, covers what is behind it and stays where it stands. Of other properties nothing is
known. -/
inductive IsInitial (e : Element) : String → String → Prop where
  | undisplayed : e.hasAttribute "hidden" = true ∨ e.name ∈ boxless → IsInitial e "display" "none"
  | inLine : e.hasAttribute "hidden" = false → e.name ∉ boxless → e.name ∈ inline →
      IsInitial e "display" "inline"
  | block : e.hasAttribute "hidden" = false → e.name ∉ boxless → e.name ∉ inline →
      IsInitial e "display" "block"
  | visibility : IsInitial e "visibility" "visible"
  | opacity : IsInitial e "opacity" "1"
  | position : IsInitial e "position" "static"
  | other {property : String} : property ∉ ["display", "visibility", "opacity", "position"] →
      IsInitial e property ""

theorem isInitial_initial (e : Element) (property : String) :
    IsInitial e property (initial e property) := by
  unfold initial
  split
  · split
    · next h =>
      rw [Bool.or_eq_true, List.contains_iff_mem] at h
      exact .undisplayed h
    · next h =>
      rw [Bool.or_eq_true, List.contains_iff_mem, not_or, Bool.not_eq_true] at h
      split
      · next hin => exact .inLine h.1 h.2 (List.contains_iff_mem.1 hin)
      · next hout => exact .block h.1 h.2 fun hin => hout (List.contains_iff_mem.2 hin)
  · exact .visibility
  · exact .opacity
  · exact .position
  · next hdisplay hvisibility hopacity hposition =>
    refine .other fun hin => ?_
    simp only [List.mem_cons, List.not_mem_nil, or_false] at hin
    rcases hin with rfl | rfl | rfl | rfl
    · exact hdisplay rfl
    · exact hvisibility rfl
    · exact hopacity rfl
    · exact hposition rfl

end Style

/-! ## The style of an element -/

namespace Element

open Style

variable {e : Element} {property text : String}

/-- An element with another style. -/
def restyled (e : Element) (text : String) : Element :=
  { e with attributes := ("style", text) :: e.attributes.filter (·.1 ≠ "style") }

theorem attribute?_restyled : (e.restyled text).attribute? "style" = some text := rfl

theorem attribute?_restyled_of_ne {name : String} (h : name ≠ "style") :
    (e.restyled text).attribute? name = e.attribute? name := by
  unfold restyled attribute?
  rw [List.lookup_cons, beq_false_of_ne h]
  dsimp only
  induction e.attributes with
  | nil => rfl
  | cons a rest ih =>
    obtain ⟨key, value⟩ := a
    by_cases hkey : key = "style"
    · rw [List.filter_cons_of_neg (by simpa using hkey), ih, List.lookup_cons, hkey,
        beq_false_of_ne h]
    · rw [List.filter_cons_of_pos (by simpa using hkey), List.lookup_cons, List.lookup_cons, ih]

theorem initial_restyled : initial (e.restyled text) property = initial e property := by
  unfold initial hasAttribute
  rw [attribute?_restyled_of_ne (by decide)]
  rfl

/-- **A style counts before what the kind of the element suggests.** -/
theorem style_restyled : (e.restyled text).style property =
    (declared? text (kebab property)).getD (initial e (kebab property)) := by
  unfold style
  dsimp only
  rw [attribute?_restyled, Option.bind_some, initial_restyled]
  cases declared? text (kebab property) <;> rfl

/-- A style that stands there already makes no difference. -/
theorem style_restyled_self (h : e.attribute? "style" = some text) :
    (e.restyled text).style property = e.style property := by
  rw [style_restyled]
  unfold style
  dsimp only
  rw [h, Option.bind_some]
  cases declared? text (kebab property) <;> rfl

/-- The dashed form of a property is as good as any. -/
theorem style_kebab : e.style (kebab property) = e.style property := by
  unfold style
  rw [kebab_kebab]

/-- The last piece that declares a property decides. -/
theorem style_of_last {before after : List String} {name value : String}
    (hpieces : ∀ g ∈ before ++ (name ++ ":" ++ value) :: after, ';' ∉ g.toList)
    (hname : ':' ∉ name.toList) (hsame : Text.sameUpToCase (Text.trim name) (kebab property) = true)
    (hafter : ∀ g ∈ after, ¬ Declares (kebab property) g) :
    (e.restyled (";".intercalate (before ++ (name ++ ":" ++ value) :: after))).style property =
      String.ofList (cleaned value.toList) := by
  have hvalue : declares? (kebab property) (name ++ ":" ++ value).toList =
      some (String.ofList (cleaned value.toList)) := by
    rw [declares?_piece hname, if_pos hsame]
  have hlast : (before ++ (name ++ ":" ++ value) :: after).reverse =
      after.reverse ++ (name ++ ":" ++ value) :: before.reverse := by simp
  have hdeclared :=
    (List.findSome?_eq_some_iff (f := fun g => declares? (kebab property) g.toList)).2
      ⟨_, _, _, hlast, hvalue, fun g hg => declares?_eq_none.2 (hafter g (List.mem_reverse.1 hg))⟩
  rw [style_restyled,
    declared?_intercalate (List.append_ne_nil_of_right_ne_nil _ (List.cons_ne_nil _ _)) hpieces,
    hdeclared, Option.getD_some]

/-- Where no piece declares a property, it has its initial value. -/
theorem style_of_none {pieces : List String} (hne : pieces ≠ [])
    (hpieces : ∀ g ∈ pieces, ';' ∉ g.toList ∧ ¬ Declares (kebab property) g) :
    (e.restyled (";".intercalate pieces)).style property = initial e (kebab property) := by
  have hnone : pieces.reverse.findSome? (fun g => declares? (kebab property) g.toList) = none :=
    List.findSome?_eq_none_iff.2 fun g hg =>
      declares?_eq_none.2 (hpieces g (List.mem_reverse.1 hg)).2
  rw [style_restyled, declared?_intercalate hne fun g hg => (hpieces g hg).1, hnone,
    Option.getD_none]

/-- **What a style says of a property.** For every element and every property, however it is
spelled, a declaration behind a style replaces what that said of its own property, and of no other;
what is no declaration says nothing. So the last declaration of the property counts, whatever stands
around it, and the default of the element's kind only if there is none, or no style. It makes no
difference whether an element has its style from the markup.

A declaration is about the property if its name, without the blanks around it, is the dashed form of
it but for the case of letters. Values are without the blanks around them and without the marks of
importance at their end. -/
theorem style_overridden (e : Element) (property : String) :
    (∀ s name value, ';' ∉ (name ++ ":" ++ value).toList → ':' ∉ name.toList →
      (e.restyled (s ++ ";" ++ (name ++ ":" ++ value))).style property =
        if Text.sameUpToCase (Text.trim name) (kebab property) then
          String.ofList (cleaned value.toList)
        else (e.restyled s).style property) ∧
    (∀ s piece, ';' ∉ piece.toList → ':' ∉ piece.toList →
      (e.restyled (s ++ ";" ++ piece)).style property = (e.restyled s).style property) ∧
    (∀ before name value after,
      (∀ g ∈ before ++ (name ++ ":" ++ value) :: after, ';' ∉ g.toList) → ':' ∉ name.toList →
      Text.sameUpToCase (Text.trim name) (kebab property) = true →
      (∀ g ∈ after, ¬ Declares (kebab property) g) →
      (e.restyled (";".intercalate (before ++ (name ++ ":" ++ value) :: after))).style property =
        String.ofList (cleaned value.toList)) ∧
    (∀ pieces, pieces ≠ [] → (∀ g ∈ pieces, ';' ∉ g.toList ∧ ¬ Declares (kebab property) g) →
      (e.restyled (";".intercalate pieces)).style property = initial e (kebab property)) ∧
    (e.attribute? "style" = none → e.style property = initial e (kebab property)) ∧
    (∀ s, e.attribute? "style" = some s → (e.restyled s).style property = e.style property) ∧
    e.style (kebab property) = e.style property ∧
    (∀ value, IsCleaned value (cleaned value)) ∧
    (∀ name, Text.IsTrimmed name.toList (Text.trim name).toList) ∧
    IsDashed property.toList (kebab property).toList ∧
    (∀ name, Text.sameUpToCase name (kebab property) = true ↔
      List.Forall₂ SameLetter name.toList (kebab property).toList) ∧
    IsInitial e (kebab property) (initial e (kebab property)) := by
  refine ⟨fun s name value hpiece hname => ?_, fun s piece hpiece hcolon => ?_,
    fun _ _ _ _ => style_of_last, fun _ => style_of_none, fun h => ?_, fun _ => style_restyled_self,
    style_kebab, isCleaned_cleaned, fun name => ?_, isDashed_kebab property,
    fun _ => sameUpToCase_iff, isInitial_initial e _⟩
  · rw [style_restyled, declared?_append s hpiece, declares?_piece hname, style_restyled]
    split <;> rfl
  · rw [style_restyled, declared?_append s hpiece, declares?_of_no_colon hcolon, Option.none_or,
      style_restyled]
  · unfold style
    dsimp only
    rw [h, Option.bind_none]
  · rw [Text.trim, String.toList_ofList]
    exact Text.isTrimmed_trimList name.toList

/-- A style in a row on a background. -/
def rowStyle : String := "display: flex; background-color: red !important"

/-- A panel that has it. -/
def panel : Element := { name := "div", attributes := [("style", rowStyle)] }

/-- A panel is hidden by what is put behind its style, and keeps its background, by whichever name
that is asked for; another background replaces it, and what the style says nothing of is left to
the kind of the element. -/
theorem panel_overridden :
    panel.style "display" = "flex" ∧ panel.style "backgroundColor" = "red" ∧
      (panel.restyled (rowStyle ++ ";" ++ ("DISPLAY " ++ ":" ++ " none !important"))).style
        "display" = "none" ∧
      (panel.restyled (rowStyle ++ ";" ++ ("DISPLAY " ++ ":" ++ " none !important"))).style
        "backgroundColor" = "red" ∧
      (panel.restyled (rowStyle ++ ";" ++ ("Background-Color" ++ ":" ++ "blue"))).style
        "backgroundColor" = "blue" ∧
      (panel.restyled (";".intercalate ["", "hidden", "color: red"])).style "display" = "block" ∧
      ({ name := "p", attributes := [("hidden", "")] } : Element).style "display" = "none" ∧
      ({ name := "script" } : Element).style "display" = "none" ∧
      ({ name := "span" } : Element).style "display" = "inline" := by
  obtain ⟨hdisplay, -, -, hdefault, -⟩ := style_overridden panel "display"
  obtain ⟨hcolor, -, -, -, -, hown, -⟩ := style_overridden panel "backgroundColor"
  have hbare (e : Element) (h : e.attribute? "style" = none) :
      e.style "display" = initial e (kebab "display") := by
    obtain ⟨-, -, -, -, hnone, -⟩ := style_overridden e "display"
    exact hnone h
  have hred : panel.style "backgroundColor" = "red" := by decide +kernel
  have hpiece : ';' ∉ ("DISPLAY " ++ ":" ++ " none !important").toList := by decide +kernel
  have hname : ':' ∉ "DISPLAY ".toList := by decide +kernel
  have hother : ¬ Text.sameUpToCase (Text.trim "DISPLAY ") (kebab "backgroundColor") = true := by
    decide +kernel
  have hblue : ';' ∉ ("Background-Color" ++ ":" ++ "blue").toList := by decide +kernel
  have hpieces : ∀ g ∈ ["", "hidden", "color: red"],
      ';' ∉ g.toList ∧ ¬ Declares (kebab "display") g := by
    simp only [← declares?_eq_none]
    decide +kernel
  exact ⟨by decide +kernel, hred,
    (hdisplay rowStyle _ _ hpiece hname).trans (by decide +kernel),
    (hcolor rowStyle _ _ hpiece hname).trans
      ((if_neg hother).trans ((hown rowStyle rfl).trans hred)),
    (hcolor rowStyle _ _ hblue (by decide +kernel)).trans (by decide +kernel),
    (hdefault _ (List.cons_ne_nil _ _) hpieces).trans (by decide +kernel),
    (hbare _ rfl).trans (by decide +kernel), (hbare _ rfl).trans (by decide +kernel),
    (hbare _ rfl).trans (by decide +kernel)⟩

end Element
end ConsentWalker
