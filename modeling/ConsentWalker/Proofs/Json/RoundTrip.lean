import ConsentWalker.Proofs.Json.Scalars
/-!
# JSON — what is printed is read

The compact text of a value is read as the value (`Proper.reads`), so strings in it may hold any
letters, marks, brackets and commas among them: none is taken for one of the text. A list is read in
the same way if there are blanks behind its commas (`reads_list`).

`Proper` says of which values this holds: integers have 64 bits, no name stands twice in an object,
and a double is read from its own text. Where values are nested, the reader has to have levels
enough (`nesting`).
-/

namespace ConsentWalker
namespace Json

/-! ## Lists -/

section Lists

variable {gap sep cs rest : List Char} {n m depth fuel : Nat}

theorem isGap_comma : isGap ',' = false := by decide

/-- A mark that the text goes on with, or ends with. -/
theorem ends_mark {c : Char} (hc : c = ',' ∨ c = ']' ∨ c = '\x7d') (rest : List Char) :
    Ends (c :: rest) := by
  rintro d hd
  obtain rfl : c = d := by simpa using hd
  rcases hc with rfl | rfl | rfl <;> exact ⟨rfl, by decide, by decide, by decide⟩

/-- A value that is read has a first letter, and that does not end a list. -/
theorem value_starts {k : Cursor} {r : Json × Cursor} (h : value depth k = .ok r) :
    ∃ c cs m, k.blanks = ⟨c :: cs, m⟩ ∧ c ≠ ']' ∧ value depth ⟨c :: cs, m⟩ = .ok r := by
  cases depth with
  | zero => cases h
  | succ depth =>
    have hblanks : value (depth + 1) k.blanks = value (depth + 1) k := by
      rw [value, value, Cursor.blanks_blanks]
    rw [← hblanks] at h
    cases hk : k.blanks with
    | mk rest m =>
      have hstays : Cursor.blanks ⟨rest, m⟩ = ⟨rest, m⟩ := hk ▸ k.blanks_blanks
      rw [hk] at h
      cases rest with
      | nil => cases h
      | cons c cs =>
        refine ⟨c, cs, m, rfl, ?_, h⟩
        rintro rfl
        cases h

variable {read : Cursor → Read Json} {first : Bool} {k k' k'' : Cursor}

/-- The first item of a list starts after the blanks behind the bracket. -/
theorem nextItem_first {c : Char} (hk : k.blanks = ⟨c :: cs, m⟩) (hc : c ≠ ']') :
    nextItem true k = .ok (true, ⟨c :: cs, m⟩) := by
  rw [nextItem]
  dsimp only
  rw [hk]
  dsimp only
  split
  · next h => cases h
  · next h => exact absurd (List.head_eq_of_cons_eq h) hc
  · rfl

/-- Another item starts after the blanks behind a comma. -/
theorem nextItem_comma {c : Char} {cs' : List Char} {m' : Nat} (hk : k.blanks = ⟨',' :: cs', m'⟩)
    (hpast : Cursor.blanks ⟨cs', m' + 1⟩ = ⟨c :: cs, m⟩) (hc : c ≠ ']') :
    nextItem false k = .ok (true, ⟨c :: cs, m⟩) := by
  rw [nextItem]
  dsimp only
  rw [hk]
  split
  · next h => cases h
  · next h => exact absurd (List.head_eq_of_cons_eq h) (by decide)
  · next h =>
    obtain ⟨rfl, rfl⟩ := List.cons.inj h
    have hpast' : (Cursor.past ⟨',' :: cs', m'⟩ ',' cs').blanks = ⟨c :: cs, m⟩ := hpast
    rw [if_neg (by decide), if_pos rfl, hpast']
    dsimp only
    split
    · next h => cases h
    · next h => exact absurd (List.head_eq_of_cons_eq h) hc
    · rfl

/-- A closing bracket ends a list, wherever in it the reader is. -/
theorem nextItem_end (hk : k.blanks = ⟨']' :: cs, m⟩) :
    nextItem first k = .ok (false, ⟨cs, m + 1⟩) := by
  rw [nextItem]
  dsimp only
  rw [hk]
  rfl

/-- Items are read one after another. -/
theorem readItems_more {v : Json} {vs : List Json} {r : Cursor}
    (hnext : nextItem first k = .ok (true, k'))
    (hread : read k' = .ok (v, k'')) (hrest : readItems read fuel false k'' = .ok (vs, r)) :
    readItems read (fuel + 1) first k = .ok (v :: vs, r) := by
  rw [readItems, hnext]
  change Except.bind (read k') _ = _
  rw [hread]
  change Except.bind (readItems read fuel false k'') _ = _
  rw [hrest]
  rfl

theorem readItems_end (hnext : nextItem first k = .ok (false, k')) :
    readItems read (fuel + 1) first k = .ok ([], k') := by
  rw [readItems, hnext]
  rfl

/-- What follows the first of some texts: each of them behind a comma and blanks. -/
def following (sep : List Char) (texts : List (List Char)) : List Char :=
  texts.flatMap fun text => ',' :: (sep ++ text)

/-- A list with separators is its first text and what follows it. -/
theorem intercalate_eq (sep text : List Char) (texts : List (List Char)) :
    (',' :: sep).intercalate (text :: texts) = text ++ following sep texts := by
  induction texts generalizing text with
  | nil => rw [List.intercalate_singleton, following, List.flatMap_nil, List.append_nil]
  | cons t texts ih =>
    rw [List.intercalate_cons_cons, ih, following, following, List.flatMap_cons]
    simp

/-- What follows the first item of a list ends a number. -/
theorem ends_following (sep : List Char) (texts : List (List Char)) {c : Char}
    (hc : c = ']' ∨ c = '\x7d') (rest : List Char) : Ends (following sep texts ++ c :: rest) := by
  cases texts with
  | nil => exact ends_mark (.inr hc) rest
  | cons t texts => exact ends_mark (.inl rfl) _

/-- There are letters enough after the first item for the reader to try once for each item. -/
theorem length_le_following (sep : List Char) (texts : List (List Char)) :
    texts.length ≤ (following sep texts).length := by
  induction texts with
  | nil => exact Nat.zero_le _
  | cons t texts ih =>
    rw [following, List.flatMap_cons, List.length_append, List.length_cons, List.length_cons]
    rw [following] at ih
    omega

/-- So a text has letters enough to bring a reader through all its parts. -/
theorem lt_length_following (text sep : List Char) (texts : List (List Char)) (c : Char)
    (rest : List Char) :
    texts.length < (text ++ (following sep texts ++ c :: rest)).length := by
  have hcommas := length_le_following sep texts
  rw [List.length_append, List.length_append, List.length_cons]
  omega

/-- The items behind the first one are read, up to the end of the list. -/
theorem readItems_following (rest : List Char) (hsep : IsGap sep) {items : List Json}
    (hitems : ∀ v ∈ items, Reads (value depth) v.print v) (hgap : IsGap gap)
    (hfuel : items.length < fuel) (n : Nat) :
    ∃ n', readItems (value depth) fuel false
      ⟨gap ++ (following sep (items.map print) ++ ']' :: rest), n⟩ = .ok (items, ⟨rest, n'⟩) := by
  induction items generalizing gap fuel n with
  | nil =>
    obtain ⟨fuel, rfl⟩ := Nat.exists_eq_add_one_of_ne_zero (Nat.ne_of_gt hfuel)
    exact ⟨_, readItems_end (nextItem_end (Cursor.blanks_gap hgap (by decide) _ n))⟩
  | cons v items ih =>
    obtain ⟨fuel, rfl⟩ := Nat.exists_eq_add_one_of_ne_zero (Nat.ne_zero_of_lt hfuel)
    obtain ⟨hv, hitems⟩ := List.forall_mem_cons.1 hitems
    obtain ⟨gap', n₁, hgap', hread⟩ := hv _ (ends_following sep (items.map print) (.inl rfl) rest)
      (n + gap.length + 1 + sep.length)
    obtain ⟨c, cs, m, hblanks, hc, hvalue⟩ := value_starts hread
    have htext : following sep ((v :: items).map print) ++ ']' :: rest =
        ',' :: (sep ++ (v.print ++ (following sep (items.map print) ++ ']' :: rest))) := by
      simp [following]
    have hpast : Cursor.blanks
        ⟨sep ++ (v.print ++ (following sep (items.map print) ++ ']' :: rest)), n + gap.length + 1⟩ =
          ⟨c :: cs, m⟩ :=
      (Cursor.skipBlanks_gap hsep _ _).trans hblanks
    obtain ⟨n', hrest⟩ := ih hitems hgap' (Nat.lt_of_succ_lt_succ hfuel) n₁
    rw [htext]
    exact ⟨n', readItems_more
      (nextItem_comma (Cursor.blanks_gap hgap isGap_comma _ n) hpast hc) hvalue hrest⟩

theorem value_list {items : List Json} {r : Cursor}
    (h : readItems (value (depth + 1)) (cs.length + 1) true ⟨cs, n + 1⟩ = .ok (items, r)) :
    value (depth + 2) ⟨'[' :: cs, n⟩ = .ok (.array items, r) := by
  rw [value]
  change Except.bind (readItems (value (depth + 1)) (cs.length + 1) true ⟨cs, n + 1⟩) _ = _
  rw [h]
  rfl

/-- **A list is read** if its members are, also with blanks behind the commas. -/
theorem reads_list (hsep : IsGap sep) {items : List Json}
    (hitems : ∀ v ∈ items, Reads (value (depth + 1)) v.print v) :
    Reads (value (depth + 2)) ('[' :: ((',' :: sep).intercalate (items.map print) ++ [']']))
      (.array items) := by
  intro rest _ n
  rw [List.cons_append, List.append_assoc, List.singleton_append]
  cases items with
  | nil =>
    have hend : nextItem true ⟨']' :: rest, n + 1⟩ = .ok (false, ⟨rest, n + 2⟩) := rfl
    exact ⟨[], _, isGap_nil, value_list (readItems_end hend)⟩
  | cons v items =>
    obtain ⟨hv, hitems⟩ := List.forall_mem_cons.1 hitems
    rw [List.map_cons, intercalate_eq, List.append_assoc]
    obtain ⟨gap, n₁, hgap, hread⟩ :=
      hv _ (ends_following sep (items.map print) (.inl rfl) rest) (n + 1)
    obtain ⟨c, cs, m, hblanks, hc, hvalue⟩ := value_starts hread
    have hfuel := lt_length_following v.print sep (items.map print) ']' rest
    rw [List.length_map] at hfuel
    obtain ⟨n', hrest⟩ := readItems_following rest hsep hitems hgap hfuel n₁
    exact ⟨[], n', isGap_nil, value_list (readItems_more (nextItem_first hblanks hc) hvalue hrest)⟩

end Lists

/-! ## Objects -/

section Objects

variable {gap cs rest : List Char} {n m depth fuel : Nat} {first : Bool} {k k₁ k₂ k₃ : Cursor}
  {read : Cursor → Read Json} {name : String} {v : Json} {members : List (String × Json)}

/-- The first name in an object starts after the blanks behind the brace. -/
theorem nextKey_first (hk : k.blanks = ⟨'"' :: cs, m⟩) :
    nextKey true k = .ok (true, ⟨'"' :: cs, m⟩) := by
  rw [nextKey]
  dsimp only
  rw [hk]
  rfl

/-- Another name starts after the blanks behind a comma. -/
theorem nextKey_comma {cs' : List Char} {m' : Nat} (hk : k.blanks = ⟨',' :: cs', m'⟩)
    (hpast : Cursor.blanks ⟨cs', m' + 1⟩ = ⟨'"' :: cs, m⟩) :
    nextKey false k = .ok (true, ⟨'"' :: cs, m⟩) := by
  have hpast' : (Cursor.past ⟨',' :: cs', m'⟩ ',' cs').blanks = ⟨'"' :: cs, m⟩ := hpast
  rw [nextKey]
  dsimp only
  rw [hk]
  split
  · next h => cases h
  · next h => exact absurd (List.head_eq_of_cons_eq h) (by decide)
  · next h =>
    obtain ⟨rfl, rfl⟩ := List.cons.inj h
    rw [if_neg (by decide), if_pos rfl, hpast']
    rfl

theorem nextKey_end (hk : k.blanks = ⟨'\x7d' :: cs, m⟩) :
    nextKey first k = .ok (false, ⟨cs, m + 1⟩) := by
  rw [nextKey]
  dsimp only
  rw [hk]
  rfl

/-- Members are read one after another, each put to those read before. -/
theorem readMembers_more {ms : List (String × Json)} {r : Cursor}
    (hnext : nextKey first k = .ok (true, ⟨'"' :: cs, m⟩))
    (hname : readString ⟨cs, m + 1⟩ = .ok (name, k₁))
    (hcolon : readColon k₁ = .ok ((), k₂)) (hread : read k₂ = .ok (v, k₃))
    (hrest : readMembers read fuel false (put name v members) k₃ = .ok (ms, r)) :
    readMembers read (fuel + 1) first members k = .ok (ms, r) := by
  rw [readMembers, hnext]
  change Except.bind (readString ⟨cs, m + 1⟩) _ = _
  rw [hname]
  change Except.bind (readColon k₁) _ = _
  rw [hcolon]
  change Except.bind (read k₂) _ = _
  rw [hread]
  exact hrest

theorem readMembers_end (hnext : nextKey first k = .ok (false, k₁)) :
    readMembers read (fuel + 1) first members k = .ok (members, k₁) := by
  rw [readMembers, hnext]
  rfl

/-- A name that is not there yet is put last. -/
theorem put_of_not_mem (hname : name ∉ members.map Prod.fst) :
    put name v members = members ++ [(name, v)] := by
  induction members with
  | nil => rfl
  | cons p members ih =>
    rw [List.map_cons, List.mem_cons, not_or] at hname
    rw [put, if_neg (Ne.symm hname.1), ih hname.2, List.cons_append]

/-- The text of a member. -/
def printMember (p : String × Json) : List Char := printString p.1 ++ ':' :: p.2.print

/-- The members of an object are printed with commas between them. -/
theorem printMembers_eq (members : List (String × Json)) :
    printMembers members = [','].intercalate (members.map printMember) := by
  induction members with
  | nil => rfl
  | cons p members ih =>
    cases members with
    | nil => rw [printMembers, List.map_singleton, List.intercalate_singleton, printMember]
    | cons q members =>
      rw [printMembers, ih]
      · simp [printMember]
      · simp

theorem printItems_eq (items : List Json) :
    printItems items = [','].intercalate (items.map print) := by
  induction items with
  | nil => rfl
  | cons v items ih =>
    cases items with
    | nil => rw [printItems, List.map_singleton, List.intercalate_singleton]
    | cons w items =>
      rw [printItems, ih]
      · simp
      · simp

theorem printMember_append (p : String × Json) (rest : List Char) :
    printMember p ++ rest =
      '"' :: (p.1.toList.flatMap escape ++ '"' :: ':' :: (p.2.print ++ rest)) := by
  rw [printMember, printString]
  simp

/-- The first member of an object starts with its name. -/
theorem nextKey_printMember (p : String × Json) (rest : List Char) (n : Nat) :
    nextKey true ⟨printMember p ++ rest, n⟩ = .ok (true, ⟨printMember p ++ rest, n⟩) := by
  rw [printMember_append]
  exact nextKey_first (Cursor.skipBlanks_of_not (by decide) _ _)

theorem readColon_colon (cs : List Char) (n : Nat) :
    readColon ⟨':' :: cs, n⟩ = .ok ((), ⟨cs, n + 1⟩) := rfl

/-- **A member is read** by its name, its colon and its value, and then the members behind it. -/
theorem readMembers_member (members : List (String × Json)) {p : String × Json}
    (hp : Reads read p.2.print p.2) (hrest : Ends rest) {ms : List (String × Json)}
    {after : List Char}
    (hnext : nextKey first k = .ok (true, ⟨printMember p ++ rest, m⟩))
    (hmembers : ∀ gap n, IsGap gap →
      ∃ n', readMembers read fuel false (put p.1 p.2 members) ⟨gap ++ rest, n⟩ =
        .ok (ms, ⟨after, n'⟩)) :
    ∃ n', readMembers read (fuel + 1) first members k = .ok (ms, ⟨after, n'⟩) := by
  rw [printMember_append] at hnext
  obtain ⟨n₁, hname⟩ := readString_escaped p.1 (':' :: (p.2.print ++ rest)) (m + 1)
  obtain ⟨gap, n₂, hgap, hread⟩ := hp rest hrest (n₁ + 1)
  obtain ⟨n', hmore⟩ := hmembers gap n₂ hgap
  exact ⟨n', readMembers_more hnext hname (readColon_colon _ n₁) hread hmore⟩

/-- The members behind the first one are read, up to the end of the object; none of them is one that
was read before. -/
theorem readMembers_following (rest : List Char) {more : List (String × Json)}
    (hnames : ((members ++ more).map Prod.fst).Nodup)
    (hmore : ∀ p ∈ more, Reads read p.2.print p.2) (hgap : IsGap gap) (hfuel : more.length < fuel)
    (n : Nat) :
    ∃ n', readMembers read fuel false members
      ⟨gap ++ (following [] (more.map printMember) ++ '\x7d' :: rest), n⟩ =
        .ok (members ++ more, ⟨rest, n'⟩) := by
  induction more generalizing members gap fuel n with
  | nil =>
    obtain ⟨fuel, rfl⟩ := Nat.exists_eq_add_one_of_ne_zero (Nat.ne_of_gt hfuel)
    rw [List.append_nil]
    exact ⟨_, readMembers_end (nextKey_end (Cursor.blanks_gap hgap (by decide) _ n))⟩
  | cons p more ih =>
    obtain ⟨fuel, rfl⟩ := Nat.exists_eq_add_one_of_ne_zero (Nat.ne_zero_of_lt hfuel)
    obtain ⟨hp, hmore⟩ := List.forall_mem_cons.1 hmore
    have hfresh : p.1 ∉ members.map Prod.fst := by
      rw [List.map_append, List.map_cons] at hnames
      exact fun h => (List.nodup_append.1 hnames).2.2 _ h _ List.mem_cons_self rfl
    have hput : put p.1 p.2 members ++ more = members ++ p :: more := by
      rw [put_of_not_mem hfresh, List.append_assoc, List.singleton_append]
    have htext : following [] ((p :: more).map printMember) ++ '\x7d' :: rest =
        ',' :: (printMember p ++ (following [] (more.map printMember) ++ '\x7d' :: rest)) := by
      simp [following]
    rw [htext, ← hput]
    have hends := ends_following [] (more.map printMember) (.inr rfl) rest
    refine readMembers_member members hp hends (m := n + gap.length + 1) ?_
      fun gap' n' hgap' => ih (hput ▸ hnames) hmore hgap' (Nat.lt_of_succ_lt_succ hfuel) n'
    have hcomma := Cursor.blanks_gap hgap isGap_comma
      (printMember p ++ (following [] (more.map printMember) ++ '\x7d' :: rest)) n
    rw [printMember_append] at hcomma ⊢
    exact nextKey_comma hcomma (Cursor.skipBlanks_of_not (by decide) _ _)

theorem value_object {r : Cursor}
    (h : readMembers (value (depth + 1)) (cs.length + 1) true [] ⟨cs, n + 1⟩ = .ok (members, r)) :
    value (depth + 2) ⟨'\x7b' :: cs, n⟩ = .ok (.object members, r) := by
  rw [value]
  change Except.bind (readMembers (value (depth + 1)) (cs.length + 1) true [] ⟨cs, n + 1⟩) _ = _
  rw [h]
  rfl

/-- **An object is read** if the values of its members are, and no name stands twice. -/
theorem reads_object (hnames : (members.map Prod.fst).Nodup)
    (hmembers : ∀ p ∈ members, Reads (value (depth + 1)) p.2.print p.2) :
    Reads (value (depth + 2)) ('\x7b' :: ([','].intercalate (members.map printMember) ++ ['\x7d']))
      (.object members) := by
  intro rest _ n
  rw [List.cons_append, List.append_assoc, List.singleton_append]
  cases members with
  | nil =>
    have hend : nextKey true ⟨'\x7d' :: rest, n + 1⟩ = .ok (false, ⟨rest, n + 2⟩) := rfl
    exact ⟨[], _, isGap_nil, value_object (readMembers_end hend)⟩
  | cons p members =>
    obtain ⟨hp, hmembers⟩ := List.forall_mem_cons.1 hmembers
    rw [List.map_cons, intercalate_eq, List.append_assoc]
    have hfuel := lt_length_following (printMember p) [] (members.map printMember) '\x7d' rest
    rw [List.length_map] at hfuel
    obtain ⟨n', hread⟩ := readMembers_member [] hp
      (ends_following [] (members.map printMember) (.inr rfl) rest)
      (nextKey_printMember p _ (n + 1))
      fun gap n hgap => readMembers_following rest hnames hmembers hgap hfuel n
    exact ⟨[], n', isGap_nil, value_object hread⟩

end Objects

/-! ## Values -/

mutual

/-- How many levels of lists and objects a value has. -/
def nesting : Json → Nat
  | .array items => nestingItems items + 1
  | .object members => nestingMembers members + 1
  | _ => 0

/-- The most levels that an element has. -/
def nestingItems : List Json → Nat
  | [] => 0
  | v :: rest => max v.nesting (nestingItems rest)

/-- The most levels that the value of a member has. -/
def nestingMembers : List (String × Json) → Nat
  | [] => 0
  | (_, v) :: rest => max v.nesting (nestingMembers rest)

end

/-- **A value as it can be held**: its integers have 64 bits, its doubles are read from their own
texts, and no name stands twice in an object. Its strings may have any letters. -/
inductive Proper : Json → Prop where
  | null : Proper .null
  | bool (b : Bool) : Proper (.bool b)
  | integer {i : Int} : -2 ^ 63 ≤ i → i < 2 ^ 64 → Proper (.number (.integer i))
  | real {x : Decimal.Binary} : parse (Json.real x).compact = .ok (.real x) →
      Proper (.number (.real x))
  | string (s : String) : Proper (.string s)
  | array {items : List Json} : (∀ v ∈ items, Proper v) → Proper (.array items)
  | object {members : List (String × Json)} : (members.map Prod.fst).Nodup →
      (∀ p ∈ members, Proper p.2) → Proper (.object members)

section Values

variable {v : Json} {depth : Nat}

/-- An item is not nested more deeply than the list. -/
theorem nesting_le_items {items : List Json} (hv : v ∈ items) : v.nesting ≤ nestingItems items := by
  induction items with
  | nil => exact absurd hv List.not_mem_nil
  | cons w items ih =>
    rw [nestingItems]
    rcases List.mem_cons.1 hv with rfl | hv
    · exact Nat.le_max_left _ _
    · exact Nat.le_trans (ih hv) (Nat.le_max_right _ _)

/-- A member is not nested more deeply than the object. -/
theorem nesting_le_members {members : List (String × Json)} {p : String × Json} (hp : p ∈ members) :
    p.2.nesting ≤ nestingMembers members := by
  induction members with
  | nil => exact absurd hp List.not_mem_nil
  | cons q members ih =>
    rw [nestingMembers]
    rcases List.mem_cons.1 hp with rfl | hp
    · exact Nat.le_max_left _ _
    · exact Nat.le_trans (ih hp) (Nat.le_max_right _ _)

/-- **What is printed is read**, by a reader with levels enough. -/
theorem Proper.reads (hv : v.Proper) (hdepth : v.nesting ≤ depth) :
    Reads (value (depth + 1)) v.print v := by
  induction hv generalizing depth with
  | null => exact fun rest _ n => ⟨[], n + 4, isGap_nil, rfl⟩
  | bool b =>
    cases b with
    | true => exact fun rest _ n => ⟨[], n + 4, isGap_nil, rfl⟩
    | false => exact fun rest _ n => ⟨[], n + 5, isGap_nil, rfl⟩
  | integer hlow hhigh => exact reads_integer hlow hhigh
  | real hx => exact reads_real hx
  | string s => exact reads_string s
  | array hitems ih =>
    rw [nesting] at hdepth
    obtain ⟨depth, rfl⟩ := Nat.exists_eq_add_one_of_ne_zero (Nat.ne_zero_of_lt hdepth)
    rw [print, printItems_eq]
    exact reads_list isGap_nil fun v hv =>
      ih v hv (Nat.le_trans (nesting_le_items hv) (Nat.le_of_succ_le_succ hdepth))
  | object hnames hmembers ih =>
    rw [nesting] at hdepth
    obtain ⟨depth, rfl⟩ := Nat.exists_eq_add_one_of_ne_zero (Nat.ne_zero_of_lt hdepth)
    rw [print, printMembers_eq]
    exact reads_object hnames fun p hp =>
      ih p hp (Nat.le_trans (nesting_le_members hp) (Nat.le_of_succ_le_succ hdepth))

end Values

end Json
end ConsentWalker
