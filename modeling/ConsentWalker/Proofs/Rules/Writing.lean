import ConsentWalker.Rules.Query
/-!
# Rules — what is written is read back

A query that is written reads as itself, however deep its child filters and parents go. The reader
has more than one reading for some values: a text filter is a text or a list of texts, style filters
stand alone or in a list and are first tried as one filter, and a part that is left out is a
default. So what is shown part by part is that each is written as a value that only has the reading
it came from.

`Query.written` is what a query writes of one part, and `Query.members` the members for a list of
parts. `readMembers_members` reads such members in any order: what the reader has in hand after some
parts is the query with only those parts, `Query.only`.
-/

namespace ConsentWalker

/-! ## Lists -/

/-- If each element is read back from what is written of it, so is a list of them. -/
theorem Json.mapM_map_ok {α : Type} {read : Json.Reader α} {write : α → Json}
    (h : ∀ a, read (write a) = .ok a) (as : List α) : (as.map write).mapM read = .ok as := by
  induction as with
  | nil => rfl
  | cons a as ih =>
    rw [List.map_cons, List.mapM_cons, h a, ih]
    rfl

/-! ## Text filters -/

namespace TextFilter

/-- **A text filter comes back as the variant it was**: a text as one needle, a list of texts as a
list, also if it has one text or none. -/
theorem read_toJson (f : TextFilter) : read f.toJson = .ok f := by
  cases f with
  | one needle => rfl
  | any needles =>
    have htext : ∀ s : String, Json.readText (.string s) = .ok s := fun _ => rfl
    have hread : (needles.map Json.string).mapM Json.readText = .ok needles :=
      Json.mapM_map_ok htext needles
    simp only [toJson, read, hread]

theorem toJson_ne_null (f : TextFilter) : f.toJson ≠ .null := by
  cases f with
  | one needle => exact Json.noConfusion
  | any needles => exact Json.noConfusion

end TextFilter

/-! ## Style filters -/

namespace StyleFilter

theorem read_toJson (f : StyleFilter) : read f.toJson = .ok f := rfl

/-- A list of written filters is no filter: by position the first of its elements would be the name
of a property, and a written filter is not a text. -/
theorem read_array_toJson (fs : List StyleFilter) :
    ∃ e, read (.array (fs.map toJson)) = .error e := by
  cases fs with
  | nil => exact ⟨_, rfl⟩
  | cons f fs => exact ⟨_, rfl⟩

/-- **A list of style filters comes back as that list**, whatever its length. -/
theorem readSome_array_toJson (fs : List StyleFilter) :
    readSome (.array (fs.map toJson)) = .ok fs := by
  obtain ⟨e, hone⟩ := read_array_toJson fs
  have hmany : (fs.map toJson).mapM read = .ok fs := Json.mapM_map_ok read_toJson fs
  simp only [readSome, hone, hmany]

end StyleFilter

namespace Query

/-! ## A query by its parts -/

/-- What a query writes of a part, unless the part is left out. -/
def written (q : Query) : Part → Option Json
  | .selector => some (.string q.selector)
  | .textFilter => q.textFilter.map TextFilter.toJson
  | .styleFilters =>
    if q.styleFilters.isEmpty then none else some (.array (q.styleFilters.map StyleFilter.toJson))
  | .displayFilter => q.displayFilter.map Json.bool
  | .iframeFilter => q.iframeFilter.map Json.bool
  | .childFilter => q.childFilter.map toJson
  | .parent => q.parent.map toJson

/-- The members that a query writes of some of its parts. -/
def members (q : Query) (ps : List Part) : List (String × Json) :=
  ps.flatMap fun p => memberOf p.name id (q.written p)

theorem memberOf_map {α : Type} (name : String) (write : α → Json) (o : Option α) :
    memberOf name id (o.map write) = memberOf name write o := by
  cases o with
  | none => rfl
  | some a => rfl

/-- **A query is written part by part.** -/
theorem toJson_eq (q : Query) : q.toJson = .object (q.members Part.all) := by
  obtain ⟨selector, textFilter, styleFilters, displayFilter, iframeFilter, childFilter, parent⟩ := q
  rw [toJson.eq_def]
  simp only [members, Part.all, Part.name, List.flatMap_cons, List.flatMap_nil, written,
    memberOf_map]
  cases styleFilters <;> cases childFilter <;> cases parent <;> simp [memberOf]

/-- The query with only some of its parts, the others as they are by default. -/
def only (q : Query) (ps : List Part) : Query where
  selector := if .selector ∈ ps then q.selector else ""
  textFilter := if .textFilter ∈ ps then q.textFilter else none
  styleFilters := if .styleFilters ∈ ps then q.styleFilters else []
  displayFilter := if .displayFilter ∈ ps then q.displayFilter else none
  iframeFilter := if .iframeFilter ∈ ps then q.iframeFilter else none
  childFilter := if .childFilter ∈ ps then q.childFilter else none
  parent := if .parent ∈ ps then q.parent else none

theorem only_nil (q : Query) : q.only [] = {} := rfl

theorem only_of_forall_mem {q : Query} {ps : List Part} (h : ∀ p, p ∈ ps) : q.only ps = q := by
  cases q
  simp only [only, h, if_true]

/-- A part that is not written is as it is by default. -/
theorem only_cons_of_unwritten {q : Query} {p : Part} (h : q.written p = none) (ps : List Part) :
    q.only (p :: ps) = q.only ps := by
  cases p <;> simp [written] at h <;> simp [only, h]

/-! ## Reading the parts back -/

theorem Part.ofName?_name (p : Part) : Part.ofName? p.name = some p := by
  cases p <;> rfl

theorem isNull_toJson (q : Query) : q.toJson.isNull = false := by
  rw [toJson_eq]
  rfl

theorem readOptional_of_ne_null {α : Type} {read : Json.Reader α} {v : Json} {a : α}
    (hne : v ≠ .null) (h : read v = .ok a) : Json.readOptional read v = .ok (some a) := by
  have hmap : Json.readOptional read v = (read v).map some := by
    cases v with
    | null => exact absurd rfl hne
    | _ => rfl
  rw [hmap, h]
  rfl

/-- The queries inside a query are read back. -/
def InnerReadBack (q : Query) : Prop :=
  (∀ c, q.childFilter = some c → read c.toJson = .ok c) ∧
    ∀ c, q.parent = some c → read c.toJson = .ok c

/-- **One part is read back**: with its member, the query has one more of its parts. -/
theorem setPart_only {q : Query} (hinner : q.InnerReadBack) {p : Part} {v : Json}
    (h : q.written p = some v) (done : List Part) :
    setPart (q.only done) p v (read v) = .ok (q.only (p :: done)) := by
  obtain ⟨hchild, hparent⟩ := hinner
  cases p with
  | selector =>
    cases h
    simp [setPart, only, Json.readText, bind, Except.bind, pure, Except.pure]
  | textFilter =>
    obtain ⟨f, hf, rfl⟩ := Option.map_eq_some_iff.1 h
    have hread : Json.readOptional TextFilter.read f.toJson = .ok (some f) :=
      readOptional_of_ne_null f.toJson_ne_null f.read_toJson
    simp [setPart, only, hread, hf, bind, Except.bind, pure, Except.pure]
  | styleFilters =>
    have hv : v = .array (q.styleFilters.map StyleFilter.toJson) := by
      simp only [written] at h
      split at h
      · cases h
      · exact (Option.some.inj h).symm
    subst hv
    have hread := StyleFilter.readSome_array_toJson q.styleFilters
    simp [setPart, only, hread, bind, Except.bind, pure, Except.pure]
  | displayFilter =>
    obtain ⟨b, hb, rfl⟩ := Option.map_eq_some_iff.1 h
    have hread : Json.readOptional Json.readBool (.bool b) = .ok (some b) := rfl
    simp [setPart, only, hread, hb, bind, Except.bind, pure, Except.pure]
  | iframeFilter =>
    obtain ⟨b, hb, rfl⟩ := Option.map_eq_some_iff.1 h
    have hread : Json.readOptional Json.readBool (.bool b) = .ok (some b) := rfl
    simp [setPart, only, hread, hb, bind, Except.bind, pure, Except.pure]
  | childFilter =>
    obtain ⟨c, hc, rfl⟩ := Option.map_eq_some_iff.1 h
    simp [setPart, only, isNull_toJson, hchild c hc, hc, bind, Except.bind, pure, Except.pure]
  | parent =>
    obtain ⟨c, hc, rfl⟩ := Option.map_eq_some_iff.1 h
    simp [setPart, only, isNull_toJson, hparent c hc, hc, bind, Except.bind, pure, Except.pure]

/-- **The members of a query are read back, in any order**: after those for `done` come those for
`parts`, and then the query has both. `seen` are the parts that had a member; the selector always
has one. -/
theorem readMembers_members {q : Query} (hinner : q.InnerReadBack) {parts done seen : List Part}
    (hnodup : parts.Nodup) (hnew : ∀ p ∈ parts, p ∉ done) (hseen : ∀ p ∈ seen, p ∈ done)
    (hselector : .selector ∈ parts ∨ .selector ∈ seen) :
    readMembers seen (q.only done) (q.members parts) = .ok (q.only (parts.reverse ++ done)) := by
  induction parts generalizing done seen with
  | nil =>
    have hmem : .selector ∈ seen := hselector.resolve_left List.not_mem_nil
    simp [members, readMembers, hmem]
  | cons p parts ih =>
    obtain ⟨hp, hnodup⟩ := List.nodup_cons.1 hnodup
    obtain ⟨hpdone, hnew⟩ := List.forall_mem_cons.1 hnew
    have hnew' : ∀ r ∈ parts, r ∉ p :: done := by
      intro r hr hmem
      rcases List.mem_cons.1 hmem with rfl | hdone
      · exact hp hr
      · exact hnew r hr hdone
    have happend : (p :: parts).reverse ++ done = parts.reverse ++ p :: done := by simp
    rw [happend]
    cases hw : q.written p with
    | none =>
      -- nothing is written, and the part is a default already
      have hne : p ≠ .selector := by
        rintro rfl
        cases hw
      have hmembers : q.members (p :: parts) = q.members parts := by
        simp [members, hw, memberOf]
      rw [hmembers, ← only_cons_of_unwritten hw]
      refine ih hnodup hnew' (fun r hr => List.mem_cons_of_mem _ (hseen r hr)) ?_
      exact hselector.imp_left fun hmem => (List.mem_cons.1 hmem).resolve_left (Ne.symm hne)
    | some v =>
      have hmembers : q.members (p :: parts) = (p.name, v) :: q.members parts := by
        simp [members, hw, memberOf]
      have hpseen : p ∉ seen := fun hmem => hpdone (hseen p hmem)
      rw [hmembers, readMembers]
      simp only [Part.ofName?_name, if_neg hpseen, setPart_only hinner hw]
      refine ih hnodup hnew' (fun r hr => ?_) ?_
      · rcases List.mem_cons.1 hr with rfl | hr
        · exact List.mem_cons_self
        · exact List.mem_cons_of_mem _ (hseen r hr)
      · rcases hselector with hmem | hmem
        · rcases List.mem_cons.1 hmem with heq | hmem
          · exact .inr (heq ▸ List.mem_cons_self)
          · exact .inl hmem
        · exact .inr (List.mem_cons_of_mem _ hmem)

/-- A query whose inner queries are read back is read from its members, in whatever order they
stand. -/
theorem read_members {q : Query} (hinner : q.InnerReadBack) {parts : List Part}
    (hnodup : parts.Nodup) (hall : ∀ p, p ∈ parts) : read (.object (q.members parts)) = .ok q := by
  have hmembers : readMembers [] (q.only []) (q.members parts) =
      .ok (q.only (parts.reverse ++ [])) :=
    readMembers_members hinner hnodup (fun _ _ => List.not_mem_nil) (fun _ => id) (.inl (hall _))
  rw [only_nil] at hmembers
  rw [read, hmembers, List.append_nil, only_of_forall_mem fun p => List.mem_reverse.2 (hall p)]

/-- **What a query writes reads as that query**, by induction on the queries inside it. -/
theorem read_toJson (q : Query) : read q.toJson = .ok q := by
  have hinner : q.InnerReadBack := by
    constructor
    · intro c hc
      exact read_toJson c
    · intro c hc
      exact read_toJson c
  rw [toJson_eq]
  refine read_members hinner (by decide) ?_
  intro p
  cases p <;> decide
termination_by sizeOf q
decreasing_by
  all_goals
    cases q
    cases hc
    simp
    omega

/-- **Every query is read back from what is written of it**: any texts, any filters, and queries
inside it to any depth. A list of style filters comes back as that list, of whatever length, and a
text filter as the text or the list of texts it was. -/
theorem written_reads_back (q : Query) :
    read q.toJson = .ok q ∧
      (∀ fs : List StyleFilter,
        StyleFilter.readSome (.array (fs.map StyleFilter.toJson)) = .ok fs) ∧
      ∀ f : TextFilter, TextFilter.read f.toJson = .ok f :=
  ⟨read_toJson q, StyleFilter.readSome_array_toJson, TextFilter.read_toJson⟩

end Query
end ConsentWalker
