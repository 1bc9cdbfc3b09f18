import ConsentWalker.Proofs.Walk.Entering
/-!
# Walk — what is found, and where

A query on a page that answers comes to pairs of places: each match, with the place it was looked
for in when the query has a parent. Where all selectors are valid nothing but a base that is gone
makes it fail, and `Sight.pairs` are said in terms of the tree alone (`seekPairs_eq`, `pairs_eq`): a
match is an element below that passes the tests of the query all at once (`Sight.meets`). That the
filters are passed one after another makes no difference, and neither does their order
(`passing_all`).

`findAll_pairs` is that looking for every element finds the pairs and looking for one the first of
them, if the selectors are valid. Where the base of a query is gone, nothing is found by either.
-/

namespace ConsentWalker

/-! ## Valid queries -/

namespace Query

mutual

/-- Whether the selectors of a query are valid, along its parents and inside its matches. -/
def isValid : Query → Bool
  | ⟨selector, _, _, _, _, childFilter, parent⟩ =>
    (Css.Selector.parse selector).toBool && isValidIf childFilter && isValidIf parent

/-- Those of a query if there is one. -/
def isValidIf : Option Query → Bool
  | none => true
  | some q => q.isValid

end

variable {q other : Query}

/-- What a valid query asks for inside its matches is valid. -/
theorem isValid_childFilter (hq : q.isValid = true) (h : q.childFilter = some other) :
    other.isValid = true := by
  obtain ⟨selector, tf, sf, df, iff, child, parent⟩ := q
  obtain rfl : child = some other := h
  obtain ⟨hq, -⟩ := Bool.and_eq_true_iff.1 hq
  exact (Bool.and_eq_true_iff.1 hq).2

/-- So is its parent. -/
theorem isValid_parent (hq : q.isValid = true) (h : q.parent = some other) :
    other.isValid = true := by
  obtain ⟨selector, tf, sf, df, iff, child, parent⟩ := q
  obtain rfl : parent = some other := h
  exact (Bool.and_eq_true_iff.1 hq).2

end Query

/-! ## Pairs of places -/

/-- Whether a selector matches the element at a place. -/
def Css.matchesAt (selector : String) (t : Place) : Bool :=
  (Css.Selector.parse selector).toOption.any fun selectors => Css.selects selectors t

namespace Sight

variable (s : Sight)

/-- The tests of a query: for its selector and for each filter, with one for what stands inside. -/
def testsOf (selector : String) (textFilter : Option TextFilter) (styleFilters : List StyleFilter)
    (displayFilter iframeFilter : Option Bool) (inside : Option (Place → Bool)) :
    List (Place → Bool) :=
  [Css.matchesAt selector] ++
    textFilter.toList.map (fun f t => f.accepts t.node.text) ++
    styleFilters.map (fun f t => t.element?.any fun e => f.accepts (e.style f.option)) ++
    displayFilter.toList.map (fun b t => (s.rect t).isTall == b) ++
    iframeFilter.toList.map (fun b _ => s.nested == b) ++
    inside.toList

/-- The places below a place that pass all tests. -/
def passing (tests : List (Place → Bool)) (o : Place) : List Place :=
  o.below.filter fun t => tests.all fun test => test t

/-- What passes tests below a place, or below each of some others, each paired with where it was
looked for. -/
def pairUp (tests : List (Place → Bool)) (o : Place) :
    Option (List Place) → List (Option Place × Place)
  | none => (passing tests o).map fun t => (none, t)
  | some parents => parents.flatMap fun p => (passing tests p).map fun t => (some p, t)

/-- **The pairs that a query is about** below a place, none if it cannot be answered. With `plural`
every match of its parent counts, else the first. -/
def pairs (plural : Bool) (q : Query) (o : Place) : List (Option Place × Place) :=
  (s.seekPairs plural q (.ok o)).toOption.getD []

/-- Whether a child filter finds one element inside. -/
def hasInside (childFilter : Option Query) : Option (Place → Bool) :=
  childFilter.map fun child t => (s.pairs false child t).head?.isSome

/-- The matches of a parent query that count. -/
def targets (plural : Bool) (parent : Query) (o : Place) : List Place :=
  let found := (s.pairs plural parent o).map Prod.snd
  if plural then found else found.head?.toList

/-- The tests of a query. -/
def tests (q : Query) : List (Place → Bool) :=
  s.testsOf q.selector q.textFilter q.styleFilters q.displayFilter q.iframeFilter
    (s.hasInside q.childFilter)

/-- **Whether an element passes all tests of a query at once.** -/
def meets (q : Query) (t : Place) : Bool := (s.tests q).all fun test => test t

variable {s} {selector : String} {textFilter : Option TextFilter} {styleFilters : List StyleFilter}
  {displayFilter iframeFilter : Option Bool} {inside : Option (Place → Bool)} {q parent : Query}
  {o : Place} {plural : Bool}

/-- Passing one test after another comes to passing them all. -/
theorem foldl_filter (tests : List (Place → Bool)) (ts : List Place) :
    tests.foldl (fun ts test => ts.filter test) ts =
      ts.filter fun t => tests.all fun test => test t := by
  induction tests generalizing ts with
  | nil => exact (List.filter_eq_self.2 fun _ _ => rfl).symm
  | cons test tests ih =>
    rw [List.foldl_cons, ih, List.filter_filter]
    congr 1
    funext t
    rw [List.all_cons, Bool.and_comm]

/-- **The order of the filters makes no difference**, nor that they are passed one after another. -/
theorem passing_all {tests : List (Place → Bool)} (htests : tests.Perm (s.tests q)) (o : Place) :
    tests.foldl (fun ts test => ts.filter test) o.below = o.below.filter (s.meets q) := by
  rw [foldl_filter]
  congr 1
  funext t
  exact htests.all_eq

/-! ## Sifting -/

/-- All tests are passed if the selector matches, the filters for the element alone are passed, and
what is asked for inside is there. -/
theorem all_testsOf (t : Place) :
    ((s.testsOf selector textFilter styleFilters displayFilter iframeFilter inside).all
        fun test => test t) =
      (Css.matchesAt selector t && s.admits textFilter styleFilters displayFilter iframeFilter t &&
        inside.all fun test => test t) := by
  unfold testsOf admits admitsStyle
  simp only [List.all_append, List.all_map, List.all_cons, List.all_nil, Bool.and_true]
  cases textFilter <;> cases displayFilter <;> cases iframeFilter <;> cases inside <;>
    simp [Function.comp_def, Bool.and_assoc]

/-- **Sifting with a valid selector** comes to what passes all tests, wherever it is done. -/
theorem sift_eq (hselector : (Css.Selector.parse selector).toBool = true)
    (origin : Except PageError Place) :
    s.sift selector textFilter styleFilters displayFilter iframeFilter
      (inside.map fun test t => pure (test t)) origin = origin.map
        (passing
          (s.testsOf selector textFilter styleFilters displayFilter iframeFilter inside)) := by
  cases hparse : Css.Selector.parse selector with
  | error flaw =>
    rw [hparse] at hselector
    cases hselector
  | ok selectors =>
    unfold sift select
    rw [hparse]
    cases origin with
    | error e => rfl
    | ok o =>
      have hpassing : passing
          (s.testsOf selector textFilter styleFilters displayFilter iframeFilter inside) o =
          ((o.below.filter (Css.selects selectors)).filter
            (s.admits textFilter styleFilters displayFilter iframeFilter)).filter
              fun t => inside.all fun test => test t := by
        unfold passing
        rw [List.filter_filter, List.filter_filter]
        congr 1
        funext t
        rw [all_testsOf]
        unfold Css.matchesAt
        rw [hparse]
        change (Css.selects selectors t && _ && _) = _
        simp only [Bool.and_comm, Bool.and_assoc]
      change keepIf (inside.map fun test t => pure (test t))
        ((o.below.filter (Css.selects selectors)).filter
          (s.admits textFilter styleFilters displayFilter iframeFilter)) = .ok (passing _ o)
      rw [hpassing]
      cases inside with
      | none => exact congrArg Except.ok (List.filter_eq_self.2 fun _ _ => rfl).symm
      | some test => exact keep_pure test _

/-- What is spread from an origin, or from the parents that it has, is paired up there. -/
theorem spread_eq (tests : List (Place → Bool)) (parents : Option (Place → List Place))
    (origin : Except PageError Place) :
    spread (Except.map (passing tests)) origin (parents.map fun f => origin.map f) =
      origin.map fun o => pairUp tests o (parents.map fun f => f o) := by
  cases origin with
  | error e => cases parents <;> rfl
  | ok o =>
    cases parents with
    | none => rfl
    | some f =>
      have hpaired : ((f o).mapM fun p => pure ((passing tests p).map fun t => (some p, t)) :
          Except PageError (List (List (Option Place × Place)))) =
          pure ((f o).map fun p => (passing tests p).map fun t => (some p, t)) := List.mapM_pure
      exact congrArg (fun x => x >>= fun found => pure found.flatten) hpaired

/-! ## Pairs of valid queries -/

mutual

/-- **What a valid query finds** are the matches below the origin, or below the targets of its
parent, each paired with where it was looked for. -/
theorem seekPairs_map (s : Sight) : (q : Query) → q.isValid = true → ∀ plural origin,
    s.seekPairs plural q origin =
      origin.map fun o => pairUp (s.tests q) o (q.parent.map fun p => s.targets plural p o)
  | ⟨selector, tf, sf, df, iff, child, parent⟩, hvalid, plural, origin => by
    obtain ⟨hvalid, hparent⟩ := Bool.and_eq_true_iff.1 hvalid
    obtain ⟨hselector, hchild⟩ := Bool.and_eq_true_iff.1 hvalid
    have hnarrow : s.sift selector tf sf df iff (s.childSeen child) = Except.map (passing
        (s.testsOf selector tf sf df iff (s.hasInside child))) := by
      rw [childSeen_map s child hchild]
      exact funext (sift_eq hselector)
    have hparents : s.parentsSeen plural parent origin =
        (parent.map fun p => s.targets plural p).map fun f => origin.map f := by
      rw [parentsSeen_map s parent hparent, Option.map_map]
      rfl
    rw [seekPairs, hnarrow, hparents, spread_eq]
    simp only [Option.map_map]
    rfl

/-- What is asked for inside a match is there or not. -/
theorem childSeen_map (s : Sight) : (child : Option Query) → Query.isValidIf child = true →
    s.childSeen child = (s.hasInside child).map fun test t => pure (test t)
  | none, _ => rfl
  | some child, hchild => by
    rw [childSeen]
    refine congrArg some (funext fun t => ?_)
    change (do return (← s.seekPairs false child (.ok t)).head?.isSome) =
      pure (s.pairs false child t).head?.isSome
    unfold pairs
    rw [seekPairs_map s child hchild]
    rfl

/-- The matches of the parent that count are its targets. -/
theorem parentsSeen_map (s : Sight) : (parent : Option Query) → Query.isValidIf parent = true →
    ∀ plural origin,
      s.parentsSeen plural parent origin = parent.map fun p => origin.map (s.targets plural p)
  | none, _, _, _ => rfl
  | some parent, hparent, plural, origin => by
    have htargets : s.targets plural parent = fun o =>
        let found := (pairUp (s.tests parent) o (parent.parent.map fun p =>
          s.targets plural p o)).map Prod.snd
        if plural then found else found.head?.toList := by
      funext o
      conv_lhs => unfold targets pairs
      rw [seekPairs_map s parent hparent]
      rfl
    rw [parentsSeen, seekPairs_map s parent hparent, Option.map_some, htargets]
    cases origin <;> rfl

end

/-- **The pairs of a valid query**, in terms of the tree. -/
theorem pairs_eq (s : Sight) (hq : q.isValid = true) (plural : Bool) (o : Place) :
    s.pairs plural q o = pairUp (s.tests q) o (q.parent.map fun p => s.targets plural p o) := by
  unfold pairs
  rw [seekPairs_map s q hq]
  rfl

/-- **A valid query can be answered** wherever there is an origin. -/
theorem seekPairs_eq (s : Sight) (hq : q.isValid = true) (plural : Bool)
    (origin : Except PageError Place) :
    s.seekPairs plural q origin = origin.map (s.pairs plural q) := by
  rw [seekPairs_map s q hq, funext (pairs_eq s hq plural)]

/-- A valid query without a parent is about what passes its tests below the place. -/
theorem pairs_parentless (s : Sight) (hq : q.isValid = true) (plural : Bool) (h : q.parent = none)
    (o : Place) : s.pairs plural q o = (passing (s.tests q) o).map fun t => (none, t) := by
  rw [pairs_eq s hq, h]
  rfl

/-- A valid query with a parent is about what passes its tests below each target of the parent. -/
theorem pairs_within (s : Sight) (hq : q.isValid = true) (h : q.parent = some parent) (o : Place) :
    s.pairs true q o = ((s.pairs true parent o).map Prod.snd).flatMap fun p =>
      (passing (s.tests q) p).map fun t => (some p, t) := by
  rw [pairs_eq s hq, h]
  rfl

/-! ## Findings and pairs -/

variable {p : Page} {base : Option Handle}

/-- **Resolving a valid query finds the pairs it is about**, or fails because its base is gone. -/
theorem resolve_pairs (hq : q.isValid = true) (plural : Bool) (hp : p.Sound)
    (hopen : p.closed = false) (base : Option Handle) :
    (q.resolve plural base).Means p Page.TellsAll
      ((p.origin base).map (p.sight.pairs plural q)) := by
  rw [← seekPairs_eq _ hq]
  exact resolve_tells plural q base p hp hopen

/-- Looking for one element finds the first pair. -/
theorem find_pair (hq : q.isValid = true) (hp : p.Sound) (hopen : p.closed = false)
    (base : Option Handle) :
    (q.find base).Means p Page.TellsFirst
      ((p.origin base).map fun o => (p.sight.pairs false q o).head?) := by
  have hmeant : (p.origin base).map (fun o => (p.sight.pairs false q o).head?) =
      (do return (← p.sight.seekPairs false q (p.origin base)).head?) := by
    rw [seekPairs_eq _ hq]
    cases p.origin base <;> rfl
  rw [hmeant]
  exact find_tells hp hopen q base

end Sight

/-- What means something that does not fail comes to it. -/
theorem Lookup.Means.answers {α β : Type} {look : Lookup α} {p : Page} {R : Page → α → β → Prop}
    {b : β} (hlook : look.Means p R (.ok b)) :
    ∃ a p', look.run.readOn p = (.ok a, p') ∧ p'.Sound ∧ R p' a b := by
  obtain ⟨-, hsound, hagree⟩ := hlook
  generalize hr : (look.run.readOn p).1 = r at hagree
  cases hagree with
  | ok hR => exact ⟨_, _, Prod.ext hr rfl, hsound, hR⟩

/-- What means that something fails fails, and for that reason. -/
theorem Lookup.Means.fails {α β : Type} {look : Lookup α} {p : Page} {R : Page → α → β → Prop}
    {e : PageError} (hlook : look.Means p R (.error e)) :
    (look.run.readOn p).1 = .error e := by
  obtain ⟨-, -, hagree⟩ := hlook
  generalize (look.run.readOn p).1 = r at hagree
  cases hagree
  rfl

namespace Query

variable {p : Page} {q : Query} {base : Option Handle} {o : Place}

/-- What a child filter asks for is found if the test for it is passed. -/
theorem find_inside (hp : p.Reached) (hopen : p.closed = false) {child : Query}
    (hchild : child.isValid = true) {h : Handle} {t : Place} (hd : p.Denotes h t) :
    ∃ f p', (child.find (some h)).run.readOn p = (.ok f, p') ∧
      f.target.isSome = (p.sight.pairs false child t).head?.isSome := by
  have hmeans := Sight.find_pair hchild hp.sound hopen (some h)
  have horigin : p.origin (some h) = .ok t := hd.located hopen
  rw [horigin] at hmeans
  obtain ⟨f, p', hrun, -, hfirst⟩ := hmeans.answers
  exact ⟨f, p', hrun, Page.TellsFirst.isSome_eq hfirst⟩

/-- **What is found, and where.** On an open page, below a base that is there, looking for every
element finds the pairs of a query whose selectors are all valid, one finding for each, in order.
Without a parent these are what meets the query below the base, with one they are what meets it
below each target of the parent. What meets a query matches its selector and passes the filters that
look at it alone; where there is a child filter, looking for one element inside finds it. It makes
no difference that tests are passed one after another, nor in which order. -/
theorem findAll_pairs (hp : p.Reached) (hopen : p.closed = false) (hq : q.isValid = true)
    (ho : p.origin base = .ok o) :
    (∃ fs p', (q.findAll base).run.readOn p = (.ok fs, p') ∧
      p'.TellsAll fs (p.sight.pairs true q o)) ∧
    (q.parent = none →
      p.sight.pairs true q o = (o.below.filter (p.sight.meets q)).map fun t => (none, t)) ∧
    (∀ parent, q.parent = some parent →
      p.sight.pairs true q o = ((p.sight.pairs true parent o).map Prod.snd).flatMap fun r =>
        (r.below.filter (p.sight.meets q)).map fun t => (some r, t)) ∧
    (q.childFilter = none → ∀ t, p.sight.meets q t = (Css.matchesAt q.selector t &&
      p.sight.admits q.textFilter q.styleFilters q.displayFilter q.iframeFilter t)) ∧
    (∀ child, q.childFilter = some child → ∀ h t, p.Denotes h t →
      ∃ f p', (child.find (some h)).run.readOn p = (.ok f, p') ∧
        p.sight.meets q t = (Css.matchesAt q.selector t &&
          p.sight.admits q.textFilter q.styleFilters q.displayFilter q.iframeFilter t &&
          f.target.isSome)) ∧
    ∀ tests : List (Place → Bool), tests.Perm (p.sight.tests q) → ∀ r : Place,
      tests.foldl (fun ts test => ts.filter test) r.below = r.below.filter (p.sight.meets q) := by
  have hall := Sight.resolve_pairs hq true hp.sound hopen base
  rw [ho] at hall
  have hmeets : ∀ t, p.sight.meets q t = (Css.matchesAt q.selector t &&
      p.sight.admits q.textFilter q.styleFilters q.displayFilter q.iframeFilter t &&
      (p.sight.hasInside q.childFilter).all fun test => test t) := fun t => Sight.all_testsOf t
  obtain ⟨fs, p', hrun, -, htells⟩ := hall.answers
  refine ⟨⟨fs, p', hrun, htells⟩, fun hparent => ?_, fun parent hparent => ?_, fun hchild t => ?_,
    fun child hchild h t hd => ?_, fun tests htests r => ?_⟩
  · exact Sight.pairs_parentless _ hq _ hparent o
  · exact Sight.pairs_within _ hq hparent o
  · rw [hmeets, hchild]
    exact Bool.and_true _
  · obtain ⟨f, p', hrun, hsome⟩ := find_inside hp hopen (isValid_childFilter hq hchild) hd
    refine ⟨f, p', hrun, ?_⟩
    rw [hmeets, hchild, hsome]
    rfl
  · exact Sight.passing_all htests r

/-- The rows in each part that have a checkbox. -/
def boxedRows : Query := rowsInParts.withChild (.new "input")

/-- The one row that there is stands in two parts, one in the other, so that it is found twice. -/
theorem sample_pairs :
    boxedRows.isValid = true ∧ nestedPage.closed = false ∧
    ((nestedPage.sight.pairs true boxedRows (.root nestedPage.root)).map
      fun x => (x.1.map Place.id, x.2.id)) = [(some 2, 4), (some 3, 4)] ∧
    ∃ fs p', (boxedRows.findAll none).run.readOn nestedPage = (.ok fs, p') ∧
      p'.TellsAll fs (nestedPage.sight.pairs true boxedRows (.root nestedPage.root)) := by
  have hvalid : boxedRows.isValid = true := by decide +kernel
  have hpairs : ((nestedPage.sight.pairs true boxedRows (.root nestedPage.root)).map
      fun x => (x.1.map Place.id, x.2.id)) = [(some 2, 4), (some 3, 4)] := by decide +kernel
  have hreached : nestedPage.Reached := .ofTree nestedParts false
  have horigin : nestedPage.origin none = .ok (.root nestedPage.root) := rfl
  obtain ⟨hfound, -⟩ := findAll_pairs hreached rfl hvalid horigin
  exact ⟨hvalid, rfl, hpairs, hfound⟩

end Query
end ConsentWalker
