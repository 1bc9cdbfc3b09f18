import Mathlib.Data.List.Forall2
import ConsentWalker.Proofs.Json.Fitting
import ConsentWalker.Proofs.Page.Reached
import ConsentWalker.Walk.Finding
/-!
# Walk — what queries mean

A query is resolved by asking the page about handles. What it comes to is said here of places, with
no handle and no page that grows meanwhile: `Sight.seek` gives the places a query finds below an
origin, and depends on where nodes stand and on nothing else that a page keeps.

So queries find the same whatever was checked, hidden or outlined since (`Keeps.sight_eq`).
-/

namespace ConsentWalker

/-- **What queries see of a page**, besides the nodes around an origin. -/
structure Sight where
  rect : Place → Rect
  nested : Bool

namespace Page

variable {p p' : Page}

/-- What queries see of a page. -/
def sight (p : Page) : Sight := ⟨p.layout, p.nested⟩

/-- The place below which a base asks for matches. -/
def origin (p : Page) : Option Handle → Except PageError Place
  | none => .ok (.root p.root)
  | some h => located h p

/-- **The layout is that of the tree.** -/
theorem Keeps.sight_eq (h : p.Keeps p') : p'.sight = p.sight := by
  have hlayout : p'.layout = p.layout := by
    funext place
    unfold layout
    rw [h.places_eq]
  unfold sight
  rw [hlayout, h.nested]

/-- An origin stays where it is. -/
theorem Keeps.origin_eq (hk : p.Keeps p') (hclosed : p'.closed = p.closed) {base : Option Handle}
    {o : Place} (ho : p.origin base = .ok o) : p'.origin base = .ok o := by
  unfold origin at *
  cases base with
  | none =>
    rw [hk.root]
    exact ho
  | some h =>
    dsimp only at *
    unfold located opened at *
    rw [hclosed]
    split at ho
    · cases ho
    · next hopen =>
      rw [if_neg hopen]
      simp only [Except.bind] at *
      cases hplace : p.place? h with
      | none =>
        rw [hplace] at ho
        cases ho
      | some q =>
        rw [hplace] at ho
        rw [hk.place? hplace]
        exact ho

/-- What stands below an origin stands in the page, in one piece. -/
theorem origin_infix {base : Option Handle} {o : Place} (ho : p.origin base = .ok o) :
    o.below <:+: p.places := by
  cases base with
  | none =>
    cases ho
    exact List.infix_rfl
  | some h => exact Place.below_infix (located_mem ho)

end Page

/-! ## What is meant -/

namespace Sight

/-- The places below an origin that a selector matches. -/
def select (selector : String) (origin : Except PageError Place) : Except PageError (List Place) :=
  match Css.Selector.parse selector with
  | .error flaw => .error (.invalidSelector selector flaw.message)
  | .ok selectors => origin.map fun o => o.below.filter (Css.selects selectors)

variable (s : Sight)

/-- Whether the element at a place has a style as filters ask for. -/
def admitsStyle (fs : List StyleFilter) (q : Place) : Bool :=
  fs.all fun f => q.element?.any fun e => f.accepts (e.style f.option)

/-- Whether the element at a place passes the filters that look at it alone. -/
def admits (textFilter : Option TextFilter) (styleFilters : List StyleFilter)
    (displayFilter iframeFilter : Option Bool) (q : Place) : Bool :=
  textFilter.all (fun f => f.accepts q.node.text) && admitsStyle styleFilters q &&
    displayFilter.all (fun b => (s.rect q).isTall == b) && iframeFilter.all (fun b => s.nested == b)

/-- The places that pass a test, which may fail. -/
def keep (test : Place → Except PageError Bool) : List Place → Except PageError (List Place)
  | [] => return []
  | q :: rest => do
    let passed ← test q
    let kept ← keep test rest
    return if passed then q :: kept else kept

/-- The places that pass a test, if there is one. -/
def keepIf (test? : Option (Place → Except PageError Bool)) (qs : List Place) :
    Except PageError (List Place) :=
  match test? with
  | none => return qs
  | some test => keep test qs

/-- The matches below an origin that pass all filters. -/
def sift (selector : String) (textFilter : Option TextFilter) (styleFilters : List StyleFilter)
    (displayFilter iframeFilter : Option Bool)
    (childFilter : Option (Place → Except PageError Bool)) (origin : Except PageError Place) :
    Except PageError (List Place) := do
  let matched ← select selector origin
  keepIf childFilter
    (matched.filter (s.admits textFilter styleFilters displayFilter iframeFilter))

/-- What is found below the origin where no parents are asked for, else below each of the parents,
in their order. Each match is paired with the place it was looked for in. -/
def spread (narrow : Except PageError Place → Except PageError (List Place))
    (origin : Except PageError Place) :
    Option (Except PageError (List Place)) → Except PageError (List (Option Place × Place))
  | none => do return (← narrow origin).map fun t => (none, t)
  | some parents => do
    let found ← (← parents).mapM fun q => do return (← narrow (.ok q)).map fun t => (some q, t)
    return found.flatten

mutual

/-- **What a query finds** below an origin: each match, with the place it was looked for in where
that had to be found too. With `plural` every match of its parent counts, else the first. -/
def seekPairs (plural : Bool) :
    Query → Except PageError Place → Except PageError (List (Option Place × Place))
  | ⟨selector, textFilter, styleFilters, displayFilter, iframeFilter, childFilter, parent⟩,
      origin =>
    let narrow :=
      s.sift selector textFilter styleFilters displayFilter iframeFilter (childSeen childFilter)
    spread narrow origin (parentsSeen plural parent origin)

/-- Whether a child filter finds something inside an element. -/
def childSeen : Option Query → Option (Place → Except PageError Bool)
  | none => none
  | some child => some fun q => do
    let found ← seekPairs false child (.ok q)
    return found.head?.isSome

/-- The matches of a parent query that count. -/
def parentsSeen (plural : Bool) :
    Option Query → Except PageError Place → Option (Except PageError (List Place))
  | none, _ => none
  | some p, origin => some do
    let targets := (← seekPairs plural p origin).map Prod.snd
    return if plural then targets else targets.head?.toList

end

/-- **The places a query finds** below an origin, wherever they were looked for. -/
def seek (plural : Bool) (q : Query) (origin : Except PageError Place) :
    Except PageError (List Place) := do
  return (← s.seekPairs plural q origin).map Prod.snd

end Sight

namespace Sight

variable {s : Sight} {plural : Bool} {q parent : Query} {o : Place}
  {origin : Except PageError Place} {qs : List Place}

/-! ## What is found -/

/-- What is selected are elements of the page. -/
theorem select_mem {p : Page} {base : Option Handle} {selector : String}
    (h : select selector (p.origin base) = .ok qs) :
    ∀ q ∈ qs, q ∈ p.places ∧ q.node.isElement = true := by
  intro q hq
  unfold select at h
  cases hsel : Css.Selector.parse selector with
  | error flaw =>
    rw [hsel] at h
    cases h
  | ok selectors =>
    rw [hsel] at h
    cases ho : p.origin base with
    | error e =>
      rw [ho] at h
      cases h
    | ok o =>
      rw [ho] at h
      cases h
      obtain ⟨hbelow, hselects⟩ := List.mem_filter.1 hq
      exact ⟨(Page.origin_infix ho).subset hbelow, Css.isElement_of_selects hselects⟩

/-- Keeping changes neither the order nor what is kept. -/
theorem keep_sublist {test : Place → Except PageError Bool} {qs kept : List Place}
    (h : keep test qs = .ok kept) : kept.Sublist qs := by
  induction qs generalizing kept with
  | nil =>
    cases h
    exact .slnil
  | cons q qs ih =>
    rw [keep] at h
    cases ht : test q with
    | error e =>
      rw [ht] at h
      cases h
    | ok passed =>
      cases hk : keep test qs with
      | error e =>
        rw [ht, hk] at h
        cases h
      | ok rest =>
        rw [ht, hk] at h
        cases h
        cases passed with
        | true => exact (ih hk).cons_cons q
        | false => exact (ih hk).cons q

/-- What is sifted stands below the origin, in document order. -/
theorem sift_sublist {selector : String} {textFilter : Option TextFilter}
    {styleFilters : List StyleFilter} {displayFilter iframeFilter : Option Bool}
    {childFilter : Option (Place → Except PageError Bool)}
    (h : s.sift selector textFilter styleFilters displayFilter iframeFilter childFilter (.ok o) =
      .ok qs) : qs.Sublist o.below := by
  unfold sift select at h
  cases hsel : Css.Selector.parse selector with
  | error flaw =>
    rw [hsel] at h
    cases h
  | ok selectors =>
    rw [hsel] at h
    have hmatched : (o.below.filter (Css.selects selectors)).Sublist o.below := List.filter_sublist
    have hadmitted : ∀ f : Place → Bool,
        ((o.below.filter (Css.selects selectors)).filter f).Sublist o.below :=
      fun f => List.filter_sublist.trans hmatched
    cases childFilter with
    | none =>
      cases h
      exact hadmitted _
    | some test => exact (keep_sublist h).trans (hadmitted _)

/-- What is related to one of some things in order is related to one of them. -/
theorem mem_of_forall₂ {α β : Type} {R : α → β → Prop} {as : List α} {bs : List β}
    (h : List.Forall₂ R as bs) {b : β} (hb : b ∈ bs) : ∃ a ∈ as, R a b := by
  induction h with
  | nil => cases hb
  | cons hab _ ih =>
    rcases List.mem_cons.1 hb with rfl | hb
    · exact ⟨_, List.mem_cons_self, hab⟩
    · obtain ⟨a, ha, hR⟩ := ih hb
      exact ⟨a, List.mem_cons_of_mem _ ha, hR⟩

/-- **What is sifted stands below the origin**; without an origin nothing is sifted. -/
theorem sift_below {selector : String} {textFilter : Option TextFilter}
    {styleFilters : List StyleFilter} {displayFilter iframeFilter : Option Bool}
    {childFilter : Option (Place → Except PageError Bool)}
    (h : s.sift selector textFilter styleFilters displayFilter iframeFilter childFilter origin =
      .ok qs) : ∃ o, origin = .ok o ∧ ∀ t ∈ qs, t ∈ o.below := by
  cases origin with
  | ok o => exact ⟨o, rfl, fun t ht => (sift_sublist h).subset ht⟩
  | error e =>
    obtain ⟨matched, hsel, -⟩ := Json.bind_eq_ok.1 h
    unfold select at hsel
    cases hparse : Css.Selector.parse selector with
    | error flaw =>
      rw [hparse] at hsel
      cases hsel
    | ok selectors =>
      rw [hparse] at hsel
      cases hsel

/-- What is found, wherever it was looked for. -/
theorem spread_targets (narrow : Except PageError Place → Except PageError (List Place))
    (origin : Except PageError Place) (parents : Option (Except PageError (List Place))) :
    (do return (← spread narrow origin parents).map Prod.snd) = match parents with
      | none => narrow origin
      | some parents => do
        let found ← (← parents).mapM fun p => narrow (.ok p)
        return found.flatten := by
  have htargets (at? : Option Place) (ts : List Place) :
      (ts.map fun t => (at?, t)).map Prod.snd = ts := by
    rw [List.map_map]
    exact List.map_id ts
  cases parents with
  | none => simp only [spread, bind_assoc, pure_bind, htargets, bind_pure]
  | some parents =>
    simp only [spread, bind_assoc, pure_bind]
    congr 1
    funext ps
    induction ps with
    | nil => rfl
    | cons p ps ih =>
      simp only [List.mapM_cons, bind_assoc, pure_bind, List.flatten_cons, List.map_append,
        htargets]
      congr 1
      funext ts
      simpa only [map_bind, Functor.map_map, bind_assoc, pure_bind, map_pure] using
        congrArg (fun x => (ts ++ ·) <$> x) ih

/-- A query without a parent sifts what is below the origin. -/
theorem seek_parentless (s : Sight) (plural : Bool) (h : q.parent = none)
    (origin : Except PageError Place) :
    s.seek plural q origin = s.sift q.selector q.textFilter q.styleFilters q.displayFilter
      q.iframeFilter (s.childSeen q.childFilter) origin := by
  obtain ⟨selector, tf, sf, df, iff, child, _ | parent⟩ := q
  · exact spread_targets _ origin none
  · cases h

/-- **A query with a parent** finds what it would find without one below each match of the parent,
in their order. -/
theorem seek_within (s : Sight) (h : q.parent = some parent) (origin : Except PageError Place) :
    s.seek true q origin = (do
      let found ← (← s.seek true parent origin).mapM fun p =>
        s.seek true { q with parent := none } (.ok p)
      return found.flatten) := by
  have hinner : (fun p => s.seek true { q with parent := none } (.ok p)) = fun p =>
      s.sift q.selector q.textFilter q.styleFilters q.displayFilter q.iframeFilter
        (s.childSeen q.childFilter) (.ok p) :=
    funext fun p => seek_parentless s true rfl (.ok p)
  rw [hinner]
  obtain ⟨selector, tf, sf, df, iff, child, _ | parent'⟩ := q
  · cases h
  · cases h
    have hparents : s.parentsSeen true (some parent) origin = some (s.seek true parent origin) := by
      rw [parentsSeen]
      rfl
    have htargets := spread_targets
      (s.sift selector tf sf df iff (s.childSeen child)) origin (some (s.seek true parent origin))
    rw [← hparents] at htargets
    rw [seek, seekPairs]
    exact htargets

/-- **What is spread stands below the origin** if what is sifted stands below where that is done and
the parents stand below the origin. -/
theorem spread_below {narrow : Except PageError Place → Except PageError (List Place)}
    {parents : Option (Except PageError (List Place))} {xs : List (Option Place × Place)}
    (hn : ∀ origin qs, narrow origin = .ok qs → ∃ o, origin = .ok o ∧ ∀ t ∈ qs, t ∈ o.below)
    (hparents : ∀ ps, parents = some (.ok ps) → ∃ o, origin = .ok o ∧ ∀ p ∈ ps, p ∈ o.below)
    (h : spread narrow origin parents = .ok xs) :
    ∃ o, origin = .ok o ∧ ∀ x ∈ xs, x.2 ∈ o.below := by
  cases parents with
  | none =>
    obtain ⟨qs, hnarrow, hxs⟩ := Json.bind_eq_ok.1 h
    cases hxs
    obtain ⟨o, ho, hbelow⟩ := hn origin qs hnarrow
    refine ⟨o, ho, fun x hx => ?_⟩
    obtain ⟨t, ht, rfl⟩ := List.mem_map.1 hx
    exact hbelow t ht
  | some seen =>
    obtain ⟨ps, rfl, hrest⟩ := Json.bind_eq_ok.1 h
    obtain ⟨found, hfound, hflat⟩ := Json.bind_eq_ok.1 hrest
    cases hflat
    obtain ⟨o, ho, hbelow⟩ := hparents ps rfl
    refine ⟨o, ho, fun x hx => ?_⟩
    obtain ⟨group, hgroup, hx⟩ := List.mem_flatten.1 hx
    obtain ⟨p, hp, hpaired⟩ := mem_of_forall₂ (Json.mapM_eq_ok.1 hfound) hgroup
    obtain ⟨ts, hnarrow, hts⟩ := Json.bind_eq_ok.1 hpaired
    cases hts
    obtain ⟨t, ht, rfl⟩ := List.mem_map.1 hx
    obtain ⟨_, ⟨⟩, hinside⟩ := hn (.ok p) ts hnarrow
    exact (Place.below_infix (hbelow p hp)).subset (hinside t ht)

/-- **What is found stands below the origin**; without an origin nothing is found. -/
theorem seekPairs_below (s : Sight) (plural : Bool) (q : Query)
    (origin : Except PageError Place) : ∀ xs, s.seekPairs plural q origin = .ok xs →
      ∃ o, origin = .ok o ∧ ∀ x ∈ xs, x.2 ∈ o.below := by
  induction plural, q, origin using seekPairs.induct s
    (motive_2 := fun plural parent origin =>
      ∀ ps, s.parentsSeen plural parent origin = some (.ok ps) →
        ∃ o, origin = .ok o ∧ ∀ x ∈ ps, x ∈ o.below)
    (motive_3 := fun _ => True) with
  | case1 plural selector tf sf df iff child parent origin _ ihparent =>
    intro xs h
    rw [seekPairs] at h
    exact spread_below (fun origin' qs => sift_below) ihparent h
  | case2 plural origin ps h => cases h
  | case3 plural parent origin ih ps h =>
    obtain ⟨found, hfound, hps⟩ := Json.bind_eq_ok.1 (Option.some.inj h)
    cases hps
    obtain ⟨o, ho, hbelow⟩ := ih found hfound
    refine ⟨o, ho, fun t ht => ?_⟩
    have hmem : t ∈ found.map Prod.snd := by
      split at ht
      · exact ht
      · exact List.mem_of_mem_head? (Option.mem_toList.1 ht)
    obtain ⟨x, hx, rfl⟩ := List.mem_map.1 hmem
    exact hbelow x hx
  | case4 => trivial
  | case5 => trivial

theorem seek_below (s : Sight) (plural : Bool) (q : Query) (origin : Except PageError Place) :
    ∀ qs, s.seek plural q origin = .ok qs → ∃ o, origin = .ok o ∧ ∀ x ∈ qs, x ∈ o.below := by
  intro qs h
  obtain ⟨xs, hxs, hqs⟩ := Json.bind_eq_ok.1 h
  cases hqs
  obtain ⟨o, ho, hbelow⟩ := seekPairs_below s plural q origin xs hxs
  refine ⟨o, ho, fun t ht => ?_⟩
  obtain ⟨x, hx, rfl⟩ := List.mem_map.1 ht
  exact hbelow x hx

end Sight
end ConsentWalker
