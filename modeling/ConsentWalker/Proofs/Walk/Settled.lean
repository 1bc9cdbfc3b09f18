import ConsentWalker.Proofs.Page.Growth
import ConsentWalker.Proofs.Walk.Trip
/-!
# Walk — what is settled by looking

A detection pass looks at a page and gives out handles, no more. Whoever looks again, at the same
page or one that only gave out more handles, sees the same (`Lookup.Steady`): so a pass that found
no dialog settles that there is none, until somebody changes the page (`nextCandidate_settled`).

A lookup is steady because it asks only about handles it was given: those it starts from, and those
in the answers to it.
-/

namespace ConsentWalker

open Page (SteadyAt)

/-- What a routine that only looks comes to on a page, and the page after it. -/
def Routine.readOn {α : Type} : Routine α → Page → α × Page
  | .done a, p => (a, p)
  | .call c next, p => (next (p.perform c).1).readOn (p.perform c).2
  | .note _ next, p => next.readOn p
  | .sleep _ next, p => next.readOn p
  | .pause next, p => next.readOn p
  | .await _ next, p => (next none).readOn p
  | .drop _ next, p => next.readOn p
  | .report _ next, p => next.readOn p

/-- A second routine reads the page as the first leaves it. -/
theorem Routine.readOn_bind {α β : Type} (r : Routine α) (f : α → Routine β) (p : Page) :
    (r.bind f).readOn p = (f (r.readOn p).1).readOn (r.readOn p).2 := by
  induction r generalizing p with
  | done a => rfl
  | call c next ih => exact ih _ _
  | note n next ih => exact ih p
  | sleep d next ih => exact ih p
  | pause next ih => exact ih p
  | await o next ih => exact ih none p
  | drop o next ih => exact ih p
  | report v next ih => exact ih p

/-! ## Steady lookups -/

/-- **A lookup that is steady** on every page that has given out so many handles; of what it answers
something is known about the handles given out by then. -/
def Lookup.Steady {α : Type} (n : Nat) (q : Lookup α) (Known : Nat → α → Prop) : Prop :=
  ∀ p : Page, n ≤ p.handles.length → SteadyAt q.run.readOn p ∧
    ∀ a, (q.run.readOn p).1 = .ok a → Known (q.run.readOn p).2.handles.length a

/-- Handles that were given out among so many. -/
def AllKnown (n : Nat) (hs : List Handle) : Prop := ∀ h ∈ hs, h.id < n

/-- The target of a finding, if there is one, was given out among so many. -/
def Finding.Known (n : Nat) (f : Finding) : Prop := ∀ h, f.target = some h → h.id < n

theorem AllKnown.mono {n m : Nat} {hs : List Handle} (h : AllKnown n hs) (hnm : n ≤ m) :
    AllKnown m hs :=
  fun k hk => Nat.lt_of_lt_of_le (h k hk) hnm

namespace Lookup

variable {α β : Type} {n : Nat} {Known : Nat → α → Prop} {Known' : Nat → β → Prop}

theorem steady_pure {a : α} (ha : ∀ m, n ≤ m → Known m a) :
    Lookup.Steady n (pure a : Lookup α) Known := by
  intro p hn
  refine ⟨.of_pure fun _ _ => rfl, ?_⟩
  rintro b ⟨⟩
  exact ha _ hn

/-- What a lookup that follows another comes to, after what that one came to. -/
def follow (f : α → Lookup β) : Except PageError α → Page → Except PageError β × Page
  | .ok a, p => (f a).run.readOn p
  | .error e, p => (.error e, p)

theorem readOn_bind (q : Lookup α) (f : α → Lookup β) (p : Page) :
    (q >>= f).run.readOn p = follow f (q.run.readOn p).1 (q.run.readOn p).2 := by
  rw [ExceptT.run_bind, Routine.bind_eq, Routine.readOn_bind]
  cases (q.run.readOn p).1 <;> rfl

/-- **One steady lookup after another.** -/
theorem Steady.bind {q : Lookup α} {f : α → Lookup β} (hq : q.Steady n Known)
    (hf : ∀ a m, n ≤ m → Known m a → (f a).Steady m Known') :
    Lookup.Steady n (q >>= f) Known' := by
  intro p hn
  obtain ⟨hsteady, hknown⟩ := hq p hn
  have hrun : (q >>= f).run.readOn = fun p => follow f (q.run.readOn p).1 (q.run.readOn p).2 :=
    funext (readOn_bind q f)
  rw [hrun]
  cases hr : (q.run.readOn p).1 with
  | error e =>
    have hg : SteadyAt (follow f (q.run.readOn p).1) (q.run.readOn p).2 := by
      rw [hr]
      exact .of_pure fun _ _ => rfl
    refine ⟨hsteady.bind hg, fun b hb => ?_⟩
    dsimp only at hb
    rw [hr] at hb
    cases hb
  | ok a =>
    have hlater : n ≤ (q.run.readOn p).2.handles.length :=
      Nat.le_trans hn hsteady.grows.length_le
    obtain ⟨hnext, hknown'⟩ := hf a _ hlater (hknown a hr) _ (Nat.le_refl _)
    have hg : SteadyAt (follow f (q.run.readOn p).1) (q.run.readOn p).2 := by
      rw [hr]
      exact hnext
    refine ⟨hsteady.bind hg, fun b hb => ?_⟩
    dsimp only at hb ⊢
    rw [hr] at hb ⊢
    exact hknown' b hb

theorem steady_tell (notice : Notice) (n : Nat) :
    Lookup.Steady n (tell notice) fun _ _ => True :=
  fun _ _ => ⟨.of_pure fun _ _ => rfl, fun _ _ => trivial⟩

/-- **A question about an element that was given out.** -/
theorem steady_ask {c : Call} (hc : c.isRead = true) (hh : ∀ h, c.about? = some h → h.id < n) :
    Lookup.Steady n (ask c) fun _ _ => True :=
  fun _ hn => ⟨Page.perform_steady hc fun h hm => Nat.lt_of_lt_of_le (hh h hm) hn,
    fun _ _ => trivial⟩

/-- What a query answers it has given out. -/
theorem steady_query {scope : Option Handle} (selector : String)
    (hh : ∀ h, scope = some h → h.id < n) :
    Lookup.Steady n (ask (.query scope selector)) AllKnown :=
  fun _ hn => ⟨Page.perform_steady rfl fun h hm => Nat.lt_of_lt_of_le (hh h hm) hn,
    fun _ hr => Page.select_lt hr⟩

/-- Passing elements through a steady test is steady, and gives out no other handles. -/
theorem steady_keep {test : Handle → Lookup Bool}
    (ht : ∀ m h, h.id < m → (test h).Steady m fun _ _ => True) {hs : List Handle}
    (hs' : AllKnown n hs) : (keep test hs).Steady n AllKnown := by
  induction hs generalizing n with
  | nil => exact steady_pure fun _ _ => hs'.mono ‹_›
  | cons h rest ih =>
    refine (ht n h (hs' h List.mem_cons_self)).bind fun passed m hm _ => ?_
    have hrest : AllKnown m rest :=
      AllKnown.mono (fun k hk => hs' k (List.mem_cons_of_mem _ hk)) hm
    have hh : h.id < m := Nat.lt_of_lt_of_le (hs' h List.mem_cons_self) hm
    refine (ih hrest).bind fun kept l hl hkept => steady_pure fun i hi => ?_
    cases passed with
    | true =>
      intro k hk
      rcases List.mem_cons.1 hk with rfl | hk
      · omega
      · exact hkept.mono hi k hk
    | false => exact hkept.mono hi

theorem steady_keepIf {test? : Option β} {test : β → Handle → Lookup Bool}
    (ht : ∀ b m h, test? = some b → h.id < m → (test b h).Steady m fun _ _ => True)
    {hs : List Handle} (hs' : AllKnown n hs) : (keepIf test? test hs).Steady n AllKnown := by
  cases test? with
  | none => exact steady_pure fun _ hm => hs'.mono hm
  | some b => exact steady_keep (fun m h hh => ht b m h rfl hh) hs'

end Lookup

open Lookup

/-- Testing the style of a known element is steady. -/
theorem StyleFilter.testAll_steady (fs : List StyleFilter) {n : Nat} {h : Handle} (hh : h.id < n) :
    (StyleFilter.testAll fs h).Steady n fun _ _ => True := by
  induction fs generalizing n with
  | nil => exact steady_pure fun _ _ => trivial
  | cons f rest ih =>
    refine (steady_ask rfl fun k hk => ?_).bind fun s m hm _ => ?_
    · cases hk
      exact hh
    · split
      · exact ih (Nat.lt_of_lt_of_le hh hm)
      · exact steady_pure fun _ _ => trivial

theorem StyleFilter.keepAll_steady (fs : List StyleFilter) {n : Nat} {hs : List Handle}
    (hs' : AllKnown n hs) : (StyleFilter.keepAll fs hs).Steady n AllKnown := by
  unfold StyleFilter.keepAll
  split
  · exact steady_pure fun _ hm => hs'.mono hm
  · exact steady_keep (fun m h hh => StyleFilter.testAll_steady fs hh) hs'

/-- Findings all of whose targets were given out among so many. -/
def AllFound (n : Nat) (fs : List Finding) : Prop := ∀ f ∈ fs, f.Known n

/-- Taking the first of what was found is steady. -/
theorem firstOf_steady (selector : String) {n : Nat} {fs : List Finding} (hfs : AllFound n fs) :
    (firstOf selector fs).Steady n fun m f => f.Known m := by
  have hfirst : ∀ m, n ≤ m → (fs.head?.getD {}).Known m := by
    intro m hm h hh
    cases fs with
    | nil => cases hh
    | cons f rest => exact Nat.lt_of_lt_of_le (hfs f List.mem_cons_self h hh) hm
  unfold firstOf
  split
  · exact (steady_tell _ n).bind fun _ m hm _ => steady_pure fun l hl => hfirst l (by omega)
  · exact steady_pure hfirst

theorem AllFound.append {n : Nat} {fs gs : List Finding} (hf : AllFound n fs) (hg : AllFound n gs) :
    AllFound n (fs ++ gs) := by
  intro f hmem
  rcases List.mem_append.1 hmem with hmem | hmem
  · exact hf f hmem
  · exact hg f hmem

theorem AllFound.mono {n m : Nat} {fs : List Finding} (h : AllFound n fs) (hnm : n ≤ m) :
    AllFound m fs :=
  fun f hf k hk => Nat.lt_of_lt_of_le (h f hf k hk) hnm

/-- Handles that were given out make findings that were. -/
theorem AllKnown.found {n : Nat} {hs : List Handle} (hs' : AllKnown n hs) (parent : Option Handle) :
    AllFound n (hs.map fun t => ⟨parent, some t⟩) := by
  intro f hf h hh
  obtain ⟨t, ht, rfl⟩ := List.mem_map.1 hf
  cases hh
  exact hs' h ht

/-- Looking below known parents is steady if looking below each is. -/
theorem below_steady {narrow : Handle → Lookup (List Handle)}
    (hn : ∀ m h, h.id < m → (narrow h).Steady m AllKnown) {n : Nat} {ps : List Handle}
    (hps : AllKnown n ps) : (below narrow ps).Steady n AllFound := by
  induction ps generalizing n with
  | nil => exact steady_pure fun _ _ => by simp [AllFound]
  | cons p rest ih =>
    refine (hn n p (hps p List.mem_cons_self)).bind fun targets m hm htargets => ?_
    have hrest : AllKnown m rest :=
      AllKnown.mono (fun k hk => hps k (List.mem_cons_of_mem _ hk)) hm
    refine (ih hrest).bind fun more l hl hmore => steady_pure fun i hi => ?_
    exact ((htargets.mono (by omega)).found _).append (hmore.mono hi)

namespace Query

/-- A base that was given out among so many, if there is one. -/
def BaseKnown (n : Nat) (base : Option Handle) : Prop := ∀ h, base = some h → h.id < n

theorem BaseKnown.mono {n m : Nat} {base : Option Handle} (h : BaseKnown n base) (hnm : n ≤ m) :
    BaseKnown m base :=
  fun k hk => Nat.lt_of_lt_of_le (h k hk) hnm

/-- Sifting is steady if the question to the children is. -/
theorem sift_steady {selector : String} {textFilter : Option TextFilter}
    {styleFilters : List StyleFilter} {displayFilter iframeFilter : Option Bool}
    {childFilter : Option (Handle → Lookup Bool)}
    (hchild : ∀ test, childFilter = some test → ∀ m h, h.id < m →
      (test h).Steady m fun _ _ => True) {n : Nat} {base : Option Handle}
    (hbase : BaseKnown n base) :
    (sift selector textFilter styleFilters displayFilter iframeFilter childFilter base).Steady n
      AllKnown := by
  -- each filter asks one question about an element that is left
  have asks : ∀ {c : Call} {f : c.Result → Bool} {m : Nat} {h : Handle}, c.isRead = true →
      c.about? = some h → h.id < m →
      Lookup.Steady m (do return f (← ask c) : Lookup Bool) fun _ _ => True := by
    intro c f m h hc habout hh
    refine (steady_ask hc fun k hk => ?_).bind fun _ _ _ _ => steady_pure fun _ _ => trivial
    rw [habout] at hk
    cases hk
    exact hh
  refine (steady_query selector hbase).bind fun m₀ n₀ _ h₀ => ?_
  refine (steady_keepIf (fun f m h _ hh => asks rfl rfl hh) h₀).bind fun m₁ n₁ _ h₁ => ?_
  refine (StyleFilter.keepAll_steady styleFilters h₁).bind fun m₂ n₂ _ h₂ => ?_
  refine (steady_keepIf (fun b m h _ hh => asks rfl rfl hh) h₂).bind fun m₃ n₃ _ h₃ => ?_
  refine (steady_keepIf (fun b m h _ hh => asks rfl rfl hh) h₃).bind fun m₄ n₄ _ h₄ => ?_
  exact steady_keepIf (fun test m h htest hh => hchild test htest m h hh) h₄

/-- Looking below a base or below its parents is steady. -/
theorem spread_steady {narrow : Option Handle → Lookup (List Handle)}
    (hn : ∀ m base, BaseKnown m base → (narrow base).Steady m AllKnown)
    {parents : Option (Lookup (List Handle))} {n : Nat} {base : Option Handle}
    (hbase : BaseKnown n base) (hp : ∀ ps, parents = some ps → ps.Steady n AllKnown) :
    (spread narrow base parents).Steady n AllFound := by
  cases parents with
  | none =>
    exact (hn n base hbase).bind fun hs m hm hhs => steady_pure fun l hl =>
      (AllKnown.mono hhs hl).found none
  | some ps =>
    refine (hp ps rfl).bind fun hs m hm hhs => below_steady (fun l h hh => ?_) hhs
    refine hn l (some h) fun k hk => ?_
    cases hk
    exact hh

/-- **Resolving a query is steady**, along its parents and inside its matches. -/
theorem resolve_steady (plural : Bool) (q : Query) (base : Option Handle) :
    ∀ n, BaseKnown n base → (q.resolve plural base).Steady n AllFound := by
  induction plural, q, base using resolve.induct
    (motive_2 := fun plural p base => ∀ n, BaseKnown n base →
      ∀ ps, parents plural p base = some ps →
      ps.Steady n AllKnown)
    (motive_3 := fun c => ∀ test, childTest c = some test → ∀ m h, h.id < m →
      (test h).Steady m fun _ _ => True) with
  | case1 plural selector tf sf df iff child parent base ihchild ihparent =>
    intro n hbase
    rw [resolve]
    exact spread_steady (fun m base hb => sift_steady ihchild hb) hbase (ihparent n hbase)
  | case2 plural base n hbase ps h => cases h
  | case3 plural p base ih n hbase ps h =>
    cases h
    refine (ih n hbase).bind fun findings m hm hfound => ?_
    split
    · refine steady_pure fun l hl k hk => ?_
      obtain ⟨f, hf, hfk⟩ := List.mem_filterMap.1 hk
      exact Nat.lt_of_lt_of_le (hfound f hf k hfk) hl
    · refine (firstOf_steady _ hfound).bind fun f l hl hf => steady_pure fun i hi k hk => ?_
      exact Nat.lt_of_lt_of_le (hf k (Option.mem_toList.1 hk)) hi
  | case4 test h => cases h
  | case5 child ih test h m e he =>
    cases h
    have hbase : BaseKnown m (some e) := by
      rintro k ⟨⟩
      exact he
    exact (ih e m hbase).bind fun _ _ _ hfound =>
      (firstOf_steady _ hfound).bind fun _ _ _ _ => steady_pure fun _ _ => trivial

/-- Looking for one element is steady, and what it finds is known from then on. -/
theorem target?_steady (q : Query) {n : Nat} {base : Option Handle} (hbase : BaseKnown n base) :
    (q.target? base).Steady n fun m found => BaseKnown m found :=
  ((q.resolve_steady false base n hbase).bind fun _ _ _ hfound => firstOf_steady _ hfound).bind
    fun _ _ _ hf => steady_pure fun _ hl => BaseKnown.mono hf hl

end Query

theorem Matcher.holds_steady (m : Matcher) {n : Nat} {base : Option Handle}
    (hbase : Query.BaseKnown n base) : (m.holds base).Steady n fun _ _ => True := by
  refine (m.target.target?_steady hbase).bind fun found l _ hfound => ?_
  cases found with
  | none => exact steady_pure fun _ _ => trivial
  | some h =>
    cases m with
    | css => exact steady_pure fun _ _ => trivial
    | checkbox q =>
      refine steady_ask rfl fun k hk => ?_
      cases hk
      exact hfound h rfl

namespace Vendor

/-- Asking detectors one after another is steady. -/
theorem firstPresent_steady (ds : List Detector) (n : Nat) :
    (firstPresent ds).Steady n fun _ _ => True := by
  induction ds generalizing n with
  | nil => exact steady_pure fun _ _ => trivial
  | cons d rest ih =>
    have hbase : Query.BaseKnown n none := by
      rintro h ⟨⟩
    refine (d.present.holds_steady hbase).bind fun b m _ _ => ?_
    cases b with
    | true => exact steady_pure fun _ _ => trivial
    | false => exact ih m

/-- **Detection is steady**: whether the dialog of a vendor is in a page does not change unless the
page does. -/
theorem detect_steady (v : Vendor) (p : Page) : SteadyAt v.detect.run.readOn p := by
  have hsteady : v.detect.Steady 0 fun _ _ => True :=
    (firstPresent_steady v.detectors 0).bind fun _ _ _ _ => steady_pure fun _ _ => trivial
  exact (hsteady p (Nat.zero_le _)).1

end Vendor

/-! ## A closed page -/

/-- A lookup that a closed page refuses. -/
def Lookup.FailsClosed {α : Type} (q : Lookup α) : Prop :=
  ∀ p : Page, p.closed = true → ∃ e, (q.run.readOn p).1 = .error e

/-- A lookup that fails on a closed page does so whatever follows it. -/
theorem Lookup.FailsClosed.bind {α β : Type} {q : Lookup α} {f : α → Lookup β}
    (hq : q.FailsClosed) : Lookup.FailsClosed (q >>= f) := by
  intro p hp
  obtain ⟨e, he⟩ := hq p hp
  refine ⟨e, ?_⟩
  rw [ExceptT.run_bind, Routine.bind_eq, Routine.readOn_bind, he]
  rfl

theorem failsClosed_query (scope : Option Handle) (selector : String) :
    (ask (.query scope selector)).FailsClosed := by
  intro p hp
  refine ⟨.closed, ?_⟩
  change ((Page.select scope selector).run.run p).1 = _
  have hopened : p.opened = .error .closed := by
    unfold Page.opened
    rw [if_pos hp]
  rw [Page.select_run]
  unfold Page.matched
  rw [hopened]
  rfl

namespace Query

theorem spread_failsClosed {narrow : Option Handle → Lookup (List Handle)}
    (hn : ∀ base, (narrow base).FailsClosed) {parents : Option (Lookup (List Handle))}
    (hp : ∀ ps, parents = some ps → ps.FailsClosed) (base : Option Handle) :
    (spread narrow base parents).FailsClosed := by
  cases parents with
  | none => exact (hn base).bind
  | some ps => exact (hp ps rfl).bind

/-- Resolving a query fails on a closed page, since it has a selector to ask for. -/
theorem resolve_failsClosed (plural : Bool) (q : Query) (base : Option Handle) :
    (q.resolve plural base).FailsClosed := by
  induction plural, q, base using resolve.induct
    (motive_2 := fun plural p base => ∀ ps, parents plural p base = some ps → ps.FailsClosed)
    (motive_3 := fun _ => True) with
  | case1 plural selector tf sf df iff child parent base _ ihparent =>
    rw [resolve]
    exact spread_failsClosed (fun base => (failsClosed_query base selector).bind) ihparent base
  | case2 plural base ps h => cases h
  | case3 plural p base ih ps h =>
    cases h
    exact ih.bind
  | case4 => trivial
  | case5 => trivial

end Query

/-- In a closed page no dialog is there: the first matcher that is asked fails. -/
theorem firstPresent_closed (ds : List Detector) {p : Page} (hp : p.closed = true) :
    (∃ e, ((Vendor.firstPresent ds).run.readOn p).1 = .error e) ∨
      ((Vendor.firstPresent ds).run.readOn p).1 = .ok none := by
  cases ds with
  | nil => exact .inr rfl
  | cons d rest =>
    have hfails : (Vendor.firstPresent (d :: rest)).FailsClosed :=
      ((d.present.target.resolve_failsClosed false none).bind.bind.bind).bind
    exact .inl (hfails p hp)

/-- A question that is put to the first dialog that is there is not answered yes. -/
theorem follow_firstPresent_closed {ds : List Detector} {f : Option Detector → Lookup Bool}
    (hnone : f none = pure false) {p : Page} (hp : p.closed = true) :
    ((Vendor.firstPresent ds >>= f).run.readOn p).1 ≠ .ok true := by
  rw [Lookup.readOn_bind]
  rcases firstPresent_closed ds hp with ⟨e, he⟩ | hfirst
  · rw [he]
    rintro ⟨⟩
  · rw [hfirst]
    change ((f none).run.readOn _).1 ≠ _
    rw [hnone]
    rintro ⟨⟩

/-- **In a closed page no dialog is found.** -/
theorem Vendor.detect_closed (v : Vendor) {p : Page} (hp : p.closed = true) :
    (v.detect.run.readOn p).1 ≠ .ok true :=
  follow_firstPresent_closed (f := fun d => pure d.isSome) rfl hp

/-- In a closed page no dialog shows. -/
theorem Vendor.isShowing_closed (v : Vendor) {p : Page} (hp : p.closed = true) :
    (v.isShowing.run.readOn p).1 ≠ .ok true :=
  follow_firstPresent_closed rfl hp

/-! ## A pass -/

namespace Search

/-- **No dialog of an untried vendor is there**, in this page or any that only gave out more
handles. -/
def Settled (x : Search) (tried : List String) (p : Page) : Prop :=
  ∀ p', p.Grows p' → ∀ v ∈ x.vendors, v.name ∉ tried → (v.detect.run.readOn p').1 ≠ .ok true

variable {x : Search} {tried : List String} {p p' : Page}

/-- What is settled stays so while handles are given out. -/
theorem Settled.grows (hs : x.Settled tried p) (hg : p.Grows p') : x.Settled tried p' :=
  fun q hq => hs q (hg.trans hq)

/-- On a closed page everything is settled. -/
theorem settled_of_closed (hp : p.closed = true) : x.Settled tried p := by
  intro q hq v _ _
  exact v.detect_closed (hq.closed_eq.trans hp)

/-- **A pass gives out handles, and settles what it does not find.** -/
theorem candidates_settled (tried : List String) (i : Nat) (vs : List Vendor) (p : Page) :
    p.Grows ((candidates tried i vs).readOn p).2 ∧
      (((candidates tried i vs).readOn p).1 = [] → ∀ p',
        ((candidates tried i vs).readOn p).2.Grows p' → ∀ v ∈ vs, v.name ∉ tried →
          (v.detect.run.readOn p').1 ≠ .ok true) := by
  induction vs generalizing i p with
  | nil => exact ⟨.refl p, by simp⟩
  | cons v vs ih =>
    rw [candidates]
    by_cases hv : tried.contains v.name = true
    · rw [if_pos hv]
      obtain ⟨hgrows, hsettled⟩ := ih (i + 1) p
      refine ⟨hgrows, fun hnil q hq u hu hnew => ?_⟩
      rcases List.mem_cons.1 hu with rfl | hu
      · exact absurd (List.contains_iff_mem.1 hv) hnew
      · exact hsettled hnil q hq u hu hnew
    · rw [if_neg hv, Routine.bind_eq, Routine.readOn_bind]
      have hsteady := v.detect_steady p
      obtain ⟨hgrows, hsettled⟩ := ih (i + 1) (v.detect.run.readOn p).2
      -- a vendor that was not found now will not be later, and the others are asked after it
      have absent : (v.detect.run.readOn p).1 ≠ .ok true →
          ((candidates tried (i + 1) vs).readOn (v.detect.run.readOn p).2).1 = [] → ∀ q,
          ((candidates tried (i + 1) vs).readOn (v.detect.run.readOn p).2).2.Grows q →
          ∀ u ∈ v :: vs, u.name ∉ tried → (u.detect.run.readOn q).1 ≠ .ok true := by
        intro hno hnil q hq u hu hnew
        rcases List.mem_cons.1 hu with rfl | hu
        · rw [hsteady.again q (hgrows.trans hq)]
          exact hno
        · exact hsettled hnil q hq u hu hnew
      rcases ha : (v.detect.run.readOn p).1 with e | _ | _
      · exact ⟨hsteady.grows.trans hgrows, absent (by simp [ha])⟩
      · exact ⟨hsteady.grows.trans hgrows, absent (by simp [ha])⟩
      · dsimp only
        rw [Routine.bind_eq, Routine.readOn_bind]
        refine ⟨hsteady.grows.trans hgrows, fun hnil => ?_⟩
        cases hnil

/-- **So does a pass for the next candidate.** -/
theorem nextCandidate_settled (x : Search) (tried : List String) (p : Page) :
    p.Grows ((x.nextCandidate tried).readOn p).2 ∧
      (((x.nextCandidate tried).readOn p).1 = none →
        x.Settled tried ((x.nextCandidate tried).readOn p).2) := by
  obtain ⟨hgrows, hsettled⟩ := candidates_settled tried 0 x.vendors p
  -- naming the candidate only tells
  have hpick : (x.nextCandidate tried).readOn p =
      (((candidates tried 0 x.vendors).readOn p).1.head?,
        ((candidates tried 0 x.vendors).readOn p).2) := by
    unfold nextCandidate
    rw [Routine.bind_eq, Routine.readOn_bind]
    generalize (candidates tried 0 x.vendors).readOn p = r
    obtain ⟨found, q⟩ := r
    dsimp only
    split <;> cases found <;> rfl
  rw [hpick]
  refine ⟨hgrows, fun hnone => ?_⟩
  exact hsettled (List.head?_eq_none_iff.1 hnone)

end Search
end ConsentWalker
