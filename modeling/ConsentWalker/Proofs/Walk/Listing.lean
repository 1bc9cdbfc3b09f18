import ConsentWalker.Proofs.Page.Handles
import ConsentWalker.Proofs.Page.Order
import ConsentWalker.Proofs.Walk.Entering
/-!
# Walk — what queries list

A query of a whole page lists every element that its selector matches, once, in document order
(`Page.Enumerates`). One that starts from an element lists those of them that stand inside it, in
the same order and by the same handles (`Reached.lists_inside`). Handles are given out as elements
are found, so either of the two may be the first to give one out; what it gave out stays.
-/

namespace ConsentWalker
namespace Page

variable {p p' : Page} {h s : Handle} {hs : List Handle} {o q : Place} {qs : List Place}
  {selector : String} {selectors : List Css.Complex}

/-- **Handles for all elements that pass a test**, in document order. -/
structure Enumerates (p : Page) (test : Place → Bool) (hs : List Handle) : Prop where
  /-- Every handle is that of an element in the page that passes. -/
  passes : ∀ h ∈ hs, ∃ q ∈ p.places, p.Denotes h q ∧ test q = true
  /-- Every place that passes has a handle here. -/
  complete : ∀ q ∈ p.places, test q = true → ∃ h ∈ hs, p.Denotes h q
  /-- Every handle stands here once. -/
  once : hs.Nodup
  /-- Elements stand here as they stand in the document. -/
  ordered : hs.Pairwise fun h k => ∀ q r, p.Denotes h q → p.Denotes k r → q.Earlier r

/-! ## Handles and places in their order -/

theorem Denotes.unique (hd : p.Denotes h q) {r : Place} (hr : p.Denotes h r) : r = q :=
  Option.some.inj (hr.1.symm.trans hd.1)

/-- Handles that denote all places with a property list them. -/
theorem Sound.enumerates (hp : p.Sound) {test : Place → Bool}
    (hd : p.DenotesAll hs (p.places.filter test)) :
    p.Enumerates test hs := by
  refine ⟨fun h hh => ?_, fun q hq htest => ?_, ?_, ?_⟩
  · obtain ⟨q, hq, hdenotes⟩ := Sight.mem_of_forall₂ hd.flip hh
    obtain ⟨hplace, htest⟩ := List.mem_filter.1 hq
    exact ⟨q, hplace, hdenotes, htest⟩
  · exact Sight.mem_of_forall₂ hd (List.mem_filter.2 ⟨hq, htest⟩)
  · refine (List.rel_nodup hp.denotes_biUnique hd).2 ?_
    exact (hp.nodup_of_infix List.infix_rfl).filter test
  · have hordered : (p.places.filter test).Pairwise Place.Earlier := p.places_ordered.filter test
    generalize p.places.filter test = qs at hd hordered
    induction hd with
    | nil => exact .nil
    | @cons h q hs qs hh hrest ih =>
      obtain ⟨hfirst, hordered⟩ := List.pairwise_cons.1 hordered
      refine List.pairwise_cons.2 ⟨fun k hk q' r hq' hr => ?_, ih hordered⟩
      obtain ⟨r', hr', hk'⟩ := Sight.mem_of_forall₂ hrest.flip hk
      rw [hh.unique hq', Denotes.unique hk' hr]
      exact hfirst r' hr'

/-- Of handles those whose places pass a test denote the places that pass it. -/
theorem DenotesAll.filter (hd : p.DenotesAll hs qs) (test : Place → Bool) :
    p.DenotesAll (hs.filter fun h => (p.place? h).any test) (qs.filter test) := by
  induction hd with
  | nil => exact .nil
  | @cons h q hs qs hh _ ih =>
    have htest : (p.place? h).any test = test q := by
      rw [hh.1]
      rfl
    rw [List.filter_cons, List.filter_cons, htest]
    cases test q with
    | true => exact .cons hh ih
    | false => exact ih

/-- **What a handle denoted it denotes later on**, where the tree is the same. -/
theorem Later.denotes (hl : p.Later p') (hroot : p'.root = p.root) (hd : p.Denotes h q) :
    p'.Denotes h q := by
  obtain ⟨hplace, helement⟩ := hd
  obtain ⟨i, hi, hfound⟩ := Option.bind_eq_some_iff.1 hplace
  refine ⟨Option.bind_eq_some_iff.2 ⟨i, ?_, hroot ▸ hfound⟩, helement⟩
  exact Tables.getElem?_of_prefix hl.precedes.handles hi

theorem Later.denotesAll (hl : p.Later p') (hroot : p'.root = p.root) (hd : p.DenotesAll hs qs) :
    p'.DenotesAll hs qs :=
  hd.imp fun _ _ hh => hl.denotes hroot hh

/-! ## Queries -/

/-- **A query of an open page answers with handles for what matches below its origin**, and keeps
the tree. -/
theorem Sound.perform_query (hp : p.Sound) (hopen : p.closed = false)
    (hsel : Css.Selector.parse selector = .ok selectors) {base : Option Handle}
    (ho : p.origin base = .ok o) :
    ∃ hs p₁, p.perform (.query base selector) = (.ok hs, p₁) ∧ p₁.Sound ∧ p₁.root = p.root ∧
      p₁.DenotesAll hs (o.below.filter (Css.selects selectors)) := by
  have hmeant : Sight.select selector (p.origin base) =
      .ok (o.below.filter (Css.selects selectors)) := by
    unfold Sight.select
    rw [hsel, ho]
    rfl
  have hmatched : matched base selector p =
      .ok ((o.below.filter (Css.selects selectors)).map Place.id) := by
    rw [Sight.matched_eq hopen, hmeant]
    rfl
  have hrun : p.perform (.query base selector) = (Page.select base selector).run.run p := rfl
  rw [select_run, hmatched] at hrun
  have hsound := hp.perform (.query base selector)
  have hkeeps := p.perform_keeps (.query base selector)
  rw [hrun] at hsound hkeeps
  exact ⟨_, _, hrun, hsound, hkeeps.root, hp.nameAll_denotes (Sight.select_mem hmeant)⟩

/-- What a call leaves comes after it. -/
theorem later_of_perform {c : Call} {answer : Except PageError c.Result}
    (hrun : p.perform c = (answer, p')) :
    p.Later p' := by
  have hstep : p.Step (p.perform c).2 := .perform c
  rw [hrun] at hstep
  exact .tail .refl hstep

/-- **What queries list.** A query of a whole page that is open lists the elements that match. One
that starts from an element there is answered, at any time when the page is open and has the same
tree; it lists those of them that stand inside the element, whichever of the two was asked first. -/
theorem Reached.lists_inside (hp : p.Reached) (hopen : p.closed = false)
    (hsel : Css.Selector.parse selector = .ok selectors) :
    ∃ hs p₁, p.perform (.query none selector) = (.ok hs, p₁) ∧
      p₁.Enumerates (Css.selects selectors) hs ∧
      ∀ (p' : Page) s o, p'.Reached → p'.closed = false → p'.root = p.root → p'.place? s = some o →
        ∃ hs' p₁', p'.perform (.query (some s) selector) = (.ok hs', p₁') ∧ hs'.Nodup ∧
          (p₁.Later p' ∨ p₁'.Later p → hs' = hs.filter fun h => (p₁.place? h).any o.encloses) := by
  have hdocument : p.origin none = .ok (.root p.root) := rfl
  obtain ⟨hs, p₁, hrun, hsound, hroot, hd⟩ := hp.sound.perform_query hopen hsel hdocument
  have hplaces : p₁.places = p.places := congrArg (fun root => (Place.root root).below) hroot
  refine ⟨hs, p₁, hrun, hsound.enumerates (hplaces ▸ hd), ?_⟩
  intro p' s o hp' hopen' hroot' hplace
  have horigin : p'.origin (some s) = .ok o := located_eq_ok.2 ⟨hopen', hplace⟩
  obtain ⟨hs', p₁', hrun', hsound', hroot₁', hd'⟩ := hp'.sound.perform_query hopen' hsel horigin
  have hmem : o ∈ p'.places := (place?_eq_some hplace).1
  have hplaces' : p'.places = p.places := congrArg (fun root => (Place.root root).below) hroot'
  -- what matches below the element is what matches and stands inside it
  have hinside : o.below.filter (Css.selects selectors) =
      (p.places.filter (Css.selects selectors)).filter o.encloses := by
    rw [hp'.sound.below_eq_filter hmem, hplaces', List.filter_comm]
  have hnodup : (o.below.filter (Css.selects selectors)).Nodup :=
    (hp'.sound.nodup_of_infix (Place.below_infix hmem)).filter _
  refine ⟨hs', p₁', hrun', (List.rel_nodup hsound'.denotes_biUnique hd').2 hnodup, fun horder => ?_⟩
  rw [hinside] at hd'
  have hd : p₁.DenotesAll _ _ := DenotesAll.filter hd o.encloses
  -- on the page after both queries the handles of either denote the same places
  rcases horder with hl | hl
  · have hlate : p₁.Later p₁' := hl.trans (later_of_perform hrun')
    have hd := hlate.denotesAll (by rw [hroot₁', hroot', hroot]) hd
    exact List.left_unique_forall₂' hsound'.denotes_biUnique.1 hd' hd
  · have hlate : p₁'.Later p₁ := hl.trans (later_of_perform hrun)
    have hd' := hlate.denotesAll (by rw [hroot, hroot₁', hroot']) hd'
    exact List.left_unique_forall₂' hsound.denotes_biUnique.1 hd' hd

/-- Two parts of a page, each with a checkbox. -/
def twoParts : Tree :=
  let box : Tree := .node (.element { name := "input", attributes := [("type", "checkbox")] }) []
  let part : Tree := .node (.element { name := "div", attributes := [("class", "part")] }) [box]
  .node .document [.node (.element { name := "body" }) [part, part]]

/-- The page of them, after it was asked for the parts. -/
def partsPage : Page := ((ofTree twoParts false).perform (.query none ".part")).2

/-- The page after it was asked for the checkboxes in the second part. -/
def searchedPage : Page := (partsPage.perform (.query (some ⟨1⟩) "input")).2

/-- The checkbox in the second part was found first, and stands in its place when both are
listed. -/
theorem parts_list_inside : ∃ selectors hs p₁ o,
    Css.Selector.parse "input" = .ok selectors ∧ hs = [⟨3⟩, ⟨2⟩] ∧
    searchedPage.perform (.query none "input") = (.ok hs, p₁) ∧
      p₁.Enumerates (Css.selects selectors) hs ∧
    partsPage.place? ⟨1⟩ = some o ∧ (partsPage.perform (.query (some ⟨1⟩) "input")).1 = .ok [⟨2⟩] ∧
    [⟨2⟩] = hs.filter fun h => (p₁.place? h).any o.encloses := by
  have hparts : partsPage.Reached := .step (.ofTree twoParts false) (.perform _)
  have hreached : searchedPage.Reached := .step hparts (.perform _)
  obtain ⟨selectors, hsel⟩ : ∃ selectors, Css.Selector.parse "input" = .ok selectors := by
    have hsome : (Css.Selector.parse "input").toOption.isSome = true := by decide +kernel
    cases hsel : Css.Selector.parse "input" with
    | ok selectors => exact ⟨selectors, rfl⟩
    | error flaw =>
      rw [hsel] at hsome
      cases hsome
  obtain ⟨o, ho⟩ : ∃ o, partsPage.place? ⟨1⟩ = some o := by
    rw [← Option.isSome_iff_exists]
    decide +kernel
  have hsame : partsPage.root = searchedPage.root := (perform_keeps _ partsPage).root.symm
  obtain ⟨hs, p₁, hrun, hlists, hinside⟩ := hreached.lists_inside (by decide +kernel) hsel
  obtain ⟨hs', p₁', hrun', -, hfilter⟩ :=
    hinside partsPage ⟨1⟩ o hparts (by decide +kernel) hsame ho
  have hall : (searchedPage.perform (.query none "input")).1 = .ok [⟨3⟩, ⟨2⟩] := by decide +kernel
  have hpart : (partsPage.perform (.query (some ⟨1⟩) "input")).1 = .ok [⟨2⟩] := by decide +kernel
  obtain rfl : hs = [⟨3⟩, ⟨2⟩] := Except.ok.inj ((congrArg Prod.fst hrun).symm.trans hall)
  obtain rfl : hs' = [⟨2⟩] := Except.ok.inj ((congrArg Prod.fst hrun').symm.trans hpart)
  have hlater : p₁'.Later searchedPage := by
    have hpage : searchedPage = p₁' := congrArg Prod.snd hrun'
    rw [hpage]
  exact ⟨selectors, _, p₁, o, hsel, rfl, hrun, hlists, ho, hpart, hfilter (.inr hlater)⟩

end Page
end ConsentWalker
