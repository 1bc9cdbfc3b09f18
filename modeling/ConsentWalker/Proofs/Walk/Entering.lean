import Mathlib.Data.List.Nodup
import ConsentWalker.Proofs.Walk.Effect
import ConsentWalker.Proofs.Walk.Meaning
/-!
# Walk — the elements steps are done within

A step for each match looks its matches up and does its body within one after another. What a query
without a parent finds it finds once. A query with a parent is resolved inside each match of the
parent, and an element that stands inside several of them is found once for each
(`Query.entered`): **it is entered again**, unless no match of the parent stands inside another.
-/

namespace ConsentWalker
namespace Page

variable {p : Page}

/-- **Handles and the elements they denote belong to each other** on a sound page. -/
theorem Sound.denotes_biUnique (hp : p.Sound) : Relator.BiUnique p.Denotes := by
  constructor
  · intro h h' q hd hd'
    obtain ⟨-, hid⟩ := place?_eq_some hd.1
    obtain ⟨-, hid'⟩ := place?_eq_some hd'.1
    obtain ⟨hlt, -⟩ := List.getElem?_eq_some_iff.1 hid
    have hsame : h.id = h'.id := (List.getElem?_inj hlt hp.named).1 (hid.trans hid'.symm)
    cases h
    cases h'
    exact congrArg Handle.mk hsame
  · intro h q q' hd hd'
    exact Option.some.inj (hd.1.symm.trans hd'.1)

/-- The places a query finds when every match counts. -/
def Found (p : Page) (q : Query) (base : Option Handle) (qs : List Place) : Prop :=
  ∃ fs p', (q.findAll base).run.readOn p = (.ok fs, p') ∧ Sight.Finds p' fs qs

/-- **What is found is what the query means.** -/
theorem Sound.found (hp : p.Sound) (hopen : p.closed = false) {q : Query} {base : Option Handle}
    {qs : List Place} (hqs : p.sight.seek true q (p.origin base) = .ok qs) : p.Found q base qs := by
  obtain ⟨-, -, hagree⟩ := Sight.resolve_means true q base hp hopen
  rw [hqs] at hagree
  generalize hr : ((q.resolve true base).run.readOn p).1 = r at hagree
  cases hagree with
  | ok hfinds => exact ⟨_, _, Prod.ext hr rfl, hfinds⟩

end Page

namespace Query

variable {p p' : Page} {q parent : Query} {base : Option Handle} {fs : List Finding}

/-- A page on which something was found is open. -/
theorem open_of_findAll (hf : (q.findAll base).run.readOn p = (.ok fs, p')) : p.closed = false := by
  by_contra hclosed
  obtain ⟨e, he⟩ := q.resolve_failsClosed true base p (by simpa using hclosed)
  have hok : ((q.resolve true base).run.readOn p).1 = .ok fs := congrArg Prod.fst hf
  rw [hok] at he
  cases he

/-- A lookup that succeeds on a sound page found what its query means. -/
theorem found_of_findAll (hp : p.Sound) (hf : (q.findAll base).run.readOn p = (.ok fs, p')) :
    p'.Sound ∧ ∃ qs, p.sight.seek true q (p.origin base) = .ok qs ∧ Sight.Finds p' fs qs := by
  obtain ⟨-, hsound, hagree⟩ := Sight.resolve_means true q base hp (open_of_findAll hf)
  have hrun : (q.resolve true base).run.readOn p = (.ok fs, p') := hf
  rw [hrun] at hsound hagree
  refine ⟨hsound, ?_⟩
  generalize p.sight.seek true q (p.origin base) = meant at hagree
  cases hagree with
  | ok hfinds => exact ⟨_, rfl, hfinds⟩

/-- What stands below places that are apart has nothing in common. -/
theorem disjoint_of_apart {gs : List Place} {groups : List (List Place)}
    (h : List.Forall₂ (fun g group => group.Sublist g.below) gs groups)
    (hapart : gs.Pairwise Place.Apart) : groups.Pairwise List.Disjoint := by
  induction h with
  | nil => exact .nil
  | @cons g group gs groups hgroup hgroups ih =>
    obtain ⟨hg, hgs⟩ := List.pairwise_cons.1 hapart
    refine List.pairwise_cons.2 ⟨fun other hother => ?_, ih hgs⟩
    obtain ⟨g', hg', hsub⟩ := Sight.mem_of_forall₂ hgroups hother
    intro x hx hx'
    exact (hg g' hg').disjoint (hgroup.subset hx) (hsub.subset hx')

/-- **A query with a parent finds something in each match of the parent**, once in each. -/
theorem grouped (hp : p.Sound) {qs : List Place} (hparent : q.parent = some parent)
    (hqs : p.sight.seek true q (p.origin base) = .ok qs) :
    ∃ gs groups, p.sight.seek true parent (p.origin base) = .ok gs ∧ qs = groups.flatten ∧
      List.Forall₂ (fun g group => group.Sublist g.below) gs groups ∧
      ∀ group ∈ groups, group.Nodup := by
  rw [Sight.seek_within _ hparent] at hqs
  obtain ⟨gs, hgs, hrest⟩ := Json.bind_eq_ok.1 hqs
  obtain ⟨groups, hgroups, hflat⟩ := Json.bind_eq_ok.1 hrest
  cases hflat
  have hsub : List.Forall₂ (fun g group => group.Sublist g.below) gs groups := by
    refine (Json.mapM_eq_ok.1 hgroups).imp fun g group hg => ?_
    rw [Sight.seek_parentless _ _ rfl] at hg
    exact Sight.sift_sublist hg
  refine ⟨gs, groups, hgs, rfl, hsub, fun group hgroup => ?_⟩
  obtain ⟨g, hg, hbelow⟩ := Sight.mem_of_forall₂ hsub hgroup
  obtain ⟨o, ho, hin⟩ := Sight.seek_below _ _ _ _ gs hgs
  have hinfix : g.below <:+: p.places := (Place.below_infix (hin g hg)).trans (Page.origin_infix ho)
  exact (hp.nodup_of_infix hinfix).sublist hbelow

/-- A query without a parent finds everything once. -/
theorem nodup_of_parentless (hp : p.Sound) {qs : List Place} (hparent : q.parent = none)
    (hqs : p.sight.seek true q (p.origin base) = .ok qs) : qs.Nodup := by
  obtain ⟨o, ho, -⟩ := Sight.seek_below _ _ _ _ qs hqs
  rw [ho, Sight.seek_parentless _ _ hparent] at hqs
  exact (hp.nodup_of_infix (Page.origin_infix ho)).sublist (Sight.sift_sublist hqs)

/-- **What a step for each match is done within.** It looks its matches up and does its body within
one after another. Without a parent they are distinct. With one they are those inside each match of
the parent, in its order and once in each, so they are distinct if no match of the parent is found
twice or stands inside another. -/
theorem entered (hp : p.Reached) {k : Walker}
    (hf : (q.findAll k.scope.head?).run.readOn p = (.ok fs, p')) :
    (∀ s body, (execute s (.forEach q body)).onPage k p =
      (Steps.withinEach (execute s body) (fs.filterMap Finding.target)).onPage k p') ∧
    (q.parent = none → (fs.filterMap Finding.target).Nodup) ∧
    ∀ parent, q.parent = some parent → ∃ gs groups, p.Found parent k.scope.head? gs ∧
      List.Forall₂ (fun g group => group.Sublist g.below) gs groups ∧
      (∀ group ∈ groups, group.Nodup) ∧
      p'.DenotesAll (fs.filterMap Finding.target) groups.flatten ∧
      (gs.Pairwise Place.Apart → (fs.filterMap Finding.target).Nodup) := by
  obtain ⟨hsound, qs, hqs, hfinds⟩ := found_of_findAll hp.sound hf
  have hdenotes := Sight.Finds.targets hfinds
  have hnodup : (fs.filterMap Finding.target).Nodup ↔ qs.Nodup :=
    List.rel_nodup hsound.denotes_biUnique hdenotes
  refine ⟨fun s body => ?_, fun hparent => ?_, fun parent hparent => ?_⟩
  · rw [execute, Steps.onPage_announced]
    have hlooking : (Steps.looking q.findAll).onPage k p = ((.ok fs, k), p') := by
      rw [Steps.onPage_looking, hf]
    rw [Steps.onPage_bind hlooking]
  · exact hnodup.2 (nodup_of_parentless hp.sound hparent hqs)
  · obtain ⟨gs, groups, hgs, rfl, hsub, hgroups⟩ := grouped hp.sound hparent hqs
    have hfound : p.Found parent k.scope.head? gs := hp.sound.found (open_of_findAll hf) hgs
    refine ⟨gs, groups, hfound, hsub, hgroups, hdenotes, fun hapart => ?_⟩
    exact hnodup.2 (List.nodup_flatten.2 ⟨hgroups, disjoint_of_apart hsub hapart⟩)

/-! ## A page on which elements are entered again -/

/-- A checkbox in a row, which stands in two parts of a page, one in the other. -/
def nestedParts : Tree :=
  let part (inner : Tree) : Tree :=
    .node (.element { name := "div", attributes := [("class", "part")] }) [inner]
  let box : Tree := .node (.element { name := "input", attributes := [("type", "checkbox")] }) []
  .node .document [.node (.element { name := "body" })
    [part (part (.node (.element { name := "div", attributes := [("class", "row")] }) [box]))]]

/-- The page of them. -/
def nestedPage : Page := .ofTree nestedParts false

/-- The rows in each part. -/
def rowsInParts : Query := (Query.new ".row").within (.new ".part")

/-- Clicks the checkbox of each row in each part. -/
def clickRows : Action := .forEach rowsInParts (.click { target := .new "input" })

/-- **The row is entered twice**, so its checkbox is clicked twice and is as it was. -/
theorem reentered :
    ((rowsInParts.findAll none).run.readOn nestedPage).1.toOption.map
      (fun fs => fs.filterMap Finding.target) = some [⟨2⟩, ⟨2⟩] ∧
    ((execute {} clickRows).onPage {} nestedPage).2.events =
      [.click ⟨3⟩ false, .click ⟨3⟩ false] ∧
    (((execute {} clickRows).onPage {} nestedPage).2.checkedAll "input").1 = [false] := by
  decide +kernel

/-- The row is found in each of the two parts, one of which stands inside the other. -/
theorem sample_entered : ∃ fs p' gs groups,
    (rowsInParts.findAll none).run.readOn nestedPage = (.ok fs, p') ∧
    nestedPage.Found (.new ".part") none gs ∧
    List.Forall₂ (fun g group => group.Sublist g.below) gs groups ∧
    p'.DenotesAll (fs.filterMap Finding.target) groups.flatten := by
  have hok : ((rowsInParts.findAll none).run.readOn nestedPage).1.toOption.isSome = true := by
    decide +kernel
  rcases hrun : (rowsInParts.findAll none).run.readOn nestedPage with ⟨e | fs, p'⟩
  · rw [hrun] at hok
    cases hok
  · have hreached : nestedPage.Reached := .ofTree nestedParts false
    have hf : (rowsInParts.findAll ({} : Walker).scope.head?).run.readOn nestedPage =
        (.ok fs, p') :=
      hrun
    obtain ⟨-, -, hgroups⟩ := entered hreached hf
    obtain ⟨gs, groups, hfound, hsub, -, hdenotes, -⟩ := hgroups _ rfl
    exact ⟨fs, p', gs, groups, rfl, hfound, hsub, hdenotes⟩

end Query
end ConsentWalker
