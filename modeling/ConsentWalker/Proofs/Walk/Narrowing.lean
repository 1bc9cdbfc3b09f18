import ConsentWalker.Proofs.Walk.AbreastSteps
import ConsentWalker.Proofs.Walk.Isolation
/-!
# Walk — two ways to narrow a loop

A loop over the matches of a query inside those of another one can be written in two ways: as one
loop whose query has a parent, or as two loops, one in the other. The first looks everything up
before it does anything; the second looks again inside each match of the parent, after its body was
done in those before. They come to the same (`narrowings_agree`), since no step changes what a query
sees, and since a query with a parent is looked for where the inner loop looks.

The two runs stand side by side from one match of the parent to the next (`rounds_abreast`), also
where one match stands inside another one and the loops come to the same element again.
-/

namespace ConsentWalker

open Steps Lookup

/-! ## Loops -/

namespace Steps

/-- Steps inside some elements, and then inside some more. -/
theorem withinEach_append (x : Steps Unit) (hs ks : List Handle) :
    withinEach x (hs ++ ks) = (do withinEach x hs; withinEach x ks) := by
  induction hs with
  | nil => exact (pure_bind _ _).symm
  | cons h hs ih => simp only [List.cons_append, withinEach, ih, bind_assoc]

/-- Steps before which nothing is looked up. -/
theorem looking_nothing (x : Steps Unit) : x = (do looking fun _ => (pure () : Lookup Unit); x) :=
  rfl

/-- **A loop** tells that it begins, looks everything up, and does its body in what was found. -/
theorem run_forEach (s : Setting) (q : Query) (body : Action) (k : Walker) :
    (execute s (.forEach q body)).run k =
      .note (.executing (Action.forEach q body).tag k.scope.length)
        ((q.findAll k.scope.head?).run.bind fun
          | .ok fs => (withinEach (execute s body) (fs.filterMap Finding.target)).run k
          | .error e => .done (.error e, k)) := by
  rw [execute]
  change Routine.note _ (((looking q.findAll) >>= fun fs =>
    withinEach (execute s body) (fs.filterMap Finding.target)).run k) = _
  rw [run_bind]
  change Routine.note _ (((q.findAll k.scope.head?).run.bind fun r => .done (r, k)).bind _) = _
  rw [Routine.bind_assoc]
  congr 2
  funext r
  cases r <;> rfl

end Steps

namespace Query

/-- A query inside the matches of another one is valid if both are. -/
theorem isValid_within {T P : Query} (hT : T.isValid = true) (hP : P.isValid = true) :
    (T.within P).isValid = true := by
  obtain ⟨selector, tf, sf, df, iff, child, parent⟩ := T
  obtain ⟨hown, -⟩ := Bool.and_eq_true_iff.1 hT
  exact Bool.and_eq_true_iff.2 ⟨hown, hP⟩

variable {S : Sides} {q : Query} {o : Place} {base : Option Handle}

/-- **What a query finds on the right** while nothing is looked up on the left: the places it is
about. -/
theorem findAll_right (hq : q.isValid = true) (hb : S.right.BaseAt o base) :
    Lookup.Abreast (fun T (_ : Unit) fs => T.right.DenotesAll (fs.filterMap Finding.target)
      ((T.right.sight.pairs true q o).map Prod.snd)) S (pure ()) (q.findAll base) := by
  have hfound : Lookup.Abreast
      (fun T (_ : Unit) fs => ∃ (_ : Unit) (xs : List (Option Place × Place)),
        True ∧ T.right.TellsAll fs xs ∧ xs = S.right.sight.pairs true q o)
      S (pure ()) (q.findAll base) :=
    abreast_of_means (P := fun _ _ _ => True) (V := fun _ xs => xs = S.right.sight.pairs true q o)
      (looks_pure ()) (q.findAll_looks base) fun p p' hk hk' htwins hopen => by
      have hopen' : p'.closed = false := htwins.closed_eq ▸ hopen
      have hnothing : (pure () : Lookup Unit).Means p (fun _ _ _ => True) (.ok ()) :=
        means_pure htwins.sound trivial
      have hmeans := Sight.resolve_pairs hq true htwins.sound' hopen' base
      rw [(Page.baseAt_iff hopen').1 (hb.keeps hk'), hk'.sight_eq] at hmeans
      exact ⟨_, _, hnothing, hmeans, .ok rfl⟩
  refine hfound.imp ?_
  rintro T _ fs hle ⟨_, _, -, hfs, rfl⟩
  rw [hle.2.sight_eq]
  exact hfs.finds.targets

end Query

namespace Sight

variable {T : Query}

/-- What a query without a parent is about are the elements below that pass its tests. -/
theorem targets_parentless (s : Sight) (hT : T.isValid = true) (hparent : T.parent = none)
    (p : Place) : (s.pairs true T p).map Prod.snd = passing (s.tests T) p := by
  rw [pairs_parentless _ hT _ hparent, List.map_map]
  exact List.map_id _

/-- **Inside the matches of a parent** it is about those below each of them, parent by parent. -/
theorem targets_within (s : Sight) {P : Query} (hvalid : (T.within P).isValid = true) (o : Place) :
    (s.pairs true (T.within P) o).map Prod.snd =
      ((s.pairs true P o).map Prod.snd).flatMap (passing (s.tests T)) := by
  rw [pairs_within _ hvalid rfl, List.map_flatMap]
  congr 1
  funext p
  rw [List.map_map]
  exact List.map_id _

end Sight

/-! ## Rounds -/

section

variable {S : Sides} {o o' : Place} {T P : Query} {body : Action} {sight : Sight}
  (hT : T.isValid = true) (hparent : T.parent = none) (hbody : body.closes = false) (s : Setting)

include hT hparent hbody

/-- **Inside one match of the parent** the inner loop does its body in the elements that the other
loop has found there before. -/
theorem round_abreast (hsight : S.right.sight = sight) {p : Place} {hs : List Handle}
    (hh : S.left.DenotesAll hs (Sight.passing (sight.tests T) p)) :
    DoAbreast S o p (withinEach (execute s body) hs) (execute s (.forEach T body)) := by
  rw [execute, looking_nothing (withinEach (execute s body) hs)]
  refine Abreast.announced_right
    ((Abreast.looking fun _ _ _ _ hb' => Query.findAll_right hT hb').bind fun U _ fs hle hfs => ?_)
  rw [hle.2.sight_eq, hsight, Sight.targets_parentless sight hT hparent] at hfs
  exact .withinEach (Sides.same_of_denotesAll (Page.DenotesAll.keeps hh hle.1) hfs)
    (execute_abreast s body hbody U)

/-- **From one match of the parent to the next** the two loops stand side by side. -/
theorem rounds_abreast (hsight : S.right.sight = sight) {ps : List Place} {hs ks : List Handle}
    (hh : S.left.DenotesAll hs (ps.flatMap (Sight.passing (sight.tests T))))
    (hk : S.right.DenotesAll ks ps) :
    DoAbreast S o o' (withinEach (execute s body) hs)
      (withinEach (execute s (.forEach T body)) ks) := by
  induction ps generalizing S hs ks with
  | nil =>
    cases hh
    cases hk
    exact .pure fun _ _ => trivial
  | cons p ps ih =>
    cases hk with
    | cons hp hks =>
      rw [List.flatMap_cons] at hh
      have hfirst := List.forall₂_take_append _ _ _ hh
      have hrest := List.forall₂_drop_append _ _ _ hh
      rw [← List.take_append_drop (Sight.passing (sight.tests T) p).length hs, withinEach_append]
      refine Abreast.bind ((round_abreast hT hparent hbody s hsight hfirst).within_right hp.1)
        fun U _ _ hle _ => ?_
      exact ih (hle.2.sight_eq.trans hsight) (Page.DenotesAll.keeps hrest hle.1)
        (Page.DenotesAll.keeps hks hle.2)

/-- **The two loops come to the same** in worlds that are twins, if their bases stand at one place
or both are gone. -/
theorem loops_abreast (hP : P.isValid = true) {w w' : World} (hw : w.Twins w')
    (hopen : w.page.closed = false)
    {k k' : Walker} (horigin : w.page.origin k.scope.head? = w'.page.origin k'.scope.head?) :
    World.Abreast (Restored (fun _ _ _ => True) k k') w w'
      (w.amid ((execute s (.forEach (T.within P) body)).run k) [])
      (w'.amid ((execute s (.forEach P (.forEach T body))).run k') []) := by
  have hopen' : w'.page.closed = false := hw.page.closed_eq ▸ hopen
  have hwithin : (T.within P).isValid = true := Query.isValid_within hT hP
  have hmeans := Sight.resolve_pairs hwithin true hw.page.sound hopen k.scope.head?
  have hmeans' := Sight.resolve_pairs hP true hw.page.sound' hopen' k'.scope.head?
  rw [← horigin, ← hw.page.sight_eq] at hmeans'
  -- where the base is gone both fail for one reason
  have hmeant : Agree (fun xs ys => ∃ o, w.page.origin k.scope.head? = .ok o ∧
      xs = w.page.sight.pairs true (T.within P) o ∧ ys = w.page.sight.pairs true P o)
      ((w.page.origin k.scope.head?).map (w.page.sight.pairs true (T.within P)))
      ((w.page.origin k.scope.head?).map (w.page.sight.pairs true P)) := by
    cases w.page.origin k.scope.head? with
    | error e => exact .error e
    | ok o => exact .ok ⟨o, rfl, rfl, rfl⟩
  rw [run_forEach, run_forEach]
  refine World.Abreast.told_left (World.Abreast.told_right (Routine.Abreast.after
    (Means.together (hw.tell _ _) hopen (Query.findAll_looks _ _) (Query.findAll_looks _ _)
      hmeans hmeans' hmeant) fun U r r' hle hfound => ?_))
  cases hfound with
  | error e => exact .done fun _ _ => ⟨.error e, rfl, rfl⟩
  | ok hfound =>
    obtain ⟨xs, ys, hfs, hgs, o, ho, rfl, rfl⟩ := hfound
    have hsight : U.right.sight = w.page.sight := hle.2.sight_eq.trans hw.page.sight_eq.symm
    have hb := (Page.baseAt_iff hopen).2 ho
    have hb' := (Page.baseAt_iff hopen').2 (horigin.symm.trans ho)
    have htargets := hfs.finds.targets
    rw [Sight.targets_within _ hwithin] at htargets
    exact rounds_abreast hT hparent hbody s hsight htargets hgs.finds.targets U k k' (le_refl _)
      (hb.keeps hle.1) (hb'.keeps hle.2)

end

/-! ## What they come to -/

/-- Events that match are the same but for the renumbering. -/
theorem World.EventsMatch.renumbered {L : Tables} {ρ : Equiv.Perm Handle} (hρ : L.Follows ρ)
    {es es' : List (Nat × PageEvent)} (hmatch : EventsMatch L es es') :
    es' = es.map fun e => (e.1, e.2.renumber ρ) := by
  induction hmatch with
  | nil => rfl
  | cons he _ ih =>
    have hevent := List.singleton_inj.1 (hρ.events_eq (.cons he.2 .nil))
    rw [List.map_cons, ← ih]
    exact congrArg (· :: _) (Prod.ext he.1.symm hevent)

/-- **The two ways to narrow a loop agree.** On an open page, with nobody else about and without
failing calls, a loop over the matches of one query inside those of another one and two loops, one
in the other, come to the same, whatever is done in them short of closing the page, and below
whatever base. Both succeed, or fail for the same reason, and leave the bases as they were. The page
records what each of them does, which is the same, in the same order and at the same times, to the
same elements, and the same elements are hidden. One renumbering of the handles given out meanwhile
makes all of it equal. -/
theorem narrowings_agree {p : Page} (hp : p.Reached) (hopen : p.closed = false) {P T : Query}
    (hP : P.isValid = true) (hT : T.isValid = true) (hparent : T.parent = none) {body : Action}
    (hbody : body.closes = false) (s : Setting) (k : Walker) (clock : Nat) (told : List Notice) :
    let w : World := { page := p, clock := clock, told := told }
    let inner := w.amid ((execute s (.forEach (T.within P) body)).run k) []
    let nested := w.amid ((execute s (.forEach P (.forEach T body))).run k) []
    inner.1.1 = nested.1.1 ∧ inner.1.2.scope = k.scope ∧ nested.1.2.scope = k.scope ∧
    inner.2.2.page.events = p.events ++ inner.2.1.events.map Prod.snd ∧
    nested.2.2.page.events = p.events ++ nested.2.1.events.map Prod.snd ∧
    World.EventsMatch (inner.2.2.tables nested.2.2) inner.2.1.events nested.2.1.events ∧
    (inner.2.2.tables nested.2.2).LinksAll inner.2.2.page.hidden nested.2.2.page.hidden ∧
    ∃ ρ : Equiv.Perm Handle, (∀ h : Handle, h.id < p.handles.length → ρ h = h) ∧
      nested.2.1.events = inner.2.1.events.map (fun e => (e.1, e.2.renumber ρ)) ∧
      inner.2.2.Agrees ρ nested.2.2 := by
  intro w inner nested
  have hw : w.Twins w := ⟨hp.twins, rfl, rfl, rfl, rfl, .nil⟩
  obtain ⟨hleft, hright, htwins, hevents, hagree, hscope, hscope'⟩ :=
    loops_abreast hT hparent hbody s hP hw hopen (k := k) rfl
  obtain ⟨ρ, hρ⟩ := htwins.agrees
  have hresult : inner.1.1 = nested.1.1 := hagree.unit_eq
  refine ⟨hresult, hscope, hscope', hleft.recorded, hright.recorded, hevents, htwins.page.hidden, ρ,
    ?_, ?_, hρ⟩
  · exact fun h hh => hρ.follows.fixed hleft.keeps.handles hright.keeps.handles hh
  · exact hevents.renumbered hρ.follows

/-- A checkbox in a row that stands in two parts, one in the other, and another one in a row of a
third part. -/
def threeParts : Tree :=
  let within (name : String) (inside : List Tree) : Tree :=
    .node (.element { name := "div", attributes := [("class", name)] }) inside
  let row : Tree :=
    within "row" [.node (.element { name := "input", attributes := [("type", "checkbox")] }) []]
  .node .document [within "part" [within "part" [row]], within "part" [row]]

/-- Clicks a checkbox and rests. -/
def clickBox : Action := .click { target := .new "input", timeout := some 100 }

/-- The one loop gives out handles for all rows before those for their checkboxes, and the two loops
do not. But for that they do the same: each clicks the first checkbox twice, and then the second
one. -/
theorem parted_narrowings :
    let w : World := { page := .ofTree threeParts false }
    let inner :=
      w.amid ((execute {} (.forEach (Query.within (.new ".row") (.new ".part")) clickBox)).run {})
        []
    let nested :=
      w.amid ((execute {} (.forEach (.new ".part") (.forEach (.new ".row") clickBox))).run {}) []
    inner.2.1.events = [(0, .click ⟨5⟩ false), (100, .click ⟨5⟩ false), (200, .click ⟨6⟩ false)] ∧
    nested.2.1.events = [(0, .click ⟨4⟩ false), (100, .click ⟨4⟩ false), (200, .click ⟨6⟩ false)] ∧
    inner.2.2.clock = 300 ∧ inner.1.1 = nested.1.1 ∧ ∃ ρ, inner.2.2.Agrees ρ nested.2.2 := by
  have hpart : (Query.new ".part").isValid = true := by decide +kernel
  have hrow : (Query.new ".row").isValid = true := by decide +kernel
  have hbody : clickBox.closes = false := rfl
  refine ⟨by decide +kernel, by decide +kernel, by decide +kernel, ?_⟩
  obtain ⟨hresult, -, -, -, -, -, -, ρ, -, -, hagrees⟩ :=
    narrowings_agree (Page.Reached.ofTree threeParts false) rfl hpart hrow rfl hbody {} {} 0 []
  exact ⟨hresult, ρ, hagrees⟩

end ConsentWalker
