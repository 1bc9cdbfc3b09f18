import ConsentWalker.Proofs.Walk.Settled
import ConsentWalker.Proofs.Walk.Sight
/-!
# Walk — lookups mean what queries mean

A lookup asks about handles and gives out more of them; what it is about are the places they denote.
`Lookup.Means` relates the two, and composes as lookups do: `Sight.resolve_means` says that
resolving a query on a sound page comes to what the query means, whether it fails or not.
-/

namespace ConsentWalker

/-! ## Handles and places -/

namespace Page

variable {p p' : Page}

/-- A handle that denotes an element at a place. -/
def Denotes (p : Page) (h : Handle) (q : Place) : Prop :=
  p.place? h = some q ∧ q.node.isElement = true

theorem Denotes.keeps {h : Handle} {q : Place} (hd : p.Denotes h q) (hk : p.Keeps p') :
    p'.Denotes h q :=
  ⟨hk.place? hd.1, hd.2⟩

/-- An open page locates what a handle denotes. -/
theorem Denotes.located {h : Handle} {q : Place} (hd : p.Denotes h q) (hp : p.closed = false) :
    located h p = .ok q := by
  unfold Page.located opened
  rw [hp, if_neg Bool.false_ne_true]
  simp only [Except.bind, hd.1]

/-- The element at a place that is denoted. -/
theorem Denotes.element {h : Handle} {q : Place} (hd : p.Denotes h q) :
    ∃ e, q.element? = some e :=
  Option.isSome_iff_exists.1 hd.2

/-- Handles that denote elements at places, in their order. -/
def DenotesAll (p : Page) : List Handle → List Place → Prop := List.Forall₂ p.Denotes

theorem DenotesAll.keeps {hs : List Handle} {qs : List Place} (hd : p.DenotesAll hs qs)
    (hk : p.Keeps p') : p'.DenotesAll hs qs :=
  hd.imp fun _ _ h => h.keeps hk

/-- A name denotes the place it was given to. -/
theorem Sound.name_denotes (hp : p.Sound) {q : Place} (hq : q ∈ p.places) :
    (p.name q.id).2.place? (p.name q.id).1 = some q := by
  have hfresh := hp.id_lt hq
  have hkeeps : p.Keeps (p.name q.id).2 := .of_grows (name_steady p q.id).grows
  rw [(hp.name hfresh).place?_iff, hkeeps.places_eq]
  refine ⟨hq, ?_⟩
  unfold Page.name
  cases hi : p.handles.idxOf? q.id with
  | some i =>
    obtain ⟨hlt, hid, -⟩ := List.idxOf?_eq_some_iff.1 hi
    simpa [List.getElem?_eq_getElem hlt] using hid
  | none => simp

/-- Names denote the places they were given to. -/
theorem Sound.nameAll_denotes (hp : p.Sound) {qs : List Place}
    (hqs : ∀ q ∈ qs, q ∈ p.places ∧ q.node.isElement = true) :
    (p.nameAll (qs.map Place.id)).2.DenotesAll (p.nameAll (qs.map Place.id)).1 qs := by
  induction qs generalizing p with
  | nil => exact .nil
  | cons q qs ih =>
    obtain ⟨hq, helement⟩ := hqs q List.mem_cons_self
    have hfresh := hp.id_lt hq
    have hkeeps : p.Keeps (p.name q.id).2 := .of_grows (name_steady p q.id).grows
    have hrest := ih (hp.name hfresh) fun r hr => by
      rw [hkeeps.places_eq]
      exact hqs r (List.mem_cons_of_mem _ hr)
    have hlater : (p.name q.id).2.Keeps ((p.name q.id).2.nameAll (qs.map Place.id)).2 :=
      .of_grows (nameAll_steady _ _).grows
    exact .cons ⟨hlater.place? (hp.name_denotes hq), helement⟩ hrest

end Page

/-! ## Lookups and what they mean -/

/-- **Answers that agree**: both fail, for one reason, or what they say is related. -/
inductive Agree {α β : Type} (R : α → β → Prop) :
    Except PageError α → Except PageError β → Prop where
  | ok {a : α} {b : β} : R a b → Agree R (.ok a) (.ok b)
  | error (e : PageError) : Agree R (.error e) (.error e)

theorem Agree.refl {α : Type} (x : Except PageError α) : Agree (· = ·) x x := by
  cases x with
  | ok a => exact .ok rfl
  | error e => exact .error e

/-- Answers that agree and say nothing are equal. -/
theorem Agree.unit_eq {R : Unit → Unit → Prop} {x y : Except PageError Unit} (h : Agree R x y) :
    x = y := by
  cases h <;> rfl

/-- **A lookup that means something** on a page: it gives out handles at most, and its answer agrees
with what is meant, in terms of the handles given out by then. -/
structure Lookup.Means {α β : Type} (q : Lookup α) (p : Page) (R : Page → α → β → Prop)
    (meant : Except PageError β) : Prop where
  grows : p.Grows (q.run.readOn p).2
  sound : (q.run.readOn p).2.Sound
  agree : Agree (R (q.run.readOn p).2) (q.run.readOn p).1 meant

namespace Lookup

variable {α β γ δ : Type} {p : Page} {R : Page → α → β → Prop} {R' : Page → γ → δ → Prop}

theorem means_pure (hp : p.Sound) {a : α} {b : β} (hab : R p a b) :
    (pure a : Lookup α).Means p R (pure b) :=
  ⟨.refl p, hp, .ok hab⟩

/-- **One lookup after another means one thing after another.** -/
theorem Means.bind {q : Lookup α} {f : α → Lookup γ} {meant : Except PageError β}
    {g : β → Except PageError δ} (hq : q.Means p R meant)
    (hf : ∀ a b p', p.Grows p' → p'.Sound → R p' a b → (f a).Means p' R' (g b)) :
    (q >>= f).Means p R' (meant >>= g) := by
  obtain ⟨hgrows, hsound, hagree⟩ := hq
  have hrun := readOn_bind q f p
  generalize hr : (q.run.readOn p).1 = r at hrun hagree
  generalize hp' : (q.run.readOn p).2 = p' at hrun hagree hgrows hsound
  cases hagree with
  | error e =>
    constructor
    · rw [hrun]
      exact hgrows
    · rw [hrun]
      exact hsound
    · rw [hrun]
      exact .error e
  | ok hab =>
    obtain ⟨hgrows', hsound', hagree'⟩ := hf _ _ p' hgrows hsound hab
    constructor
    · rw [hrun]
      exact hgrows.trans hgrows'
    · rw [hrun]
      exact hsound'
    · rw [hrun]
      exact hagree'

/-- What means something means what is made of it. -/
theorem Means.map {q : Lookup α} {meant : Except PageError β} {S : Page → α → γ → Prop}
    (hq : q.Means p R meant) (g : β → γ) (hg : ∀ p' a b, R p' a b → S p' a (g b)) :
    q.Means p S (do return g (← meant)) := by
  rw [← bind_pure q]
  exact hq.bind fun a b p' _ hp' hab => means_pure hp' (hg p' a b hab)

/-- What leaves the page as it is means what it comes to. -/
theorem means_run (hp : p.Sound) {q : Lookup α} {a : α} {b : β} (hrun : q.run.readOn p = (.ok a, p))
    (hab : R p a b) : q.Means p R (pure b) := by
  constructor
  · rw [hrun]
    exact .refl p
  · rw [hrun]
    exact hp
  · rw [hrun]
    exact .ok hab

/-- What is read off a page without changing it. -/
theorem means_read (hp : p.Sound) {c : Call} {b : β} {r : c.Result} {S : Page → c.Result → β → Prop}
    (hperform : p.perform c = (.ok r, p)) (hS : S p r b) : (ask c).Means p S (pure b) :=
  means_run hp hperform hS

end Lookup

open Lookup

namespace Sight

variable {p : Page}

theorem opened_eq (hopen : p.closed = false) : p.opened = .ok () := by
  unfold Page.opened
  rw [hopen, if_neg Bool.false_ne_true]

/-- An open page matches what a selector selects below the origin. -/
theorem matched_eq (hopen : p.closed = false) (base : Option Handle) (selector : String) :
    Page.matched base selector p =
      (select selector (p.origin base)).map fun qs => qs.map Place.id := by
  unfold Page.matched select
  rw [opened_eq hopen]
  simp only [Except.bind]
  cases Css.Selector.parse selector with
  | error flaw => rfl
  | ok selectors =>
    dsimp only
    unfold Page.origin
    cases base with
    | none => rfl
    | some h =>
      dsimp only
      cases Page.located h p <;> rfl

/-- **A query for a selector means its matches.** -/
theorem query_means (hp : p.Sound) (hopen : p.closed = false) (base : Option Handle)
    (selector : String) :
    (ask (.query base selector)).Means p Page.DenotesAll (select selector (p.origin base)) := by
  have hrun : (ask (.query base selector)).run.readOn p =
      (Page.select base selector).run.run p := rfl
  have hsound := hp.select base selector
  have hgrows : p.Grows ((Page.select base selector).run.run p).2 :=
    Page.perform_grows (c := .query base selector) rfl p
  refine ⟨hrun ▸ hgrows, hrun ▸ hsound, ?_⟩
  rw [hrun, Page.select_run, matched_eq hopen]
  cases hsel : select selector (p.origin base) with
  | error e => exact .error e
  | ok qs => exact .ok (hp.nameAll_denotes (select_mem hsel))

/-! ## Filters -/

/-- **Keeping what passes means keeping it**, if the tests mean the same. -/
theorem keep_means {test : Handle → Lookup Bool} {meant : Place → Except PageError Bool}
    (htest : ∀ p', p.Grows p' → p'.Sound → ∀ h q, p'.Denotes h q →
      (test h).Means p' (fun _ b b' => b = b') (meant q))
    (hp : p.Sound) {hs : List Handle} {qs : List Place} (hd : p.DenotesAll hs qs) :
    (ConsentWalker.keep test hs).Means p Page.DenotesAll (keep meant qs) := by
  induction hs generalizing p qs with
  | nil =>
    cases hd
    exact means_pure hp .nil
  | cons h hs ih =>
    obtain ⟨q, qs, hh, hrest, rfl⟩ := List.forall₂_cons_left_iff.1 hd
    refine (htest p (.refl p) hp h q hh).bind fun passed passed' p₁ hg₁ hp₁ hsame => ?_
    subst hsame
    have hkeeps₁ : p.Keeps p₁ := .of_grows hg₁
    refine (ih (fun p' hg => htest p' (hg₁.trans hg)) hp₁
      (hrest.imp fun _ _ hd => hd.keeps hkeeps₁)).bind fun kept kept' p₂ hg₂ hp₂ hkept => ?_
    have hh₂ : p₂.Denotes h q := (hh.keeps hkeeps₁).keeps (.of_grows hg₂)
    refine means_pure hp₂ ?_
    cases passed with
    | true => exact .cons hh₂ hkept
    | false => exact hkept

/-- A test that cannot fail keeps what passes it. -/
theorem keep_pure (f : Place → Bool) (qs : List Place) :
    keep (fun q => pure (f q)) qs = pure (qs.filter f) := by
  induction qs with
  | nil => rfl
  | cons q qs ih =>
    rw [keep, ih, List.filter_cons]
    rfl

/-- **A filter that asks one question** means a filter of places, if that is what its test reads off
the page. -/
theorem keepIf_means {τ : Type} {test : τ → Handle → Lookup Bool} {f : τ → Place → Bool}
    (hp : p.Sound)
    (htest : ∀ t p', p.Grows p' → p'.Sound → ∀ h q, p'.Denotes h q →
      (test t h).Means p' (fun _ b b' => b = b') (pure (f t q)))
    (test? : Option τ) {hs : List Handle} {qs : List Place} (hd : p.DenotesAll hs qs) :
    (ConsentWalker.keepIf test? test hs).Means p Page.DenotesAll
      (pure (qs.filter fun q => test?.all fun t => f t q)) := by
  cases test? with
  | none =>
    have hall : qs.filter (fun q => (none : Option τ).all fun t => f t q) = qs :=
      List.filter_eq_self.2 fun _ _ => rfl
    rw [hall]
    exact means_pure hp hd
  | some t =>
    have hkeep : (ConsentWalker.keep (test t) hs).Means p Page.DenotesAll
        (keep (fun q => pure (f t q)) qs) := keep_means (htest t) hp hd
    rw [keep_pure] at hkeep
    exact hkeep

section Filters

variable {h : Handle} {q : Place} (hp : p.Sound) (hopen : p.closed = false) (hd : p.Denotes h q)
include hp hopen hd

/-- A call that locates an element and reads something off its place. -/
theorem read_means {c : Call} {f : Place → Page → c.Result}
    (hc : Page.Reads (Page.answer c) fun p => (Page.located h p).bind fun q => .ok (f q p)) :
    (ask c).Means p (fun _ r r' => r = r') (pure (f q p)) := by
  have hperform : p.perform c = ((Page.located h p).bind fun q => .ok (f q p), p) := hc p
  rw [hd.located hopen] at hperform
  exact means_read hp hperform rfl

/-- A test that puts one question and looks at the answer. -/
theorem test_means {c : Call} {f : Place → Page → c.Result} {g : c.Result → Bool} {b : Bool}
    (hc : Page.Reads (Page.answer c) fun p => (Page.located h p).bind fun q => .ok (f q p))
    (hb : g (f q p) = b) :
    (do return g (← ask c) : Lookup Bool).Means p (fun _ b b' => b = b') (pure b) := by
  have hmeant : (pure b : Except PageError Bool) = pure (f q p) >>= fun r => pure (g r) := by
    rw [← hb]
    rfl
  rw [hmeant]
  refine (read_means hp hopen hd hc).bind fun r r' p' _ hp' hr => ?_
  rw [hr]
  exact means_pure hp' rfl

theorem text_means (f : TextFilter) :
    (f.test h).Means p (fun _ b b' => b = b') (pure (f.accepts q.node.text)) :=
  test_means hp hopen hd (c := .text h) (f := fun q _ => q.node.text)
    ((Page.locate_reads h).bind fun _ => Page.Reads.pure _) rfl

theorem display_means (b : Bool) :
    (testDisplay b h).Means p (fun _ b b' => b = b') (pure ((p.sight.rect q).isTall == b)) :=
  test_means hp hopen hd (c := .rect h) (f := fun q p => p.layout q) (g := fun r => r.isTall == b)
    ((Page.locate_reads h).bind fun _ => Page.Reads.get.bind fun _ => Page.Reads.pure _) rfl

theorem iframe_means (b : Bool) :
    (testIframe b h).Means p (fun _ b b' => b = b') (pure (p.sight.nested == b)) :=
  test_means hp hopen hd (c := .nested h) (f := fun _ p => p.nested) (g := fun n => n == b)
    ((Page.locate_reads h).bind fun _ => Page.Reads.get.bind fun _ => Page.Reads.pure _) rfl

/-- Filters for style are asked one after another, up to the first that is not passed. -/
theorem style_means (fs : List StyleFilter) :
    (StyleFilter.testAll fs h).Means p (fun _ b b' => b = b') (pure (admitsStyle fs q)) := by
  obtain ⟨e, he⟩ := hd.element
  induction fs generalizing p with
  | nil => exact means_pure hp rfl
  | cons f fs ih =>
    have hlocated := hd.located hopen
    have hperform : p.perform (.style h f.option) = (.ok (e.style f.option), p) := by
      have hrun : p.perform (.style h f.option) =
          ((Page.elementOf h p).bind fun e => .ok (e.style f.option), p) :=
        (Page.element_reads h).bind (fun e => Page.Reads.pure _) p
      unfold Page.elementOf at hrun
      rw [hlocated] at hrun
      simpa only [Except.bind, he] using hrun
    have hmeant : (pure (admitsStyle (f :: fs) q) : Except PageError Bool) =
        pure (e.style f.option) >>= fun v =>
          if f.accepts v then pure (admitsStyle fs q) else pure false := by
      have hall : admitsStyle (f :: fs) q = (f.accepts (e.style f.option) && admitsStyle fs q) := by
        simp [admitsStyle, he]
      rw [hall, pure_bind]
      cases f.accepts (e.style f.option) <;> rfl
    rw [hmeant]
    refine (means_read hp hperform (S := fun _ v v' => v = v') rfl).bind fun v v' p' hg hp' hv => ?_
    subst hv
    split
    · exact ih hp' (hg.closed_eq.trans hopen) (hd.keeps (.of_grows hg))
    · exact means_pure hp' rfl

end Filters

theorem keepAll_means (hopen : p.closed = false) (hp : p.Sound) (fs : List StyleFilter)
    {hs : List Handle} {qs : List Place} (hd : p.DenotesAll hs qs) :
    (StyleFilter.keepAll fs hs).Means p Page.DenotesAll (pure (qs.filter (admitsStyle fs))) := by
  unfold StyleFilter.keepAll
  split
  · next hempty =>
    rw [List.isEmpty_iff.1 hempty]
    have hall : qs.filter (admitsStyle []) = qs := List.filter_eq_self.2 fun _ _ => rfl
    rw [hall]
    exact means_pure hp hd
  · rw [← keep_pure]
    exact keep_means
      (fun p' hg hp' h q hd => style_means hp' (hg.closed_eq.trans hopen) hd fs) hp hd

/-- **Questions to children that mean the same**, on every open page with that sight. -/
def AsksAlike (s : Sight) (ask? : Option (Handle → Lookup Bool))
    (meant? : Option (Place → Except PageError Bool)) : Prop :=
  ∀ p : Page, p.Sound → p.closed = false → p.sight = s →
    Option.Rel (fun ask meant => ∀ h q, p.Denotes h q →
      (ask h : Lookup Bool).Means p (fun _ b b' => b = b') (meant q)) ask? meant?

theorem keepIf_asksAlike {ask? : Option (Handle → Lookup Bool)}
    {meant? : Option (Place → Except PageError Bool)} (hchild : AsksAlike p.sight ask? meant?)
    (hp : p.Sound) (hopen : p.closed = false) {hs : List Handle} {qs : List Place}
    (hd : p.DenotesAll hs qs) :
    (ConsentWalker.keepIf ask? id hs).Means p Page.DenotesAll (keepIf meant? qs) := by
  cases hchild p hp hopen rfl with
  | none => exact means_pure hp hd
  | some _ =>
    refine keep_means (fun p' hg hp' h q hd' => ?_) hp hd
    have hopen' : p'.closed = false := hg.closed_eq.trans hopen
    cases hchild p' hp' hopen' (Page.Keeps.of_grows hg).sight_eq with
    | some hask => exact hask h q hd'

/-- **Sifting means sifting**, if the questions to the children mean the same. -/
theorem sift_means {selector : String} {textFilter : Option TextFilter}
    {styleFilters : List StyleFilter} {displayFilter iframeFilter : Option Bool}
    {ask? : Option (Handle → Lookup Bool)} {meant? : Option (Place → Except PageError Bool)}
    (hchild : AsksAlike p.sight ask? meant?)
    (hp : p.Sound) (hopen : p.closed = false) (base : Option Handle) :
    (Query.sift selector textFilter styleFilters displayFilter iframeFilter ask? base).Means p
      Page.DenotesAll
        (p.sight.sift selector textFilter styleFilters displayFilter iframeFilter meant?
        (p.origin base)) := by
  unfold Query.sift sift
  refine (query_means hp hopen base selector).bind fun hs qs p₁ hg₁ hp₁ h₁ => ?_
  have opened {p' : Page} (hg : p.Grows p') : p'.closed = false := hg.closed_eq.trans hopen
  have sighted {p' : Page} (hg : p.Grows p') : p'.sight = p.sight :=
    (Page.Keeps.of_grows hg).sight_eq
  -- the filters that look at one element alone are passed one after another
  have hmeant : keepIf meant?
      (qs.filter (p.sight.admits textFilter styleFilters displayFilter iframeFilter)) =
      (pure (qs.filter fun q => textFilter.all fun f => f.accepts q.node.text)) >>= fun qs =>
      (pure (qs.filter (admitsStyle styleFilters))) >>= fun qs =>
      (pure (qs.filter fun q =>
        displayFilter.all fun b => (p.sight.rect q).isTall == b)) >>= fun qs =>
      (pure (qs.filter fun q => iframeFilter.all fun b => p.sight.nested == b)) >>= fun qs =>
      keepIf meant? qs := by
    simp only [pure_bind, List.filter_filter]
    congr 2
    funext q
    unfold admits
    simp only [Bool.and_comm, Bool.and_left_comm, Bool.and_assoc]
  rw [hmeant]
  refine (keepIf_means hp₁ (fun f p' hg hp' h q hd =>
    text_means hp' (opened (hg₁.trans hg)) hd f) textFilter h₁).bind fun hs qs p₂ hg₂ hp₂ h₂ => ?_
  replace hg₂ := hg₁.trans hg₂
  refine (keepAll_means (opened hg₂) hp₂ styleFilters h₂).bind fun hs qs p₃ hg₃ hp₃ h₃ => ?_
  replace hg₃ := hg₂.trans hg₃
  refine (keepIf_means hp₃ (fun b p' hg hp' h q hd => ?_) displayFilter h₃).bind
    fun hs qs p₄ hg₄ hp₄ h₄ => ?_
  · rw [← sighted (hg₃.trans hg)]
    exact display_means hp' (opened (hg₃.trans hg)) hd b
  replace hg₄ := hg₃.trans hg₄
  refine (keepIf_means hp₄ (fun b p' hg hp' h q hd => ?_) iframeFilter h₄).bind
    fun hs qs p₅ hg₅ hp₅ h₅ => ?_
  · rw [← sighted (hg₄.trans hg)]
    exact iframe_means hp' (opened (hg₄.trans hg)) hd b
  replace hg₅ := hg₄.trans hg₅
  rw [← sighted hg₅] at hchild
  exact keepIf_asksAlike hchild hp₅ (opened hg₅) h₅

end Sight

/-! ## Findings -/

namespace Sight

variable {p : Page}

/-- Findings whose targets denote elements at places, in their order. -/
def Finds (p : Page) : List Finding → List Place → Prop :=
  List.Forall₂ fun f q => ∃ h, f.target = some h ∧ p.Denotes h q

/-- The targets of findings denote the places found. -/
theorem Finds.targets {fs : List Finding} {qs : List Place} (hf : Finds p fs qs) :
    p.DenotesAll (fs.filterMap Finding.target) qs := by
  induction hf with
  | nil => exact .nil
  | cons hfirst _ ih =>
    obtain ⟨h, htarget, hd⟩ := hfirst
    rw [List.filterMap_cons_some htarget]
    exact .cons hd ih

end Sight

namespace Page

variable {p p' : Page}

/-- **A finding that tells of a pair**: its handles denote the places. -/
structure Tells (p : Page) (f : Finding) (x : Option Place × Place) : Prop where
  parent : Option.Rel p.Denotes f.parent x.1
  target : Option.Rel p.Denotes f.target (some x.2)

/-- Findings that tell of pairs, in their order. -/
def TellsAll (p : Page) : List Finding → List (Option Place × Place) → Prop := List.Forall₂ p.Tells

/-- A finding that tells of a pair, or is empty if there is none. -/
def TellsFirst (p : Page) (f : Finding) : Option (Option Place × Place) → Prop
  | none => f = {}
  | some x => p.Tells f x

theorem Tells.keeps {f : Finding} {x : Option Place × Place} (hf : p.Tells f x) (hk : p.Keeps p') :
    p'.Tells f x := by
  have keeps : ∀ {h? q?}, Option.Rel p.Denotes h? q? → Option.Rel p'.Denotes h? q? := by
    rintro _ _ (hd | _)
    · exact .some (hd.keeps hk)
    · exact .none
  exact ⟨keeps hf.parent, keeps hf.target⟩

theorem TellsAll.keeps {fs : List Finding} {xs : List (Option Place × Place)}
    (hf : p.TellsAll fs xs) (hk : p.Keeps p') : p'.TellsAll fs xs :=
  hf.imp fun _ _ h => h.keeps hk

theorem Tells.exists_target {f : Finding} {x : Option Place × Place} (hf : p.Tells f x) :
    ∃ h, f.target = some h ∧ p.Denotes h x.2 := by
  obtain ⟨-, htarget⟩ := hf
  cases hh : f.target with
  | none =>
    rw [hh] at htarget
    cases htarget
  | some h =>
    rw [hh] at htarget
    cases htarget with
    | some hd => exact ⟨h, rfl, hd⟩

/-- Findings that tell of pairs find their places. -/
theorem TellsAll.finds {fs : List Finding} {xs : List (Option Place × Place)}
    (hf : p.TellsAll fs xs) : Sight.Finds p fs (xs.map Prod.snd) :=
  List.forall₂_map_right_iff.2 (hf.imp fun _ _ h => h.exists_target)

/-- What a finding tells of is found if there is a pair. -/
theorem TellsFirst.target {f : Finding} {x? : Option (Option Place × Place)}
    (hf : p.TellsFirst f x?) : Option.Rel p.Denotes f.target (x?.map Prod.snd) := by
  cases x? with
  | none =>
    obtain rfl : f = {} := hf
    exact .none
  | some x => exact Tells.target hf

theorem TellsFirst.isSome_eq {f : Finding} {x? : Option (Option Place × Place)}
    (hf : p.TellsFirst f x?) : f.target.isSome = x?.isSome := by
  have hsome : x?.isSome = (x?.map Prod.snd).isSome := Option.isSome_map.symm
  have htarget := hf.target
  rw [hsome]
  generalize f.target = h?, x?.map Prod.snd = t? at htarget ⊢
  cases htarget <;> rfl

/-- Handles that denote places make findings that tell of them, all with the same parent. -/
theorem tellsAll_of_denotes {hs : List Handle} {qs : List Place} (hd : p.DenotesAll hs qs)
    {parent : Option Handle} {at? : Option Place} (hparent : Option.Rel p.Denotes parent at?) :
    p.TellsAll (hs.map fun h => ⟨parent, some h⟩) (qs.map fun q => (at?, q)) := by
  unfold TellsAll
  rw [List.forall₂_map_left_iff, List.forall₂_map_right_iff]
  exact hd.imp fun h q hd => ⟨hparent, .some hd⟩

end Page

/-! ## Queries -/

namespace Sight

variable {p : Page} {q : Query} {base : Option Handle}

/-- The first of some findings, that there are more being told. -/
theorem firstOf_run (selector : String) (fs : List Finding) (p : Page) :
    (firstOf selector fs).run.readOn p = (.ok (fs.head?.getD {}), p) := by
  unfold firstOf
  split <;> rfl

/-- The first of some findings tells of the first pair. -/
theorem firstOf_tells (hp : p.Sound) (selector : String) {fs : List Finding}
    {xs : List (Option Place × Place)} (hf : p.TellsAll fs xs) :
    (firstOf selector fs).Means p Page.TellsFirst (pure xs.head?) := by
  refine means_run hp (firstOf_run selector fs p) ?_
  cases hf with
  | nil => rfl
  | cons hfirst _ => exact hfirst

/-- What is made of the target of the first finding means what is made of the first pair. -/
theorem first_means {α β : Type} {R : Page → α → β → Prop} (hp : p.Sound) (selector : String)
    {fs : List Finding} {xs : List (Option Place × Place)} (hf : p.TellsAll fs xs)
    (g : Option Handle → α) (g' : Option (Option Place × Place) → β)
    (hg : ∀ p' f x?, Page.TellsFirst p' f x? → R p' (g f.target) (g' x?)) :
    (do return g (← firstOf selector fs).target : Lookup α).Means p R (pure (g' xs.head?)) := by
  have hmeant : (pure (g' xs.head?) : Except PageError β) =
      pure xs.head? >>= fun x? => pure (g' x?) :=
    rfl
  rw [hmeant]
  exact (firstOf_tells hp selector hf).bind fun f x? p' _ hp' hfirst =>
    means_pure hp' (hg p' f x? hfirst)

/-- **What is below each of some parents means what is found below each of the places.** -/
theorem below_tells {narrow : Handle → Lookup (List Handle)}
    {meant : Place → Except PageError (List Place)}
    (hn : ∀ p', p.Grows p' → p'.Sound → ∀ h q, p'.Denotes h q →
      (narrow h).Means p' Page.DenotesAll (meant q))
    (hp : p.Sound) {hs : List Handle} {qs : List Place} (hd : p.DenotesAll hs qs) :
    (below narrow hs).Means p Page.TellsAll (do
      let found ← qs.mapM fun q => do return (← meant q).map fun t => (some q, t)
      return found.flatten) := by
  induction hs generalizing p qs with
  | nil =>
    cases hd
    exact means_pure hp .nil
  | cons h hs ih =>
    obtain ⟨q, qs, hh, hrest, rfl⟩ := List.forall₂_cons_left_iff.1 hd
    have hmeant : (do
        let found ← (q :: qs).mapM fun q => do return (← meant q).map fun t => (some q, t)
        return found.flatten : Except PageError (List (Option Place × Place))) =
        meant q >>= fun found => (do
          let more ← qs.mapM fun q => do return (← meant q).map fun t => (some q, t)
          return more.flatten) >>= fun more => pure ((found.map fun t => (some q, t)) ++ more) := by
      simp only [List.mapM_cons, bind_assoc, pure_bind, List.flatten_cons]
    rw [hmeant]
    refine (hn p (.refl p) hp h q hh).bind fun targets found p₁ hg₁ hp₁ htargets => ?_
    have hrest₁ : p₁.DenotesAll hs qs := Page.DenotesAll.keeps hrest (.of_grows hg₁)
    refine (ih (fun p' hg => hn p' (hg₁.trans hg)) hp₁ hrest₁).bind
      fun more more' p₂ hg₂ hp₂ hmore => ?_
    have hh₂ : p₂.Denotes h q := (hh.keeps (.of_grows hg₁)).keeps (.of_grows hg₂)
    have htargets₂ := Page.tellsAll_of_denotes (htargets.keeps (.of_grows hg₂)) (.some hh₂)
    exact means_pure hp₂ (List.rel_append htargets₂ hmore)

/-- **What is below a base, or below each of its parents, means what is found there.** -/
theorem spread_tells {narrow : Option Handle → Lookup (List Handle)}
    {meant : Except PageError Place → Except PageError (List Place)}
    (hn : ∀ p', p.Grows p' → p'.Sound → ∀ base,
      (narrow base).Means p' Page.DenotesAll (meant (p'.origin base)))
    (hp : p.Sound) (hopen : p.closed = false) (base : Option Handle)
    {parents : Option (Lookup (List Handle))} {seen : Option (Except PageError (List Place))}
    (hparents : Option.Rel (fun ps seen => (ps : Lookup (List Handle)).Means p Page.DenotesAll seen)
      parents seen) :
    (Query.spread narrow base parents).Means p Page.TellsAll
      (spread meant (p.origin base) seen) := by
  cases hparents with
  | none =>
    exact (hn p (.refl p) hp base).bind fun hs qs p₁ _ hp₁ hd =>
      means_pure hp₁ (Page.tellsAll_of_denotes hd .none)
  | some hps =>
    refine Means.bind hps fun hs qs p₁ hg₁ hp₁ hd =>
      below_tells (fun p' hg hp' h r hr => ?_) hp₁ hd
    -- a parent denotes its place as long as nothing but handles is added
    have horigin : p'.origin (some h) = .ok r :=
      hr.located ((hg₁.trans hg).closed_eq.trans hopen)
    rw [← horigin]
    exact hn p' (hg₁.trans hg) hp' (some h)

/-- **Resolving a query means seeking its pairs.** -/
theorem resolve_tells (plural : Bool) (q : Query) (base : Option Handle) :
    ∀ p : Page, p.Sound → p.closed = false →
      (q.resolve plural base).Means p Page.TellsAll
        (p.sight.seekPairs plural q (p.origin base)) := by
  induction plural, q, base using Query.resolve.induct
    (motive_2 := fun plural parent base => ∀ p : Page, p.Sound → p.closed = false →
      Option.Rel (fun ps meant => (ps : Lookup (List Handle)).Means p Page.DenotesAll meant)
        (Query.parents plural parent base) (p.sight.parentsSeen plural parent (p.origin base)))
    (motive_3 := fun child => ∀ s : Sight,
      AsksAlike s (Query.childTest child) (s.childSeen child)) with
  | case1 plural selector tf sf df iff child parent base ihchild ihparent =>
    intro p hp hopen
    rw [Query.resolve, seekPairs]
    refine spread_tells (fun p' hg hp' base' => ?_) hp hopen base (ihparent p hp hopen)
    rw [← (Page.Keeps.of_grows hg).sight_eq]
    exact sift_means (ihchild _) hp' (hg.closed_eq.trans hopen) base'
  | case2 plural base p hp hopen => exact .none
  | case3 plural parent base ih p hp hopen =>
    refine .some ((ih p hp hopen).bind fun fs xs p₁ hg₁ hp₁ hf => ?_)
    cases plural with
    | true => exact means_pure hp₁ hf.finds.targets
    | false =>
      have hmeant : (xs.map Prod.snd).head?.toList = (xs.head?.map Prod.snd).toList := by
        rw [List.head?_map]
      change Lookup.Means _ p₁ _ (pure (xs.map Prod.snd).head?.toList)
      rw [hmeant]
      refine first_means hp₁ _ hf Option.toList (fun x? => (x?.map Prod.snd).toList)
        fun p' f x? hfirst => ?_
      have htarget := hfirst.target
      generalize f.target = h?, x?.map Prod.snd = t? at htarget ⊢
      cases htarget with
      | none => exact .nil
      | some hd => exact .cons hd .nil
  | case4 s =>
    intro p hp hopen hs
    exact .none
  | case5 child ih s =>
    intro p hp hopen hs
    refine .some fun h q hd => ?_
    have horigin : p.origin (some h) = .ok q := hd.located hopen
    subst hs
    rw [← horigin]
    exact (ih h p hp hopen).bind fun fs xs p₁ hg₁ hp₁ hf =>
      first_means hp₁ _ hf Option.isSome Option.isSome fun p' f x? hfirst => hfirst.isSome_eq

/-- **Resolving a query means seeking its places.** -/
theorem resolve_means (plural : Bool) (q : Query) (base : Option Handle) (hp : p.Sound)
    (hopen : p.closed = false) :
    (q.resolve plural base).Means p Finds (p.sight.seek plural q (p.origin base)) :=
  (resolve_tells plural q base p hp hopen).map _ fun _ _ _ hf => hf.finds

/-- **Looking for one element** tells of the first pair the query finds. -/
theorem find_tells (hp : p.Sound) (hopen : p.closed = false) (q : Query) (base : Option Handle) :
    (q.find base).Means p Page.TellsFirst
      (do return (← p.sight.seekPairs false q (p.origin base)).head?) :=
  (resolve_tells false q base p hp hopen).bind fun _ _ _ _ hp₁ hf => firstOf_tells hp₁ _ hf

/-- So it means to take the first place the query finds. -/
theorem target?_means (hp : p.Sound) (hopen : p.closed = false) (q : Query) (base : Option Handle) :
    (q.target? base).Means p (fun p => Option.Rel p.Denotes)
      (do return (← p.sight.seek false q (p.origin base)).head?) := by
  have hmeant : (do return (← p.sight.seek false q (p.origin base)).head? :
      Except PageError (Option Place)) =
      (do return (← p.sight.seekPairs false q (p.origin base)).head?) >>= fun x? =>
        pure (x?.map Prod.snd) := by
    simp only [seek, bind_assoc, pure_bind, List.head?_map]
  rw [hmeant]
  exact (find_tells hp hopen q base).bind fun f x? p₁ _ hp₁ hfirst => means_pure hp₁ hfirst.target

end Sight
end ConsentWalker
