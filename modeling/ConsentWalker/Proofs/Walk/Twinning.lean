import ConsentWalker.Proofs.Page.Twins
import ConsentWalker.Walk.Handling
/-!
# Walk — routines that do the same to twins

No part of a walk looks at the number of a handle: it asks about handles that it was given, and
keeps them. So with handles of the same nodes it makes the same calls and comes to the same,
whatever their numbers are. `Routine.Twin` says it of two routines: an answer to the one and an
answer to the other that are the same but for handles lead to routines of which it holds again.

Handles are given out as routines go on, so a pair of routines is seen from some tables of handles
on (`Tables`), and everything said of it holds of all later tables.
-/

namespace ConsentWalker

/-- Answers to calls that are linked: both fail, or both yield what is the same but for handles. The
page never refuses to be observed. -/
structure Call.Answered (L : Tables) (c d : Call) (r : Except PageError c.Result)
    (r' : Except PageError d.Result) : Prop where
  paired : Paired (Call.Yields L c d) r r'
  observed : c = .observe → ∃ a, r = .ok a

theorem Call.Links.mono {L M : Tables} {c d : Call} (hl : c.Links L d) (hle : L ≤ M) :
    c.Links M d := by
  cases hl with
  | query selector hscope =>
    refine .query selector ?_
    cases hscope with
    | none => exact .none
    | some hl => exact .some (hl.mono hle)
  | text hl => exact .text (hl.mono hle)
  | style property hl => exact .style property (hl.mono hle)
  | rect hl => exact .rect (hl.mono hle)
  | nested hl => exact .nested (hl.mono hle)
  | isChecked hl => exact .isChecked (hl.mono hle)
  | scroll hl => exact .scroll (hl.mono hle)
  | focus hl => exact .focus (hl.mono hle)
  | click b hl => exact .click b (hl.mono hle)
  | pointer phase point hl => exact .pointer phase point (hl.mono hle)
  | setHidden b hl => exact .setHidden b (hl.mono hle)
  | paint passed hl => exact .paint passed (hl.mono hle)
  | showProgress message => exact .showProgress message
  | hideProgress => exact .hideProgress
  | close => exact .close
  | observe => exact .observe

/-! ## Routines -/

namespace Routine

variable {α β γ δ : Type}

/-- **Routines that do the same to twins**, once some handles were given out. What they tell is left
open. -/
inductive Twin (R : Tables → α → β → Prop) : Tables → Routine α → Routine β → Prop where
  | done {L : Tables} {a : α} {b : β} : R L a b → Twin R L (.done a) (.done b)
  | call {L : Tables} {c d : Call} {next : Except PageError c.Result → Routine α}
      {next' : Except PageError d.Result → Routine β} : c.Links L d →
      (∀ M r r', L ≤ M → Call.Answered M c d r r' → Twin R M (next r) (next' r')) →
      Twin R L (.call c next) (.call d next')
  | note {L : Tables} {next : Routine α} {next' : Routine β} (n n' : Notice) :
      Twin R L next next' → Twin R L (.note n next) (.note n' next')
  | sleep {L : Tables} {next : Routine α} {next' : Routine β} (time : Nat) :
      Twin R L next next' → Twin R L (.sleep time next) (.sleep time next')
  | pause {L : Tables} {next : Routine α} {next' : Routine β} :
      Twin R L next next' → Twin R L (.pause next) (.pause next')
  | await {L : Tables} {next : Option Nat → Routine α} {next' : Option Nat → Routine β}
      (o : Observer) : (∀ records, Twin R L (next records) (next' records)) →
      Twin R L (.await o next) (.await o next')
  | drop {L : Tables} {next : Routine α} {next' : Routine β} (o : Observer) :
      Twin R L next next' → Twin R L (.drop o next) (.drop o next')
  | report {L : Tables} {next : Routine α} {next' : Routine β} (vendor : String) :
      Twin R L next next' → Twin R L (.report vendor next) (.report vendor next')

/-- A relation that holds of all later tables once it holds. -/
def Lasts (R : Tables → α → β → Prop) : Prop := ∀ L M a b, L ≤ M → R L a b → R M a b

variable {R : Tables → α → β → Prop} {S : Tables → γ → δ → Prop} {L M : Tables}
variable {r : Routine α} {r' : Routine β}

/-- **What does the same does so later too**, when more handles were given out. -/
theorem Twin.mono (h : Twin R L r r') (hR : Lasts R) (hle : L ≤ M) : Twin R M r r' := by
  induction h generalizing M with
  | done hab => exact .done (hR _ _ _ _ hle hab)
  | call hl hnext _ => exact .call (hl.mono hle) fun N r r' hle' => hnext N r r' (le_trans hle hle')
  | note n n' _ ih => exact .note n n' (ih hle)
  | sleep time _ ih => exact .sleep time (ih hle)
  | pause _ ih => exact .pause (ih hle)
  | await o _ ih => exact .await o fun records => ih records hle
  | drop o _ ih => exact .drop o (ih hle)
  | report vendor _ ih => exact .report vendor (ih hle)

/-- **Routines that do the same, one after another.** -/
theorem Twin.bind (h : Twin R L r r') {f : α → Routine γ} {f' : β → Routine δ}
    (hf : ∀ M a b, L ≤ M → R M a b → Twin S M (f a) (f' b)) :
    Twin S L (r.bind f) (r'.bind f') := by
  induction h with
  | done hab => exact hf _ _ _ (le_refl _) hab
  | call hl _ ih =>
    exact .call hl fun M r r' hle hr => ih M r r' hle hr fun N a b hle' =>
      hf N a b (le_trans hle hle')
  | note n n' _ ih => exact .note n n' (ih hf)
  | sleep time _ ih => exact .sleep time (ih hf)
  | pause _ ih => exact .pause (ih hf)
  | await o _ ih => exact .await o fun records => ih records hf
  | drop o _ ih => exact .drop o (ih hf)
  | report vendor _ ih => exact .report vendor (ih hf)

/-- Results that pair in one way pair in every weaker one. -/
theorem Twin.imp {S : Tables → α → β → Prop} (h : Twin R L r r')
    (hRS : ∀ M a b, L ≤ M → R M a b → S M a b) : Twin S L r r' := by
  have hbind : Twin S L (r.bind .done) (r'.bind .done) :=
    h.bind fun M a b hle hab => .done (hRS M a b hle hab)
  rwa [bind_done, bind_done] at hbind

/-- Asking something about linked handles. -/
theorem Twin.attempt {c d : Call} (hl : c.Links L d) :
    Twin (fun M => Call.Answered M c d) L (attempt c) (attempt d) :=
  .call hl fun _ _ _ _ hr => .done hr

end Routine

/-! ## Lookups -/

namespace Lookup

variable {α β γ δ : Type} {R : Tables → α → β → Prop} {S : Tables → γ → δ → Prop} {L M : Tables}

/-- **Lookups that find the same on twins**, from some tables on. -/
def Twin (R : Tables → α → β → Prop) (L : Tables) (q : Lookup α) (q' : Lookup β) : Prop :=
  ∀ M, L ≤ M → Routine.Twin (fun N => Paired (R N)) M q.run q'.run

variable {q : Lookup α} {q' : Lookup β}

theorem Twin.mono (h : Twin R L q q') (hle : L ≤ M) : Twin R M q q' :=
  fun N hle' => h N (le_trans hle hle')

theorem Twin.pure {a : α} {b : β} (hab : ∀ M, L ≤ M → R M a b) :
    Twin R L (Pure.pure a) (Pure.pure b) :=
  fun M hle => .done (.ok (hab M hle))

theorem Twin.bind (h : Twin R L q q') {f : α → Lookup γ} {f' : β → Lookup δ}
    (hf : ∀ M a b, L ≤ M → R M a b → Twin S M (f a) (f' b)) :
    Twin S L (q >>= f) (q' >>= f') := by
  intro M hle
  refine (h M hle).bind fun N r r' hle' hr => ?_
  cases hr with
  | error e e' => exact .done (.error e e')
  | ok hab => exact hf N _ _ (le_trans hle hle') hab N (le_refl _)

/-- Finding the same, and making the same of it. -/
theorem Twin.map (h : Twin R L q q') {f : α → γ} {f' : β → δ}
    (hf : ∀ M a b, R M a b → S M (f a) (f' b)) (hS : Routine.Lasts S) :
    Twin S L (do return f (← q)) (do return f' (← q')) :=
  h.bind fun M a b _ hab => .pure fun N hle => hS M N _ _ hle (hf M a b hab)

/-- Asking about linked handles. -/
theorem Twin.ask {c d : Call} (hl : c.Links L d) :
    Twin (fun M => Call.Yields M c d) L (ask c) (ask d) :=
  fun _ hle => (Routine.Twin.attempt (hl.mono hle)).imp fun _ _ _ _ hr => hr.paired

theorem Twin.tell (n n' : Notice) :
    Twin (fun _ _ _ => True) L (ConsentWalker.tell n : Lookup Unit) (ConsentWalker.tell n') :=
  fun _ _ => .note n n' (.done (.ok trivial))

end Lookup

namespace Tables

/-- Lists of handles of the same nodes, in the same order. -/
abbrev LinksEach (L : Tables) : List Handle → List Handle → Prop := List.Forall₂ L.Links

theorem LinksEach.mono {L M : Tables} {hs ks : List Handle} (hl : L.LinksEach hs ks) (hle : L ≤ M) :
    M.LinksEach hs ks :=
  hl.imp fun _ _ h => h.mono hle

/-- Two handles of one node, or none at all. -/
abbrev LinksAny (L : Tables) : Option Handle → Option Handle → Prop := Option.Rel L.Links

theorem LinksAny.mono {L M : Tables} {h k : Option Handle} (hl : L.LinksAny h k) (hle : L ≤ M) :
    M.LinksAny h k := by
  cases hl with
  | none => exact .none
  | some hl => exact .some (hl.mono hle)

/-- The first of some linked handles are linked. -/
theorem LinksEach.head? {L : Tables} {hs ks : List Handle} (hl : L.LinksEach hs ks) :
    L.LinksAny hs.head? ks.head? := by
  cases hl with
  | nil => exact .none
  | cons hl _ => exact .some hl

theorem LinksAny.toList {L : Tables} {h k : Option Handle} (hl : L.LinksAny h k) :
    L.LinksEach h.toList k.toList := by
  cases hl with
  | none => exact .nil
  | some hl => exact .cons hl .nil

theorem LinksAny.isSome_eq {L : Tables} {h k : Option Handle} (hl : L.LinksAny h k) :
    h.isSome = k.isSome := by
  cases hl <;> rfl

end Tables

/-- Findings that are the same but for handles. -/
structure Finding.Links (L : Tables) (f g : Finding) : Prop where
  parent : L.LinksAny f.parent g.parent
  target : L.LinksAny f.target g.target

theorem Finding.Links.mono {L M : Tables} {f g : Finding} (hl : f.Links L g) (hle : L ≤ M) :
    f.Links M g :=
  ⟨hl.parent.mono hle, hl.target.mono hle⟩

section Lookups

open Lookup

variable {L M : Tables} {h k : Handle} {hs ks : List Handle} {base base' : Option Handle}

/-- Tests that come to the same on linked handles. -/
def TestsAlike (L : Tables) (test test' : Handle → Lookup Bool) : Prop :=
  ∀ M h k, L ≤ M → M.Links h k → Twin (fun _ => (· = ·)) M (test h) (test' k)

/-- **Keeping what passes a test** keeps handles of the same nodes. -/
theorem keep_twin {test test' : Handle → Lookup Bool} (ht : TestsAlike L test test')
    (hl : L.LinksEach hs ks) :
    Twin (fun M => M.LinksEach) L (keep test hs) (keep test' ks) := by
  induction hl with
  | nil => exact .pure fun _ _ => .nil
  | @cons h k hs ks hlink _ ih =>
    refine (ht L h k (le_refl _) hlink).bind ?_
    rintro M passed _ hle rfl
    refine (ih.mono hle).bind fun N kept kept' hle' hkept => .pure fun O hle'' => ?_
    cases passed with
    | true => exact .cons (hlink.mono (le_trans hle (le_trans hle' hle''))) (hkept.mono hle'')
    | false => exact hkept.mono hle''

/-- Passing elements through a filter, if there is one, keeps linked ones. -/
theorem keepIf_twin {α : Type} {test : α → Handle → Lookup Bool} (test? : Option α)
    (ht : ∀ a, TestsAlike L (test a) (test a)) (hl : L.LinksEach hs ks) :
    Twin (fun M => M.LinksEach) L (keepIf test? test hs) (keepIf test? test ks) := by
  cases test? with
  | none => exact .pure fun _ hle => hl.mono hle
  | some a => exact keep_twin (ht a) hl

theorem TextFilter.test_alike (f : TextFilter) : TestsAlike L f.test f.test :=
  fun _ _ _ _ hl => (Twin.ask (.text hl)).map (fun _ _ _ hab => congrArg f.accepts hab)
    fun _ _ _ _ _ hab => hab

/-- The style of an element is the same on both twins, so it passes the same filters. -/
theorem StyleFilter.testAll_alike (fs : List StyleFilter) :
    TestsAlike L (testAll fs) (testAll fs) := by
  induction fs with
  | nil => exact fun _ _ _ _ _ => .pure fun _ _ => rfl
  | cons f rest ih =>
    intro M h k hle hl
    refine (Twin.ask (.style f.option hl)).bind ?_
    rintro N a b hle' (rfl : a = b)
    split
    · exact ih N h k (le_trans hle hle') (hl.mono hle')
    · exact .pure fun _ _ => rfl

theorem StyleFilter.keepAll_twin (fs : List StyleFilter) (hl : L.LinksEach hs ks) :
    Twin (fun M => M.LinksEach) L (keepAll fs hs) (keepAll fs ks) := by
  unfold keepAll
  split
  · exact .pure fun _ hle => hl.mono hle
  · exact keep_twin (testAll_alike fs) hl

theorem testDisplay_alike (displayed : Bool) :
    TestsAlike L (testDisplay displayed) (testDisplay displayed) :=
  fun _ _ _ _ hl => (Twin.ask (.rect hl)).map
    (fun _ _ _ hab => congrArg (fun r : Rect => r.isTall == displayed) hab) fun _ _ _ _ _ hab => hab

theorem testIframe_alike (nested : Bool) : TestsAlike L (testIframe nested) (testIframe nested) :=
  fun _ _ _ _ hl => (Twin.ask (.nested hl)).map
    (fun _ _ _ hab => congrArg (· == nested) hab) fun _ _ _ _ _ hab => hab

/-- The first of some findings is one of the same nodes as the first of others. -/
theorem firstOf_twin (selector : String) {fs gs : List Finding}
    (hl : List.Forall₂ (Finding.Links L) fs gs) :
    Twin (fun M f g => f.Links M g) L (firstOf selector fs) (firstOf selector gs) := by
  have hfirst : ∀ M, L ≤ M → (fs.head?.getD {}).Links M (gs.head?.getD {}) := by
    intro M hle
    cases hl with
    | nil => exact ⟨.none, .none⟩
    | cons hlink _ => exact hlink.mono hle
  unfold firstOf
  rw [hl.length_eq]
  split
  · exact (Twin.tell _ _).bind fun M _ _ hle _ => .pure fun N hle' => hfirst N (le_trans hle hle')
  · exact .pure hfirst

/-- Looking below linked parents finds linked elements. -/
theorem below_twin {narrow narrow' : Handle → Lookup (List Handle)}
    (hn : ∀ M h k, L ≤ M → M.Links h k → Twin (fun N => N.LinksEach) M (narrow h) (narrow' k))
    (hl : L.LinksEach hs ks) :
    Twin (fun M => List.Forall₂ (Finding.Links M)) L (below narrow hs) (below narrow' ks) := by
  induction hl with
  | nil => exact .pure fun _ _ => .nil
  | @cons h k hs ks hlink _ ih =>
    refine (hn L h k (le_refl _) hlink).bind fun M ts ts' hle htargets => ?_
    refine (ih.mono hle).bind fun N more more' hle' hmore => .pure fun O hle'' => ?_
    have hparent : O.Links h k := hlink.mono (le_trans hle (le_trans hle' hle''))
    refine List.rel_append (List.forall₂_map_left_iff.2 (List.forall₂_map_right_iff.2 ?_))
      (hmore.imp fun _ _ hf => hf.mono hle'')
    exact htargets.imp fun _ _ ht => ⟨.some hparent, .some (ht.mono (le_trans hle' hle''))⟩

namespace Query

variable {α : Type}

/-- Sifting on twins finds linked elements. -/
theorem sift_twin (selector : String) (textFilter : Option TextFilter)
    (styleFilters : List StyleFilter) (displayFilter iframeFilter : Option Bool)
    {childFilter : Option (Handle → Lookup Bool)}
    (hc : ∀ M test, childFilter = some test → TestsAlike M test test)
    (hl : L.LinksAny base base') :
    Twin (fun M => M.LinksEach) L
      (sift selector textFilter styleFilters displayFilter iframeFilter childFilter base)
      (sift selector textFilter styleFilters displayFilter iframeFilter childFilter base') := by
  refine (Twin.ask (.query selector hl)).bind fun M _ _ _ hmatched => ?_
  refine (keepIf_twin textFilter (fun f => f.test_alike) hmatched).bind fun M _ _ _ hkept => ?_
  refine (StyleFilter.keepAll_twin styleFilters hkept).bind fun M _ _ _ hkept => ?_
  refine (keepIf_twin displayFilter testDisplay_alike hkept).bind fun M _ _ _ hkept => ?_
  refine (keepIf_twin iframeFilter testIframe_alike hkept).bind fun M _ _ _ hkept => ?_
  cases childFilter with
  | none => exact .pure fun _ hle => hkept.mono hle
  | some test => exact keep_twin (hc M test rfl) hkept

/-- Looking below linked bases or below linked parents finds linked elements. -/
theorem spread_twin {narrow : Option Handle → Lookup (List Handle)}
    {parents parents' : Option (Lookup (List Handle))}
    (hn : ∀ M b b', L ≤ M → M.LinksAny b b' → Twin (fun N => N.LinksEach) M (narrow b) (narrow b'))
    (hp : Option.Rel (Twin (fun N => N.LinksEach) L) parents parents')
    (hl : L.LinksAny base base') :
    Twin (fun M => List.Forall₂ (Finding.Links M)) L
      (spread narrow base parents) (spread narrow base' parents') := by
  cases hp with
  | none =>
    refine (hn L _ _ (le_refl _) hl).bind fun M ts ts' hle htargets => .pure fun N hle' => ?_
    refine List.forall₂_map_left_iff.2 (List.forall₂_map_right_iff.2 ?_)
    exact htargets.imp fun _ _ ht => ⟨.none, .some (ht.mono hle')⟩
  | some hp =>
    refine hp.bind fun M hs ks hle hparents => below_twin ?_ hparents
    exact fun N h k hle' hlink => hn N _ _ (le_trans hle hle') (.some hlink)

/-- The targets of findings of the same nodes are of the same nodes. -/
theorem targets_linked {fs gs : List Finding} (hl : List.Forall₂ (Finding.Links L) fs gs) :
    L.LinksEach (fs.filterMap Finding.target) (gs.filterMap Finding.target) := by
  induction hl with
  | nil => exact .nil
  | @cons f g fs gs hlink _ ih =>
    obtain ⟨parent, target⟩ := f
    obtain ⟨parent', target'⟩ := g
    obtain ⟨-, htarget⟩ := hlink
    cases htarget with
    | none => exact ih
    | some ht => exact .cons ht ih

/-- **Resolving a query finds the same nodes**, along its parents and inside its matches. -/
theorem resolve_twin (plural : Bool) (q : Query) :
    ∀ L base base', L.LinksAny base base' → Twin (fun M => List.Forall₂ (Finding.Links M)) L
      (q.resolve plural base) (q.resolve plural base') := by
  suffices h : ∀ base, ∀ L base', L.LinksAny base base' →
      Twin (fun M => List.Forall₂ (Finding.Links M)) L
        (q.resolve plural base) (q.resolve plural base') from
    fun L base base' hl => h base L base' hl
  intro base
  induction plural, q, base using resolve.induct
    (motive_2 := fun plural p base => ∀ L base', L.LinksAny base base' →
      Option.Rel (Twin (fun M => M.LinksEach) L) (parents plural p base) (parents plural p base'))
    (motive_3 := fun c => ∀ L test, childTest c = some test → TestsAlike L test test) with
  | case1 plural selector tf sf df iff child parent base ihchild ihparent =>
    intro L base' hl
    rw [resolve, resolve]
    exact spread_twin (fun M _ _ _ hb => sift_twin selector tf sf df iff ihchild hb)
      (ihparent L base' hl) hl
  | case2 plural base L base' hl => exact .none
  | case3 plural p base ih L base' hl =>
    refine .some ((ih L base' hl).bind fun M fs gs hle hfindings => ?_)
    split
    · exact .pure fun N hle' => (targets_linked hfindings).mono hle'
    · exact (firstOf_twin p.selector hfindings).map (fun _ _ _ hfirst => hfirst.target.toList)
        fun _ _ _ _ hle' hl' => hl'.mono hle'
  | case4 L test h => cases h
  | case5 child ih L test h =>
    cases h
    intro M h k hle hl
    refine (ih h M (some k) (.some hl)).bind fun N fs gs _ hfindings => ?_
    exact (firstOf_twin child.selector hfindings).map (fun _ _ _ hfirst => hfirst.target.isSome_eq)
      fun _ _ _ _ _ heq => heq

/-- **Looking for one element finds the same node.** -/
theorem target?_twin (q : Query) (hl : L.LinksAny base base') :
    Twin (fun M => M.LinksAny) L (q.target? base) (q.target? base') := by
  have hfind : Twin (fun M f g => f.Links M g) L (q.find base) (q.find base') :=
    (q.resolve_twin false L base base' hl).bind fun _ _ _ _ hfindings =>
      firstOf_twin q.selector hfindings
  exact hfind.map (fun _ _ _ hfound => hfound.target) fun _ _ _ _ hle hl => hl.mono hle

/-- Looking for every element finds the same nodes. -/
theorem findAll_twin (q : Query) (hl : L.LinksAny base base') :
    Twin (fun M => List.Forall₂ (Finding.Links M)) L (q.findAll base) (q.findAll base') :=
  q.resolve_twin true L base base' hl

end Query

namespace Matcher

theorem state_twin (m : Matcher) (hl : L.Links h k) :
    Twin (fun _ => (· = ·)) L (m.state h) (m.state k) := by
  cases m with
  | css => exact .pure fun _ _ => rfl
  | checkbox => exact Twin.ask (.isChecked hl)

/-- **A question is answered alike.** -/
theorem holds_twin (m : Matcher) (hl : L.LinksAny base base') :
    Twin (fun _ => (· = ·)) L (m.holds base) (m.holds base') := by
  refine (m.target.target?_twin hl).bind fun M _ _ _ hfound => ?_
  cases hfound with
  | none => exact .pure fun _ _ => rfl
  | some hl => exact m.state_twin hl

/-- An outline is drawn on both twins, around the same node. -/
theorem outline_twin (m : Matcher) (hl : L.LinksAny base base') (wanted : Bool) :
    Twin (fun _ _ _ => True) L (m.outline base wanted) (m.outline base' wanted) := by
  refine (m.target.target?_twin hl).bind fun M _ _ _ hfound => ?_
  cases hfound with
  | none => exact .pure fun _ _ => trivial
  | some hl =>
    refine (m.state_twin hl).bind ?_
    rintro N b _ hle rfl
    exact Twin.ask (.paint (b == wanted) (hl.mono hle))

end Matcher

namespace Vendor

/-- The first detector that detects is the same on both twins. -/
theorem firstPresent_twin (ds : List Detector) :
    Twin (fun _ => (· = ·)) L (firstPresent ds) (firstPresent ds) := by
  induction ds generalizing L with
  | nil => exact .pure fun _ _ => rfl
  | cons d rest ih =>
    refine (d.present.holds_twin .none).bind ?_
    rintro M b _ - rfl
    split
    · exact .pure fun _ _ => rfl
    · exact ih

/-- **Detection comes to the same on twins.** -/
theorem detect_twin (v : Vendor) : Twin (fun _ => (· = ·)) L v.detect v.detect :=
  (firstPresent_twin v.detectors).map (fun _ _ _ hd => congrArg Option.isSome hd)
    fun _ _ _ _ _ heq => heq

/-- The check whether a dialog shows comes to the same on twins. -/
theorem isShowing_twin (v : Vendor) : Twin (fun _ => (· = ·)) L v.isShowing v.isShowing := by
  refine (firstPresent_twin v.detectors).bind ?_
  rintro M d _ - rfl
  cases d with
  | none => exact .pure fun _ _ => rfl
  | some d => exact d.showing.holds_twin .none

end Vendor

end Lookups
end ConsentWalker
