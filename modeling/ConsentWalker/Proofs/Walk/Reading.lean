import ConsentWalker.Proofs.Walk.Course
import ConsentWalker.Walk.Handling
/-!
# Walk — looking without touching

Resolving a query, putting a question and telling whether a dialog is there or on screen only look
at the page: no act of theirs but questions and notices. `Vendor.detect_looks` and
`Vendor.isShowing_looks` are what the search takes from here, and `Only.time_eq` says that looking
takes no time. Queries look at less: they do not ask what is checked (`Query.target?_finds`).

Lookups are put together of questions and notices. What such a question has and what is passed on by
one lookup after another is `Lookup.Hereditary`, and resolving a query has it too
(`Hereditary.resolve`).
-/

namespace ConsentWalker

/-- An act that leaves the page as it is and takes no time. -/
def Act.IsLook : Act → Prop
  | .call c _ => c.isRead
  | .note _ => True
  | _ => False

/-- Whether a call looks where elements stand or what they are like, and not whether one is
checked. -/
def Call.isFind (c : Call) : Bool := c.isRead && c.kind != .isChecked

/-- An act by which elements are found. -/
def Act.IsFind : Act → Prop
  | .call c _ => c.isFind
  | .note _ => True
  | _ => False

/-- Who finds only looks. -/
theorem Act.IsFind.isLook (a : Act) (ha : a.IsFind) : a.IsLook := by
  cases a with
  | call c r => exact (Bool.and_eq_true_iff.1 ha).1
  | note => trivial
  | _ => exact absurd ha id

/-- A lookup that only looks. -/
def Lookup.Looks {α : Type} (q : Lookup α) : Prop := q.run.Only Act.IsLook

/-- A lookup that only looks where elements stand and what they are like. -/
def Lookup.Finds {α : Type} (q : Lookup α) : Prop := q.run.Only Act.IsFind

namespace Lookup

variable {α β : Type}

theorem Finds.looks {q : Lookup α} (hq : q.Finds) : q.Looks :=
  Routine.Only.mono hq Act.IsFind.isLook

theorem looks_pure (a : α) : Lookup.Looks (pure a : Lookup α) := trivial

theorem looks_ask {c : Call} (hc : c.isRead) : Lookup.Looks (ask c) := fun _ => ⟨hc, trivial⟩

/-- Lookups one after another do acts of one kind only if each of them does. -/
theorem only_bind {P : Act → Prop} {q : Lookup α} {f : α → Lookup β} (hq : q.run.Only P)
    (hf : ∀ a, (f a).run.Only P) : (q >>= f).run.Only P := by
  rw [ExceptT.run_bind]
  refine Routine.Only.bind hq fun r => ?_
  cases r with
  | ok a => exact hf a
  | error e => trivial

/-- Lookups one after another only look if each of them does. -/
theorem Looks.bind {q : Lookup α} {f : α → Lookup β} (hq : q.Looks) (hf : ∀ a, (f a).Looks) :
    Lookup.Looks (q >>= f) :=
  only_bind hq hf

/-! ## What lookups inherit -/

/-- **A property that lookups inherit** from what they are put together of: questions by which
elements are found, and notices. -/
structure Hereditary (P : {α : Type} → Lookup α → Prop) : Prop where
  pure {α : Type} (a : α) : P (Pure.pure a : Lookup α)
  ask {c : Call} : c.isFind → P (ConsentWalker.ask c)
  tell (n : Notice) : P (ConsentWalker.tell n : Lookup Unit)
  bind {α β : Type} {q : Lookup α} {f : α → Lookup β} : P q → (∀ a, P (f a)) → P (q >>= f)

namespace Hereditary

variable {P : {α : Type} → Lookup α → Prop} (hP : Hereditary @P)
include hP

/-- Passing elements through a test is as hereditary as the test. -/
theorem keep {test : Handle → Lookup Bool} (ht : ∀ h, P (test h)) (hs : List Handle) :
    P (ConsentWalker.keep test hs) := by
  induction hs with
  | nil => exact hP.pure _
  | cons h rest ih => exact hP.bind (ht h) fun _ => hP.bind ih fun _ => hP.pure _

theorem keepIf {test? : Option β} {test : β → Handle → Lookup Bool} (ht : ∀ b h, P (test b h))
    (hs : List Handle) : P (ConsentWalker.keepIf test? test hs) := by
  cases test? with
  | none => exact hP.pure _
  | some b => exact hP.keep (ht b) hs

theorem testAll (fs : List StyleFilter) (h : Handle) : P (StyleFilter.testAll fs h) := by
  induction fs with
  | nil => exact hP.pure _
  | cons f rest ih =>
    refine hP.bind (hP.ask rfl) fun s => ?_
    split
    · exact ih
    · exact hP.pure _

theorem keepAll (fs : List StyleFilter) (hs : List Handle) : P (StyleFilter.keepAll fs hs) := by
  unfold StyleFilter.keepAll
  split
  · exact hP.pure _
  · exact hP.keep (hP.testAll fs) hs

theorem firstOf (selector : String) (findings : List Finding) :
    P (ConsentWalker.firstOf selector findings) := by
  unfold ConsentWalker.firstOf
  split
  · exact hP.bind (hP.tell _) fun _ => hP.pure _
  · exact hP.pure _

/-- Looking below some parents, one after another. -/
theorem below {narrow : Handle → Lookup (List Handle)} (hn : ∀ h, P (narrow h)) (ps : List Handle) :
    P (ConsentWalker.below narrow ps) := by
  induction ps with
  | nil => exact hP.pure _
  | cons p rest ih => exact hP.bind (hn p) fun _ => hP.bind ih fun _ => hP.pure _

/-- Sifting inherits it, if the question to the children does. -/
theorem sift {selector : String} {textFilter : Option TextFilter} {styleFilters : List StyleFilter}
    {displayFilter iframeFilter : Option Bool} {childFilter : Option (Handle → Lookup Bool)}
    (hchild : ∀ test, childFilter = some test → ∀ h, P (test h)) (base : Option Handle) :
    P (Query.sift selector textFilter styleFilters displayFilter iframeFilter
      childFilter base) := by
  -- each filter asks one question about each element that is left
  have asks : ∀ {c : Call} {f : c.Result → Bool}, c.isFind →
      P (do return f (← ConsentWalker.ask c) : Lookup Bool) :=
    fun hc => hP.bind (hP.ask hc) fun _ => hP.pure _
  refine hP.bind (hP.ask rfl) fun m₀ => ?_
  refine hP.bind (hP.keepIf (fun f h => asks rfl) m₀) fun m₁ => ?_
  refine hP.bind (hP.keepAll styleFilters m₁) fun m₂ => ?_
  refine hP.bind (hP.keepIf (fun b h => asks rfl) m₂) fun m₃ => ?_
  refine hP.bind (hP.keepIf (fun b h => asks rfl) m₃) fun m₄ => ?_
  cases childFilter with
  | none => exact hP.pure _
  | some test => exact hP.keep (hchild test rfl) m₄

/-- Looking below a base, or below each of the parents. -/
theorem spread {narrow : Option Handle → Lookup (List Handle)} (hn : ∀ base, P (narrow base))
    {parents : Option (Lookup (List Handle))} (hp : ∀ ps, parents = some ps → P ps)
    (base : Option Handle) : P (Query.spread narrow base parents) := by
  cases parents with
  | none => exact hP.bind (hn base) fun _ => hP.pure _
  | some ps => exact hP.bind (hp ps rfl) fun hs => hP.below (fun h => hn (some h)) hs

/-- **Resolving a query inherits it**, along its parents and inside its matches. -/
theorem resolve (plural : Bool) (q : Query) (base : Option Handle) : P (q.resolve plural base) := by
  induction plural, q, base using Query.resolve.induct
    (motive_2 := fun plural p base => ∀ ps, Query.parents plural p base = some ps → P ps)
    (motive_3 := fun c => ∀ test, Query.childTest c = some test → ∀ h, P (test h)) with
  | case1 plural selector tf sf df iff child parent base ihchild ihparent =>
    rw [Query.resolve]
    exact hP.spread (hP.sift ihchild) ihparent base
  | case2 plural base ps h => cases h
  | case3 plural p base ih ps h =>
    cases h
    refine hP.bind ih fun findings => ?_
    split
    · exact hP.pure _
    · exact hP.bind (hP.firstOf _ _) fun _ => hP.pure _
  | case4 test h => cases h
  | case5 child ih test h e =>
    cases h
    exact hP.bind (ih e) fun _ => hP.bind (hP.firstOf _ _) fun _ => hP.pure _

theorem target? (q : Query) (base : Option Handle) : P (q.target? base) :=
  hP.bind (hP.bind (hP.resolve false q base) fun _ => hP.firstOf _ _) fun _ => hP.pure _

end Hereditary

/-- **Lookups only look for elements**, since they are put together of such questions. -/
theorem finds_hereditary : Hereditary @Finds where
  pure _ := trivial
  ask hc := fun _ => ⟨hc, trivial⟩
  tell _ := ⟨trivial, trivial⟩
  bind := only_bind

end Lookup

open Lookup

namespace Query

theorem target?_finds (q : Query) (base : Option Handle) : (q.target? base).Finds :=
  finds_hereditary.target? q base

theorem target?_looks (q : Query) (base : Option Handle) : (q.target? base).Looks :=
  (q.target?_finds base).looks

/-- Looking for every element only looks. -/
theorem findAll_looks (q : Query) (base : Option Handle) : (q.findAll base).Looks :=
  Finds.looks (finds_hereditary.resolve true q base)

end Query

theorem Matcher.state_looks (m : Matcher) (h : Handle) : (m.state h).Looks := by
  cases m with
  | css => exact looks_pure _
  | checkbox => exact looks_ask rfl

/-- Putting a question only looks. -/
theorem Matcher.holds_looks (m : Matcher) (base : Option Handle) : (m.holds base).Looks := by
  refine (m.target.target?_looks base).bind fun found => ?_
  cases found with
  | none => exact looks_pure _
  | some h => exact m.state_looks h

namespace Vendor

theorem firstPresent_looks (ds : List Detector) : (firstPresent ds).Looks := by
  induction ds with
  | nil => exact looks_pure _
  | cons d rest ih =>
    refine (d.present.holds_looks none).bind fun b => ?_
    cases b with
    | true => exact looks_pure _
    | false => exact ih

/-- **Detection only looks.** -/
theorem detect_looks (v : Vendor) : v.detect.Looks :=
  (firstPresent_looks _).bind fun _ => looks_pure _

/-- **So does a check whether a dialog shows.** -/
theorem isShowing_looks (v : Vendor) : v.isShowing.Looks := by
  refine (firstPresent_looks _).bind fun d => ?_
  cases d with
  | none => exact looks_pure _
  | some d => exact d.showing.holds_looks none

end Vendor

/-! ## Looking takes no time -/

namespace Routine

variable {α : Type} {t t' : Nat} {h : History}

/-- A routine that only looks stays at its time. -/
theorem Only.time_eq {r r' : Routine α} (hr : r.Only Act.IsLook) (hl : r.Leads t h t' r') :
    t' = t ∧ ∀ m ∈ h, m.time = t := by
  induction hl with
  | refl => exact ⟨rfl, by simp⟩
  | step hd _ ih =>
    have hnext := (hr.does hd).2
    cases hd with
    | call | note =>
      obtain ⟨rfl, hh⟩ := ih hnext
      exact ⟨rfl, by simpa using hh⟩
    | sleep | pause | drop | report => exact absurd hr.1 id
    | await => exact absurd (hr none).1 id

end Routine
end ConsentWalker
