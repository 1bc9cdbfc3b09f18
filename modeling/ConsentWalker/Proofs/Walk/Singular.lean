import ConsentWalker.Proofs.Walk.Resolution
/-!
# Walk — one element, or every element

A query is resolved in two ways. Looking for every element goes below every match of its parent,
looking for one only below the first, so the two part at each parent of a parent. They agree
nevertheless (`find_first_of_findAll`): what looking for one finds is one of all that there are, the
first inside its parent's match. Without a parent it is simply the first.

With one it is what would be looked for inside the parent's match without a parent (`find_within`):
that holds of the lookups themselves, whatever the page answers.
-/

namespace ConsentWalker

/-! ## Pairs -/

namespace Sight

/-- **The first pair is one of all pairs**, the first with its parent. -/
theorem pairs_first (s : Sight) : (q : Query) → q.isValid = true →
    ∀ {o : Place} {x : Option Place × Place}, (s.pairs false q o).head? = some x →
      ∃ before after, s.pairs true q o = before ++ x :: after ∧ ∀ y ∈ before, y.1 ≠ x.1
  | ⟨selector, tf, sf, df, iff, child, none⟩, hq, o, x, hx => by
    have hsame := s.pairs_parentless hq true rfl o
    rw [← s.pairs_parentless hq false rfl o] at hsame
    obtain ⟨after, hpairs⟩ := List.head?_eq_some_iff.1 hx
    exact ⟨[], after, hsame.trans hpairs, fun y hy => absurd hy List.not_mem_nil⟩
  | ⟨selector, tf, sf, df, iff, child, some parent⟩, hq, o, x, hx => by
    let q : Query := ⟨selector, tf, sf, df, iff, child, some parent⟩
    let inside (p : Place) : List (Option Place × Place) :=
      (passing (s.tests q) p).map fun t => (some p, t)
    have hone : s.pairs false q o =
        ((s.pairs false parent o).map Prod.snd).head?.toList.flatMap inside :=
      s.pairs_eq hq false o
    have hall : s.pairs true q o = ((s.pairs true parent o).map Prod.snd).flatMap inside :=
      s.pairs_within hq rfl o
    rw [hone, List.head?_map] at hx
    cases hfirst : (s.pairs false parent o).head? with
    | none =>
      rw [hfirst] at hx
      cases hx
    | some y =>
      have hinside : (inside y.2).head? = some x := by
        rw [hfirst] at hx
        change ([y.2].flatMap inside).head? = some x at hx
        rw [List.flatMap_singleton] at hx
        exact hx
      obtain ⟨rest, hrest⟩ := List.head?_eq_some_iff.1 hinside
      have hparents : ∀ p, ∀ z ∈ inside p, z.1 = some p := by
        intro p z hz
        obtain ⟨t, -, rfl⟩ := List.mem_map.1 hz
        rfl
      have hx : x.1 = some y.2 := hparents y.2 x (hrest ▸ List.mem_cons_self)
      -- the parent's match is one of all its matches; only its first occurrence counts
      obtain ⟨before, after, hparent, -⟩ :=
        pairs_first s parent (Query.isValid_parent hq rfl) hfirst
      have hmem : y.2 ∈ (s.pairs true parent o).map Prod.snd := by
        rw [hparent]
        exact List.mem_map_of_mem (List.mem_append_right _ List.mem_cons_self)
      obtain ⟨earlier, later, hsplit, hnew⟩ := List.eq_append_cons_of_mem hmem
      refine ⟨earlier.flatMap inside, rest ++ later.flatMap inside, ?_, fun z hz heq => ?_⟩
      · rw [hall, hsplit, List.flatMap_append, List.flatMap_cons, hrest, List.cons_append]
      · obtain ⟨p, hp, hz⟩ := List.mem_flatMap.1 hz
        rw [hparents p z hz, hx] at heq
        exact hnew (Option.some.inj heq ▸ hp)

end Sight

/-! ## Findings -/

namespace Page

variable {p : Page} {f f' : Finding} {x x' : Option Place × Place}

/-- So do handles and elements where there may be none. -/
theorem Sound.option_biUnique (hp : p.Sound) : Relator.BiUnique (Option.Rel p.Denotes) := by
  obtain ⟨hleft, hright⟩ := hp.denotes_biUnique
  constructor
  · rintro _ _ _ (hd | _) (hd' | _)
    · rw [hleft hd hd']
    · rfl
  · rintro _ _ _ (hd | _) (hd' | _)
    · rw [hright hd hd']
    · rfl

/-- One pair is told of by one finding only. -/
theorem Sound.tells_unique (hp : p.Sound) (hf : p.Tells f x) (hf' : p.Tells f' x) : f = f' := by
  cases f
  cases f'
  exact congr (congrArg Finding.mk (hp.option_biUnique.1 hf.parent hf'.parent))
    (hp.option_biUnique.1 hf.target hf'.target)

/-- Findings with the same parent tell of pairs with the same. -/
theorem Sound.tells_parent (hp : p.Sound) (hf : p.Tells f x) (hf' : p.Tells f' x')
    (h : f.parent = f'.parent) : x.1 = x'.1 := by
  have hparent := hf.parent
  rw [h] at hparent
  exact hp.option_biUnique.2 hparent hf'.parent

theorem TellsFirst.keeps {p' : Page} {x? : Option (Option Place × Place)} (hf : p.TellsFirst f x?)
    (hk : p.Keeps p') : p'.TellsFirst f x? := by
  cases x? with
  | none => exact hf
  | some x => exact Tells.keeps hf hk

end Page

namespace Query

/-- **What looking for one element found, next to what looking for every element found.** -/
structure Singles (q : Query) (f : Finding) (fs : List Finding) : Prop where
  /-- With a target it is one of them, the first with its parent. -/
  first : f.target.isSome = true →
    ∃ before after, fs = before ++ f :: after ∧ ∀ g ∈ before, g.parent ≠ f.parent
  /-- If no parent is asked for it is the first of all, or empty if there is none. -/
  parentless : q.parent = none → f = fs.head?.getD {}

variable {p : Page} {q parent : Query} {base : Option Handle} {o : Place} {f : Finding}
  {fs : List Finding}

/-- Findings that tell of the first pair and of all pairs go together. -/
theorem singles_of_tells (hp : p.Sound) (hq : q.isValid = true) {s : Sight}
    (hf : p.TellsFirst f (s.pairs false q o).head?) (hfs : p.TellsAll fs (s.pairs true q o)) :
    q.Singles f fs := by
  constructor
  · intro htarget
    rw [hf.isSome_eq] at htarget
    obtain ⟨x, hx⟩ := Option.isSome_iff_exists.1 htarget
    rw [hx] at hf
    obtain ⟨before, after, hsplit, hnew⟩ := s.pairs_first q hq hx
    rw [hsplit] at hfs
    have hbefore := List.forall₂_take_append fs before (x :: after) hfs
    have hafter := List.forall₂_drop_append fs before (x :: after) hfs
    obtain ⟨f', later, hf', -, hdrop⟩ := List.forall₂_cons_right_iff.1 hafter
    obtain rfl := hp.tells_unique hf' hf
    refine ⟨fs.take before.length, later, ?_, fun g hg heq => ?_⟩
    · rw [← hdrop, List.take_append_drop]
    · obtain ⟨y, hy, hgy⟩ := Sight.mem_of_forall₂ hbefore.flip hg
      exact hnew y hy (hp.tells_parent hgy hf heq)
  · intro hparent
    rw [s.pairs_parentless hq true hparent] at hfs
    rw [s.pairs_parentless hq false hparent] at hf
    generalize
      (Sight.passing (s.tests q) o).map (fun t => ((none : Option Place), t)) = xs at hf hfs
    cases hfs with
    | nil => exact hf
    | cons hfirst _ => exact hp.tells_unique hf hfirst

/-- Looks for one element inside another one, if there is one, whatever the parent. -/
def findInside (q : Query) : Option Handle → Lookup Finding
  | none => return {}
  | some h => do
    let f ← ({ q with parent := none } : Query).find (some h)
    return ⟨f.target.map fun _ => h, f.target⟩

/-- The first of some elements is the same whatever they were found inside. -/
theorem firstOf_parent (selector : String) (h : Handle) (targets : List Handle) :
    firstOf selector (targets.map fun t => ⟨some h, some t⟩) = (do
      let f ← firstOf selector (targets.map fun t => ⟨none, some t⟩)
      return ⟨f.target.map fun _ => h, f.target⟩) := by
  unfold firstOf
  simp only [List.length_map, List.head?_map]
  split <;> cases targets <;> simp

/-- **A query with a parent is looked for inside what its parent finds**, as if it had none. -/
theorem find_within (h : q.parent = some parent) (base : Option Handle) :
    q.find base = (do q.findInside (← parent.find base).target) := by
  obtain ⟨selector, tf, sf, df, iff, child, _ | parent'⟩ := q
  · cases h
  · cases h
    simp only [find, resolve, parents, spread, bind_assoc, pure_bind, Bool.false_eq_true, if_false]
    congr 1
    funext findings
    congr 1
    funext found
    cases found.target with
    | none => rfl
    | some h =>
      simp only [Option.toList, below, findInside, find, resolve, parents, spread, bind_assoc,
        pure_bind, List.append_nil]
      congr 1
      funext targets
      exact firstOf_parent selector h targets

/-! ## Both lookups on one page -/

/-- Looks for one element, and for every element after that. -/
def findThenAll (q : Query) (base : Option Handle) : Lookup (Finding × List Finding) := do
  let f ← q.find base
  let fs ← q.findAll base
  return (f, fs)

/-- Looks for every element, and for one after that. -/
def allThenFind (q : Query) (base : Option Handle) : Lookup (Finding × List Finding) := do
  let fs ← q.findAll base
  let f ← q.find base
  return (f, fs)

open Lookup

section

variable (hp : p.Sound) (hopen : p.closed = false) (hq : q.isValid = true)
  (ho : p.origin base = .ok o)
include hp hopen hq ho

theorem find_tells_at :
    (q.find base).Means p Page.TellsFirst (.ok (p.sight.pairs false q o).head?) := by
  have hmeans := Sight.find_pair hq hp hopen base
  rw [ho] at hmeans
  exact hmeans

theorem findAll_tells_at :
    (q.findAll base).Means p Page.TellsAll (.ok (p.sight.pairs true q o)) := by
  have hmeans := Sight.resolve_pairs hq true hp hopen base
  rw [ho] at hmeans
  exact hmeans

/-- **Whichever is looked for first**, what one lookup finds goes with what the other does. -/
theorem exists_singles :
    (∃ f fs p', (q.findThenAll base).run.readOn p = (.ok (f, fs), p') ∧ q.Singles f fs) ∧
      ∃ f fs p', (q.allThenFind base).run.readOn p = (.ok (f, fs), p') ∧ q.Singles f fs := by
  let together (p' : Page) (found : Finding × List Finding)
      (meant : Option (Option Place × Place) × List (Option Place × Place)) : Prop :=
    p'.TellsFirst found.1 meant.1 ∧ p'.TellsAll found.2 meant.2
  let meant := ((p.sight.pairs false q o).head?, p.sight.pairs true q o)
  -- looking gives out handles at most, so the second lookup sees what the first one does
  have later : ∀ {p₁ : Page}, p.Grows p₁ → p₁.closed = false ∧ p₁.origin base = .ok o ∧
      p₁.sight = p.sight :=
    fun hg => ⟨hg.closed_eq.trans hopen, (Page.Keeps.of_grows hg).origin_eq hg.closed_eq ho,
      (Page.Keeps.of_grows hg).sight_eq⟩
  have hfindFirst : (q.findThenAll base).Means p together (.ok meant) := by
    refine (find_tells_at hp hopen hq ho).bind
      (g := fun x? => .ok meant.2 >>= fun xs => pure (x?, xs))
      fun f x? p₁ hg₁ hp₁ hf => ?_
    obtain ⟨hopen₁, ho₁, hsight₁⟩ := later hg₁
    have hall := findAll_tells_at hp₁ hopen₁ hq ho₁
    rw [hsight₁] at hall
    exact hall.bind fun fs xs p₂ hg₂ hp₂ hfs => means_pure hp₂ ⟨hf.keeps (.of_grows hg₂), hfs⟩
  have hallFirst : (q.allThenFind base).Means p together (.ok meant) := by
    refine (findAll_tells_at hp hopen hq ho).bind
      (g := fun xs => .ok meant.1 >>= fun x? => pure (x?, xs))
      fun fs xs p₁ hg₁ hp₁ hfs => ?_
    obtain ⟨hopen₁, ho₁, hsight₁⟩ := later hg₁
    have hone := find_tells_at hp₁ hopen₁ hq ho₁
    rw [hsight₁] at hone
    exact hone.bind fun f x? p₂ hg₂ hp₂ hf => means_pure hp₂ ⟨hf, hfs.keeps (.of_grows hg₂)⟩
  obtain ⟨⟨f, fs⟩, p', hrun, hsound, hf, hfs⟩ := hfindFirst.answers
  obtain ⟨⟨f', fs'⟩, p'', hrun', hsound', hf', hfs'⟩ := hallFirst.answers
  exact ⟨⟨f, fs, p', hrun, singles_of_tells hsound hq hf hfs⟩,
    f', fs', p'', hrun', singles_of_tells hsound' hq hf' hfs'⟩

end

/-- **Looking for one element finds the first inside its parent's match**, on an open page and if
all selectors are valid. Where the base is gone both lookups fail alike. Elsewhere both succeed, and
what the one finds is one of what the other does, and goes with it, whichever is done first. With a
parent it is what is found inside the parent's match, if there is one. -/
theorem find_first_of_findAll (hp : p.Reached) (hopen : p.closed = false) (hq : q.isValid = true)
    (base : Option Handle) :
    (∀ e, p.origin base = .error e →
      ((q.find base).run.readOn p).1 = .error e ∧ ((q.findAll base).run.readOn p).1 = .error e) ∧
    (∀ o, p.origin base = .ok o →
      (∃ f fs p', (q.findThenAll base).run.readOn p = (.ok (f, fs), p') ∧ q.Singles f fs) ∧
        ∃ f fs p', (q.allThenFind base).run.readOn p = (.ok (f, fs), p') ∧ q.Singles f fs) ∧
    ∀ parent, q.parent = some parent →
      q.find base = (do q.findInside (← parent.find base).target) := by
  refine ⟨fun e he => ?_, fun o ho => exists_singles hp.sound hopen hq ho,
    fun parent h => find_within h base⟩
  have hone := Sight.find_pair hq hp.sound hopen base
  have hall := Sight.resolve_pairs hq true hp.sound hopen base
  rw [he] at hone hall
  exact ⟨hone.fails, hall.fails⟩

/-- One row that has a checkbox, in some part: it is found in the outer one and, among all, in the
inner one too. -/
theorem sample_single :
    boxedRows.isValid = true ∧
    (∃ f fs p', (boxedRows.findThenAll none).run.readOn nestedPage = (.ok (f, fs), p') ∧
      boxedRows.Singles f fs ∧ f = ⟨some ⟨0⟩, some ⟨2⟩⟩ ∧
        fs = [⟨some ⟨0⟩, some ⟨2⟩⟩, ⟨some ⟨1⟩, some ⟨2⟩⟩]) ∧
    boxedRows.find none = (do boxedRows.findInside (← (Query.new ".part").find none).target) := by
  have hvalid : boxedRows.isValid = true := by decide +kernel
  have hreached : nestedPage.Reached := .ofTree nestedParts false
  obtain ⟨-, hfound, hwithin⟩ := find_first_of_findAll hreached rfl hvalid none
  obtain ⟨⟨f, fs, p', hrun, hsingles⟩, -⟩ := hfound _ rfl
  have hresult : ((boxedRows.findThenAll none).run.readOn nestedPage).1.toOption =
      some (⟨some ⟨0⟩, some ⟨2⟩⟩, [⟨some ⟨0⟩, some ⟨2⟩⟩, ⟨some ⟨1⟩, some ⟨2⟩⟩]) := by decide +kernel
  rw [hrun] at hresult
  obtain ⟨rfl, rfl⟩ := Prod.mk.inj (Option.some.inj hresult)
  exact ⟨hvalid, ⟨_, _, p', hrun, hsingles, rfl, rfl⟩, hwithin _ rfl⟩

end Query
end ConsentWalker
