import ConsentWalker.Browser.Finder
import ConsentWalker.Proofs.Walk.Sparing
/-!
# Browser — looking without acting

A visit that is to do nothing only looks: the finder itself touches no page, and the search it
starts spares it. `Search.abstains` says so of every state such a search can come to beside others,
and of every visit without an action: all that becomes of the page is what others make of it.
-/

namespace ConsentWalker
namespace Browser

/-- What one of some visitors does. -/
def Visitor.Acts (others : List Visitor) (w w' : World) : Prop := ∃ v ∈ others, w' = v.act w

namespace Finder

variable {f : Finder} {url : String} {s : Scene}

/-- **What holds of a scene holds after any time**, if it is kept from one point in time to the
next. -/
theorem passTime_keeps {P : Scene → Prop} (hP : ∀ s, P s → P (f.instant url s)) (fuel : Nat)
    (hs : P s) : P (f.passTime url fuel s) := by
  induction fuel generalizing s with
  | zero => exact hs
  | succ fuel ih =>
    unfold passTime
    dsimp only
    split
    · exact hP s hs
    · exact ih (hP s hs)

/-- The scene once the finder, the others and the search have acted, before time goes on. -/
def Scene.afterAll (s : Scene) (watch : Watch) (w : World) : Scene where
  watch := watch
  others := (actOthers s.others w).1
  task := (s.task.run (actOthers s.others w).2).1
  world := (s.task.run (actOthers s.others w).2).2

/-- **What one point in time comes to**: the finder leaves and nobody else acts, or all have acted
and time goes on to when the next of them does. -/
theorem instant_cases (f : Finder) (url : String) (s : Scene) :
    (∃ detected, (f.act url s).1 = .left detected ∧
      f.instant url s = { s with watch := .left detected, world := (f.act url s).2 }) ∨
    ∃ s', s' = s.afterAll (f.act url s).1 (f.act url s).2 ∧
      (∀ detected, s'.watch ≠ .left detected) ∧
      f.instant url s =
        { s' with world := { s'.world with clock := max s'.world.clock s'.nextTime } } := by
  unfold instant
  rcases f.act url s with ⟨watch, world⟩
  cases watch with
  | left detected => exact .inl ⟨detected, rfl, rfl⟩
  | looking | staying => exact .inr ⟨_, rfl, nofun, rfl⟩

/-! ## The finder itself -/

/-- A look tells, and does nothing else. -/
theorem look_eq (f : Finder) (url : String) (t : Task) (w : World) :
    (f.look url t w).2 = w ∨ ∃ n, (f.look url t w).2 = w.tell n := by
  unfold look
  cases f.decide w t.isOver with
  | found vendor => exact .inr ⟨_, rfl⟩
  | leave => exact .inr ⟨_, rfl⟩
  | lookAgain => exact .inl rfl

theorem act_eq (f : Finder) (url : String) (s : Scene) :
    (f.act url s).2 = s.world ∨ ∃ n, (f.act url s).2 = s.world.tell n := by
  unfold act
  cases s.watch with
  | looking time =>
    dsimp only
    split
    · exact look_eq f url s.task s.world
    · exact .inl rfl
  | staying vendor time => exact .inl rfl
  | left detected => exact .inl rfl

/-- **The finder touches no page.** -/
theorem act_spared (f : Finder) (url : String) (s : Scene) : s.world.Spared (f.act url s).2 := by
  rcases act_eq f url s with h | ⟨n, h⟩
  · rw [h]
    exact .refl _
  · rw [h]
    exact .of_eq rfl rfl

theorem leave_spared (url : String) (t : Task) (w : World) : w.Spared (leave url t w) := by
  unfold leave
  split
  · exact .of_eq rfl rfl
  · exact .of_eq rfl rfl
  · exact t.abort_spared w

/-! ## Visits without an action -/

/-- The others act in their order, and those whose time has not come are left. -/
theorem actOthers_left {others : List Visitor} {w₀ w : World} (vs : List Visitor)
    (hvs : vs <:+ others) (hw : w₀.LeftTo (Visitor.Acts others) w) :
    (actOthers vs w).1 <:+ others ∧ w₀.LeftTo (Visitor.Acts others) (actOthers vs w).2 := by
  induction vs generalizing w with
  | nil => exact ⟨hvs, hw⟩
  | cons v rest ih =>
    unfold actOthers
    split
    · have hrest : rest <:+ others := (List.suffix_cons v rest).trans hvs
      exact ih hrest (hw.change ⟨v, hvs.subset List.mem_cons_self, rfl⟩)
    · exact ⟨hvs, hw⟩

/-- **A scene left to others**, with a search that goes on sparing the page. -/
structure Abstains (visitors : List Visitor) (w₀ : World) (s : Scene) : Prop where
  others : s.others <:+ visitors
  task : s.task.Spares
  world : w₀.LeftTo (Visitor.Acts visitors) s.world

/-- **From one point in time to the next** the scene is left to others. -/
theorem Abstains.instant {others : List Visitor} {w₀ : World} (h : Abstains others w₀ s) :
    Abstains others w₀ (f.instant url s) := by
  have hacted : w₀.LeftTo (Visitor.Acts others) (f.act url s).2 :=
    h.world.spare (act_spared f url s)
  obtain ⟨hothers, hworld⟩ := actOthers_left s.others h.others hacted
  obtain ⟨htask, hspared⟩ := h.task.run (actOthers s.others (f.act url s).2).2
  rcases instant_cases f url s with ⟨detected, -, hleft⟩ | ⟨s', rfl, -, hon⟩
  · rw [hleft]
    exact ⟨h.others, h.task, hacted⟩
  · rw [hon]
    exact ⟨hothers, htask, (hworld.spare hspared).spare (.of_eq rfl rfl)⟩

/-- **A visit without an action leaves the page to others**, whatever the other switches say. -/
theorem find_left (f : Finder) (url : String) (others : List Visitor) (w : World) :
    w.LeftTo (Visitor.Acts others) (f.find url .noAction others w).2 := by
  have hskip : (f.search .noAction).setting.flags.skipActions = true :=
    Choice.skipActions_flags_noAction f.flags
  have hbegin : Abstains others w
      { watch := .looking w.clock, others, task := .new (f.search .noAction), world := w } :=
    ⟨List.suffix_rfl, Task.spares_new hskip, .spared (.refl w)⟩
  have hend : Abstains others w (f.passTime url f.instants
      { watch := .looking w.clock, others, task := .new (f.search .noAction), world := w }) :=
    passTime_keeps (fun _ hs => hs.instant) f.instants hbegin
  exact hend.world.spare (leave_spared url _ _)

end Finder
end Browser

/-! ## Doing nothing -/

/-- **Who is to do nothing leaves the page alone.** A search without actions makes no call but
questions and the wish to be told of changes, in every state its task can come to beside others,
also once it is stopped, whatever fails; and so does the search of a visit without an action. Of the
page it changes no more than which handles were given out and who observes: all else is as others
left it. -/
theorem Search.abstains :
    (∀ (x : Search), x.setting.flags.skipActions = true →
      ∀ (Others : World → World → Prop) (w₀ : World) (t : Task) (w : World),
        Task.Beside x Others w₀ t w → w₀.LeftTo Others w ∧ w₀.LeftTo Others (t.abort w)) ∧
    ∀ (f : Browser.Finder) (url : String) (others : List Browser.Visitor) (w : World),
      w.LeftTo (Browser.Visitor.Acts others) (f.find url .noAction others w).2 := by
  refine ⟨fun x hskip Others w₀ t w hb => ?_, Browser.Finder.find_left⟩
  obtain ⟨-, hleft⟩ := hb.left hskip
  exact ⟨hleft, hleft.spare (t.abort_spared w)⟩

/-- A page with a dialog. -/
def Search.samplePage : Page :=
  .ofTree (.node .document [.node (.element { name := "body" })
    [.node (.element { name := "div", attributes := [("id", "banner")] }) []]]) false

/-- A finder that knows the dialog, with every switch set but the one that keeps it from acting. -/
def Browser.Finder.sample : Browser.Finder where
  vendors := Search.sample.vendors
  flags := { clickDelay := true, paintMatchers := true, debugClicks := true }

/-- A visit without an action reports the dialog, and so does the search it starts; neither leaves a
trace on the page. -/
theorem Search.sample_abstains : ∃ t w,
    Task.Beside (Browser.Finder.sample.search .noAction) (fun _ _ => False)
      { page := Search.samplePage } t w ∧
    t.isOver = true ∧ w.sightings.map Sighting.vendor = ["banner"] ∧ w.page.events = [] ∧
    World.LeftTo (fun _ _ => False) { page := Search.samplePage } w ∧
    (Browser.Finder.sample.find "" .noAction [] { page := Search.samplePage }).1.detected =
      some "banner" ∧
    World.LeftTo (Browser.Visitor.Acts []) { page := Search.samplePage }
      (Browser.Finder.sample.find "" .noAction [] { page := Search.samplePage }).2 := by
  let x := Browser.Finder.sample.search .noAction
  let w₀ : World := { page := Search.samplePage }
  have hb : Task.Beside x (fun _ _ => False) w₀ ((Task.new x).run w₀).1 ((Task.new x).run w₀).2 :=
    Task.Beside.new.run
  have hskip : x.setting.flags.skipActions = true := by decide
  refine ⟨_, _, hb, by decide +kernel, by decide +kernel, by decide +kernel,
    (Search.abstains.1 x hskip _ w₀ _ _ hb).1, by decide +kernel, Search.abstains.2 _ _ _ _⟩

end ConsentWalker
