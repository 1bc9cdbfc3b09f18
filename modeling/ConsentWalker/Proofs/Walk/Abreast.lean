import ConsentWalker.Proofs.Page.Closing
import ConsentWalker.Proofs.Page.Handles
import ConsentWalker.Proofs.Page.Journal
import ConsentWalker.Proofs.Walk.Mention
import ConsentWalker.Proofs.Walk.Resolution
import ConsentWalker.Proofs.Walk.TwinWorlds
/-!
# Walk — two runs side by side

Two walks that do the same to a page may put different questions on the way, so that their pages
number their handles differently. Run side by side (`Routine.Abreast`) they leave the same events at
the same times, of the same elements, and come to the same: pages that are twins, values that go
together and, if they fail, one and the same error.

Nobody else acts and nothing fails, so the trees stay and a handle denotes what it did. What two
lookups come to is what they mean (`Lookup.abreast_of_means`); where they mean the same it makes no
difference which handles they were given.
-/

namespace ConsentWalker

/-! ## Events and their times -/

/-- What an act adds to the record of an open page: one that fails adds nothing. -/
def Act.event? : Act → Option PageEvent
  | .call c (.ok _) => c.event?
  | _ => none

/-- **The events that a history left** in the record of a page, each with its time. -/
def History.events (h : History) : List (Nat × PageEvent) :=
  h.filterMap fun m => m.act.event?.map fun e => (m.time, e)

namespace History

theorem events_append (h h' : History) : (h ++ h' : History).events = h.events ++ h'.events :=
  List.filterMap_append

theorem events_cons (m : Moment) (h : History) :
    events (m :: h) = (m.act.event?.toList.map fun e => (m.time, e)) ++ events h := by
  unfold events
  rw [List.filterMap_cons]
  cases m.act.event? <;> rfl

end History

theorem Act.event?_of_isLook {a : Act} (ha : a.IsLook) : a.event? = none := by
  cases a with
  | call c r =>
    cases r with
    | error e => rfl
    | ok b =>
      have hread : c.isRead = true := ha
      cases c <;> first | rfl | cases hread
  | _ => rfl

/-- Calls that are linked leave events that are. -/
theorem Call.Links.event? {L : Tables} {c d : Call} (hl : c.Links L d) :
    Option.Rel (PageEvent.Links L) c.event? d.event? := by
  cases hl with
  | scroll hl => exact .some (.scroll hl)
  | focus hl => exact .some (.focus hl)
  | click openInTab hl => exact .some (.click openInTab hl)
  | pointer phase point hl => exact .some (.pointer phase point hl)
  | setHidden b hl => exact .some (.hidden b hl)
  | paint passed hl => exact .some (.painted passed hl)
  | showProgress message => exact .some (.progress message)
  | hideProgress => exact .some .progressHidden
  | close => exact .some .closed
  | query | text | style | rect | nested | isChecked | observe => exact .none

/-- **What a page records of a call.** -/
theorem Page.perform_events {p : Page} (hopen : p.closed = false) {c : Call} {a : c.Result}
    (ha : (p.perform c).1 = .ok a) : (p.perform c).2.events = p.events ++ c.event?.toList := by
  rcases perform_cases c p with hread | rfl | ⟨e, -, hfails⟩ | ⟨p', b, hmade, hmakes⟩
  · obtain ⟨more, hmore⟩ := perform_grows hread p
    have hnone : c.event? = none := by
      cases c <;> first | rfl | cases hread
    rw [hmore, hnone]
    exact (List.append_nil _).symm
  · exact (List.append_nil _).symm
  · rw [hfails] at ha
    cases ha
  · rw [hmakes]
    rcases effect_logs c hmade with ⟨hclosed, -⟩ | hlogs
    · rw [hopen] at hclosed
      cases hclosed
    · exact hlogs.events_eq

/-! ## Two sides -/

/-- Two pages, that of the one run and that of the other. -/
structure Sides where
  left : Page
  right : Page

namespace Sides

/-- As runs go on their pages give out handles, and keep their trees. -/
instance : Preorder Sides where
  le S T := S.left.Keeps T.left ∧ S.right.Keeps T.right
  le_refl S := ⟨.refl S.left, .refl S.right⟩
  le_trans _ _ _ h₁ h₂ := ⟨h₁.1.trans h₂.1, h₁.2.trans h₂.2⟩

/-- The handles given out on both sides. -/
def tables (S : Sides) : Tables := S.left.tables S.right

/-- **Handles of one element**, the one on the left and the other on the right. -/
def Same (S : Sides) (h k : Handle) : Prop := ∃ q, S.left.Denotes h q ∧ S.right.Denotes k q

variable {S T : Sides} {h k : Handle}

theorem tables_mono (hle : S ≤ T) : S.tables ≤ T.tables := ⟨hle.1.handles, hle.2.handles⟩

theorem Same.mono (hs : S.Same h k) (hle : S ≤ T) : T.Same h k := by
  obtain ⟨q, hleft, hright⟩ := hs
  exact ⟨q, hleft.keeps hle.1, hright.keeps hle.2⟩

theorem Same.links (hs : S.Same h k) : S.tables.Links h k := by
  obtain ⟨q, hleft, hright⟩ := hs
  exact ⟨q.id, (Page.place?_eq_some hleft.1).2, (Page.place?_eq_some hright.1).2⟩

end Sides

/-! ## Runs -/

namespace World

variable {α β γ δ : Type} {w w' w₁ w₁' : World}

/-- **Who only looks** leaves no event and takes no time. -/
theorem amid_of_looks {r : Routine α} (hr : r.Only Act.IsLook) (hw : w.faults.planned = []) :
    ∃ (h : History) (faults : Faults) (told : List Notice), faults.planned = [] ∧ h.events = [] ∧
      w.amid r [] = ((r.readOn w.page).1, h,
        { w with page := (r.readOn w.page).2, faults := faults, told := told }) := by
  induction r generalizing w with
  | done a => exact ⟨[], w.faults, w.told, hw, rfl, rfl⟩
  | call c next ih =>
    obtain ⟨faults, hplanned, hc⟩ := perform_run hw c
    obtain ⟨h, faults', told, hplanned', hh, hrest⟩ := ih (w.perform c).1 (hr _).2
      (w := (w.perform c).2) (by rw [hc]; exact hplanned)
    refine ⟨⟨w.clock, .call c (w.perform c).1⟩ :: h, faults', told, hplanned', ?_, ?_⟩
    · rw [History.events_cons, Act.event?_of_isLook (hr _).1, hh]
      rfl
    · rw [amid, hrest, hc]
      rfl
  | note n next ih =>
    obtain ⟨h, faults, told, hplanned, hh, hrest⟩ := ih hr.2 (w := w.tell n) hw
    refine ⟨⟨w.clock, .note n⟩ :: h, faults, told, hplanned, hh, ?_⟩
    rw [amid, hrest]
    rfl
  | sleep | pause | drop | report => exact absurd hr.1 id
  | await => exact absurd (hr none).1 id

/-- A question that is put alone. -/
theorem amid_ask (c : Call) (w : World) :
    w.amid (ask c).run [] =
      ((w.perform c).1, [⟨w.clock, .call c (w.perform c).1⟩], (w.perform c).2) := rfl

/-- The pages of two worlds. -/
def sides (w w' : World) : Sides := ⟨w.page, w'.page⟩

/-- **A run that leaves the page open** and its tree alone, and whose events are on record. -/
structure Goes (w : World) (x : α × History × World) : Prop where
  keeps : w.page.Keeps x.2.2.page
  opened : x.2.2.page.closed = false
  recorded : x.2.2.page.events = w.page.events ++ x.2.1.events.map Prod.snd

/-- Events at one time, and the same but for handles. -/
def EventsMatch (L : Tables) : List (Nat × PageEvent) → List (Nat × PageEvent) → Prop :=
  List.Forall₂ fun e e' => e.1 = e'.1 ∧ e.2.Links L e'.2

/-- **Two runs that come to the same**, side by side. -/
structure Abreast (R : Sides → α → β → Prop) (w w' : World) (x : α × History × World)
    (y : β × History × World) : Prop where
  left : w.Goes x
  right : w'.Goes y
  twins : x.2.2.Twins y.2.2
  events : EventsMatch (x.2.2.tables y.2.2) x.2.1.events y.2.1.events
  value : R (x.2.2.sides y.2.2) x.1 y.1

variable {R : Sides → α → β → Prop} {Q : Sides → γ → δ → Prop} {x : α × History × World}
  {y : β × History × World}

theorem Goes.refl (hopen : w.page.closed = false) (a : α) : w.Goes (a, [], w) :=
  ⟨.refl _, hopen, (List.append_nil _).symm⟩

/-- Whatever value it comes to. -/
theorem Goes.value (hx : w.Goes x) (c : γ) : w.Goes (c, x.2) := ⟨hx.keeps, hx.opened, hx.recorded⟩

theorem Goes.trans {z : γ × History × World} (hx : w.Goes x) (hz : x.2.2.Goes z) :
    w.Goes (z.1, x.2.1 ++ z.2.1, z.2.2) := by
  refine ⟨hx.keeps.trans hz.keeps, hz.opened, ?_⟩
  rw [hz.recorded, hx.recorded, List.append_assoc, ← List.map_append, History.events_append]

/-- A run that only gave out handles. -/
theorem Goes.of_grows {page : Page} (hopen : w.page.closed = false) (hg : w.page.Grows page)
    {h : History} (hh : h.events = []) (a : α) {faults : Faults} {told : List Notice} :
    w.Goes (a, h, ({ w with page := page, faults := faults, told := told } : World)) := by
  refine ⟨.of_grows hg, hg.closed_eq.trans hopen, ?_⟩
  obtain ⟨more, rfl⟩ := hg
  rw [hh]
  exact (List.append_nil _).symm

/-- **A call about an element that is there** is done by the page, and its event is on record. -/
theorem exists_asked (hw : w.faults.planned = []) (hopen : w.page.closed = false) {c : Call}
    {h : Handle}
    (habout : c.about? = some h) (hvalid : c.IsValid) {q : Place} (hd : w.page.Denotes h q) :
    ∃ a, (w.perform c).1 = .ok a ∧ w.Goes (w.amid (ask c).run []) := by
  obtain ⟨a, ha⟩ := (Page.perform_located habout hvalid _).2 q (hd.located hopen) hd.2
  obtain ⟨faults, -, hrun⟩ := perform_run hw c
  rw [ha] at hrun
  have hclosed : (w.page.perform c).2.closed = false := by
    rcases Page.perform_records c w.page with ⟨rfl, -⟩ | hrecords
    · cases habout
    · exact hrecords.closed.trans hopen
  refine ⟨a, congrArg Prod.fst hrun, ?_⟩
  rw [amid_ask, hrun]
  refine ⟨Page.perform_keeps c _, hclosed, (Page.perform_events hopen ha).trans ?_⟩
  dsimp only
  rw [History.events_cons, List.map_append, List.map_map]
  change _ = w.page.events ++ (c.event?.toList.map _ ++ [])
  rw [List.append_nil]
  exact congrArg _ (List.map_id _).symm

/-- Runs that do nothing. -/
theorem Abreast.refl (hw : w.Twins w') (hopen : w.page.closed = false) {a : α} {b : β}
    (hab : R (w.sides w') a b) : Abreast R w w' (a, [], w) (b, [], w') :=
  ⟨.refl hopen a, .refl (hw.page.closed_eq ▸ hopen) b, hw, .nil, hab⟩

theorem Abreast.later (h : Abreast R w w' x y) : w.sides w' ≤ x.2.2.sides y.2.2 :=
  ⟨h.left.keeps, h.right.keeps⟩

/-- **One pair of runs after another.** -/
theorem Abreast.trans (h : Abreast R w w' x y) {z : γ × History × World} {z' : δ × History × World}
    (hz : Abreast Q x.2.2 y.2.2 z z') :
    Abreast Q w w' (z.1, x.2.1 ++ z.2.1, z.2.2) (z'.1, y.2.1 ++ z'.2.1, z'.2.2) := by
  refine ⟨h.left.trans hz.left, h.right.trans hz.right, hz.twins, ?_, hz.value⟩
  have hearlier :=
    h.events.imp fun e e' he => And.intro he.1 (he.2.mono (Sides.tables_mono hz.later))
  rw [History.events_append, History.events_append]
  exact List.rel_append hearlier hz.events

/-- What is told first on the left makes no difference. -/
theorem Abreast.told_left {n : Notice} (h : Abreast R (w.tell n) w' x y) :
    Abreast R w w' (x.1, ⟨w.clock, .note n⟩ :: x.2.1, x.2.2) y :=
  ⟨⟨h.left.keeps, h.left.opened, h.left.recorded⟩, h.right, h.twins, h.events, h.value⟩

/-- What is told first on the right makes no difference. -/
theorem Abreast.told_right {n : Notice} (h : Abreast R w (w'.tell n) x y) :
    Abreast R w w' x (y.1, ⟨w'.clock, .note n⟩ :: y.2.1, y.2.2) :=
  ⟨h.left, ⟨h.right.keeps, h.right.opened, h.right.recorded⟩, h.twins, h.events, h.value⟩

end World

/-! ## Routines -/

namespace Routine

variable {α β γ δ : Type} {R : Sides → α → β → Prop} {Q : Sides → γ → δ → Prop} {S T : Sides}
  {r : Routine α} {r' : Routine β}

/-- **Routines that do the same side by side**, in all worlds whose pages came of two given ones,
are open and are twins. -/
def Abreast (R : Sides → α → β → Prop) (S : Sides) (r : Routine α) (r' : Routine β) : Prop :=
  ∀ w w' : World, S ≤ w.sides w' → w.Twins w' → w.page.closed = false →
    World.Abreast R w w' (w.amid r []) (w'.amid r' [])

theorem Abreast.mono (h : Abreast R S r r') (hle : S ≤ T) : Abreast R T r r' :=
  fun w w' hle' => h w w' (le_trans hle hle')

theorem Abreast.done {a : α} {b : β} (hab : ∀ T, S ≤ T → R T a b) :
    Abreast R S (.done a) (.done b) :=
  fun _ _ hle hw hopen => .refl hw hopen (hab _ hle)

/-- **Routines after runs that came to the same.** -/
theorem Abreast.after {w w' : World} (h : World.Abreast R w w' (w.amid r []) (w'.amid r' []))
    {f : α → Routine γ} {f' : β → Routine δ}
    (hf : ∀ T a b, w.sides w' ≤ T → R T a b → Abreast Q T (f a) (f' b)) :
    World.Abreast Q w w' (w.amid (r.bind f) []) (w'.amid (r'.bind f') []) := by
  rw [World.amid_bind, World.amid_bind]
  exact h.trans (hf _ _ _ h.later h.value _ _ (le_refl _) h.twins h.left.opened)

/-- **One pair of routines after another.** -/
theorem Abreast.bind (h : Abreast R S r r') {f : α → Routine γ} {f' : β → Routine δ}
    (hf : ∀ T a b, S ≤ T → R T a b → Abreast Q T (f a) (f' b)) :
    Abreast Q S (r.bind f) (r'.bind f') :=
  fun w w' hle hw hopen => after (h w w' hle hw hopen) fun T a b hle' =>
    hf T a b (le_trans hle hle')

/-- Routines abreast stay so when the values on both sides are read in another way. -/
theorem Abreast.map (h : Abreast R S r r') {g : α → γ} {g' : β → δ}
    (hg : ∀ T a b, R T a b → Q T (g a) (g' b)) :
    Abreast Q S (r.bind fun a => .done (g a)) (r'.bind fun b => .done (g' b)) := by
  intro w w' hle hw hopen
  obtain ⟨hleft, hright, htwins, hevents, hvalue⟩ := h w w' hle hw hopen
  rw [World.amid_map, World.amid_map]
  exact ⟨hleft.value _, hright.value _, htwins, hevents, hg _ _ _ hvalue⟩

/-- They stay so when the value on the left is. -/
theorem Abreast.map_left {P : Sides → γ → β → Prop} (h : Abreast R S r r') {g : α → γ}
    (hg : ∀ T a b, R T a b → P T (g a) b) : Abreast P S (r.bind fun a => .done (g a)) r' := by
  intro w w' hle hw hopen
  obtain ⟨hleft, hright, htwins, hevents, hvalue⟩ := h w w' hle hw hopen
  rw [World.amid_map]
  exact ⟨hleft.value _, hright, htwins, hevents, hg _ _ _ hvalue⟩

/-- They stay so when the value on the right is. -/
theorem Abreast.map_right {P : Sides → α → δ → Prop} (h : Abreast R S r r') {g : β → δ}
    (hg : ∀ T a b, R T a b → P T a (g b)) : Abreast P S r (r'.bind fun b => .done (g b)) := by
  intro w w' hle hw hopen
  obtain ⟨hleft, hright, htwins, hevents, hvalue⟩ := h w w' hle hw hopen
  rw [World.amid_map]
  exact ⟨hleft, hright.value _, htwins, hevents, hg _ _ _ hvalue⟩

theorem Abreast.imp {P : Sides → α → β → Prop} (h : Abreast R S r r')
    (hRP : ∀ T a b, S ≤ T → R T a b → P T a b) : Abreast P S r r' := by
  intro w w' hle hw hopen
  obtain ⟨hleft, hright, htwins, hevents, hvalue⟩ := h w w' hle hw hopen
  exact ⟨hleft, hright, htwins, hevents,
    hRP _ _ _ (le_trans hle ⟨hleft.keeps, hright.keeps⟩) hvalue⟩

/-- A routine that tells something first, on the left. -/
theorem Abreast.note_left (n : Notice) (h : Abreast R S r r') : Abreast R S (.note n r) r' :=
  fun w w' hle hw hopen => (h (w.tell n) w' hle (hw.tell_left n) hopen).told_left

/-- A routine that tells something first, on the right. -/
theorem Abreast.note_right (n : Notice) (h : Abreast R S r r') : Abreast R S r (.note n r') := by
  intro w w' hle hw hopen
  have htold : w.Twins (w'.tell n) := hw.of_page hw.page (le_refl _) hw.planned hw.planned'
  exact (h w (w'.tell n) hle htold hopen).told_right

/-- Resting takes the same time on both. -/
theorem Abreast.rest (time : Nat) :
    Abreast (fun _ _ _ => True) S (Routine.rest time) (Routine.rest time) := by
  have hrun : ∀ w : World, w.amid (Routine.rest time) [] =
      ((), [⟨w.clock, .sleep time⟩], { w with clock := w.clock + time }) := by
    intro w
    cases time <;> rfl
  intro w w' hle hw hopen
  have hopen' : w'.page.closed = false := hw.page.closed_eq ▸ hopen
  have hlater := hw.at_clock (w.clock + time)
  rw [hrun, hrun, ← hw.clock]
  exact ⟨⟨.refl _, hopen, (List.append_nil _).symm⟩, ⟨.refl _, hopen', (List.append_nil _).symm⟩,
    hlater, .nil, trivial⟩

end Routine

/-! ## Lookups -/

namespace Lookup

variable {α β γ δ μ ν : Type} {R : Sides → α → β → Prop} {Q : Sides → γ → δ → Prop} {S T : Sides}
  {q : Lookup α} {q' : Lookup β}

/-- **Lookups that find the same side by side**, or fail for one and the same reason. -/
def Abreast (R : Sides → α → β → Prop) (S : Sides) (q : Lookup α) (q' : Lookup β) : Prop :=
  Routine.Abreast (fun T => Agree (R T)) S q.run q'.run

theorem Abreast.mono (h : Abreast R S q q') (hle : S ≤ T) : Abreast R T q q' :=
  Routine.Abreast.mono h hle

theorem Abreast.pure {a : α} {b : β} (hab : ∀ T, S ≤ T → R T a b) :
    Abreast R S (Pure.pure a) (Pure.pure b) :=
  .done fun T hle => .ok (hab T hle)

theorem Abreast.bind (h : Abreast R S q q') {f : α → Lookup γ} {f' : β → Lookup δ}
    (hf : ∀ T a b, S ≤ T → R T a b → Abreast Q T (f a) (f' b)) :
    Abreast Q S (q >>= f) (q' >>= f') := by
  refine Routine.Abreast.bind h fun T r r' hle hr => ?_
  cases hr with
  | error e => exact .done fun _ _ => .error e
  | ok hab => exact hf T _ _ hle hab

theorem Abreast.imp {P : Sides → α → β → Prop} (h : Abreast R S q q')
    (hRP : ∀ T a b, S ≤ T → R T a b → P T a b) : Abreast P S q q' := by
  refine Routine.Abreast.imp h fun T r r' hle hr => ?_
  cases hr with
  | error e => exact .error e
  | ok hab => exact .ok (hRP T _ _ hle hab)

/-- **What two lookups come to is what they mean**: both fail alike, or what they find goes together
as what is meant does. -/
theorem Means.together {w w' : World} (hw : w.Twins w') (hopen : w.page.closed = false)
    (hlooks : q.Looks)
    (hlooks' : q'.Looks) {P : Page → α → μ → Prop} {P' : Page → β → ν → Prop} {V : μ → ν → Prop}
    {meant : Except PageError μ} {meant' : Except PageError ν} (hq : q.Means w.page P meant)
    (hq' : q'.Means w'.page P' meant') (hmeant : Agree V meant meant') :
    World.Abreast (fun T => Agree fun a b => ∃ m n, P T.left a m ∧ P' T.right b n ∧ V m n) w w'
      (w.amid q.run []) (w'.amid q'.run []) := by
  obtain ⟨h, faults, told, hplanned, hh, hrun⟩ := World.amid_of_looks hlooks hw.planned
  obtain ⟨h', faults', told', hplanned', hh', hrun'⟩ := World.amid_of_looks hlooks' hw.planned'
  have hopen' : w'.page.closed = false := hw.page.closed_eq ▸ hopen
  have htwins := hw.page.grow hq.grows hq'.grows hq.sound hq'.sound
  have hle : w.tables w' ≤ (q.run.readOn w.page).2.tables (q'.run.readOn w'.page).2 :=
    ⟨(Page.Keeps.of_grows hq.grows).handles, (Page.Keeps.of_grows hq'.grows).handles⟩
  rw [hrun, hrun']
  refine ⟨.of_grows hopen hq.grows hh _, .of_grows hopen' hq'.grows hh' _,
    hw.of_page htwins hle hplanned hplanned', ?_, ?_⟩
  · dsimp only
    rw [hh, hh']
    exact .nil
  · have hagree := hq.agree
    have hagree' := hq'.agree
    change Agree _ (q.run.readOn w.page).1 (q'.run.readOn w'.page).1
    generalize (q.run.readOn w.page).1 = r at hagree
    generalize (q'.run.readOn w'.page).1 = r' at hagree'
    cases hagree with
    | error e =>
      cases hmeant
      cases hagree'
      exact .error e
    | ok hP =>
      cases hmeant with
      | ok hV =>
        cases hagree' with
        | ok hP' => exact .ok ⟨_, _, hP, hP', hV⟩

/-- So it is wherever they mean it. -/
theorem abreast_of_means (hlooks : q.Looks) (hlooks' : q'.Looks) {P : Page → α → μ → Prop}
    {P' : Page → β → ν → Prop} {V : μ → ν → Prop}
    (hmean : ∀ p p' : Page, S.left.Keeps p → S.right.Keeps p' → p.Twins p' → p.closed = false →
      ∃ meant meant', q.Means p P meant ∧ q'.Means p' P' meant' ∧ Agree V meant meant') :
    Abreast (fun T a b => ∃ m n, P T.left a m ∧ P' T.right b n ∧ V m n) S q q' := by
  intro w w' hle hw hopen
  obtain ⟨meant, meant', hq, hq', hmeant⟩ := hmean _ _ hle.1 hle.2 hw.page hopen
  exact hq.together hw hopen hlooks hlooks' hq' hmeant

/-- **A call about one element**, which does not fail, is answered alike and leaves the same
event. -/
theorem ask_abreast (f : Handle → Call)
    (hl : ∀ {L : Tables} {h k : Handle}, L.Links h k → (f h).Links L (f k))
    (habout : ∀ h, (f h).about? = some h) (hvalid : ∀ h, (f h).IsValid) {h k : Handle}
    (hs : S.Same h k) :
    Abreast (fun T => Call.Yields T.tables (f h) (f k)) S (ask (f h)) (ask (f k)) := by
  intro w w' hle hw hopen
  have hopen' : w'.page.closed = false := hw.page.closed_eq ▸ hopen
  obtain ⟨q, hleft, hright⟩ := hs.mono hle
  obtain ⟨a, ha, hgoes⟩ := World.exists_asked hw.planned hopen (habout h) (hvalid h) hleft
  obtain ⟨b, hb, hgoes'⟩ := World.exists_asked hw.planned' hopen' (habout k) (hvalid k) hright
  have hlink : (f h).Links (w.tables w') (f k) := hl (hs.mono hle).links
  obtain ⟨htwins, hgrow, hanswered, -⟩ := hw.perform hlink
  refine ⟨hgoes, hgoes', htwins, ?_, ?_⟩
  · rw [World.amid_ask, World.amid_ask, ha, hb]
    dsimp only
    rw [History.events_cons, History.events_cons, ← hw.clock]
    have hlinked := (hlink.mono hgrow).event?
    change World.EventsMatch _ (((f h).event?.toList.map fun e => (w.clock, e)) ++ [])
      (((f k).event?.toList.map fun e => (w.clock, e)) ++ [])
    generalize (f h).event? = e at hlinked
    generalize (f k).event? = e' at hlinked
    cases hlinked with
    | none => exact .nil
    | some he => exact .cons ⟨rfl, he⟩ .nil
  · rw [World.amid_ask, World.amid_ask]
    dsimp only
    rw [ha, hb] at hanswered ⊢
    cases hanswered with
    | ok hyields => exact .ok hyields

end Lookup
end ConsentWalker
