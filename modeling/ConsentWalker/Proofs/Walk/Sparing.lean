import ConsentWalker.Proofs.Walk.Beside
/-!
# Walk — sparing a page

A search that is to do nothing about dialogs spares the page: it asks, it observes, and what it runs
into changes no more than which handles were given out and who observes (`Page.Spared`). So whatever
else changed about a page beside such a search was changed by others, which `World.LeftTo` says step
by step.

That a search spares the page is read off its text (`step_spares`), before it is known who answers
it: it holds in every stage, whichever calls fail.
-/

namespace ConsentWalker

/-! ## Calls that spare a page -/

/-- The kinds of calls that spare a page: questions, and the wish to be told of changes. -/
def Call.Kind.spares : Call.Kind → Bool
  | .query | .text | .style | .rect | .nested | .isChecked | .observe => true
  | _ => false

namespace Call

/-- **A call spares a page if it asks or observes**, and touches it otherwise. -/
theorem spares_iff {c : Call} : c.kind.spares = true ↔ c.isRead = true ∨ c = .observe := by
  cases c <;> simp [kind, Kind.spares, isRead]

/-- A call touches the page if and only if its kind does not spare it. -/
theorem touches_eq (c : Call) : c.touches = ! c.kind.spares := by
  cases c <;> rfl

end Call

namespace Page

variable {p p₁ p₂ : Page}

/-- **A page that was spared**: handles may have been given out, and observers may have come, gone,
or fetched what was told them. All else is as it was. -/
def Spared (p p' : Page) : Prop := ∃ handles mailboxes, p' = { p with handles, mailboxes }

namespace Spared

theorem refl (p : Page) : p.Spared p := ⟨p.handles, p.mailboxes, rfl⟩

theorem trans (h₁ : p.Spared p₁) (h₂ : p₁.Spared p₂) : p.Spared p₂ := by
  obtain ⟨_, _, rfl⟩ := h₁
  obtain ⟨handles, mailboxes, rfl⟩ := h₂
  exact ⟨handles, mailboxes, rfl⟩

theorem of_grows (h : p.Grows p₁) : p.Spared p₁ := by
  obtain ⟨more, rfl⟩ := h
  exact ⟨_, _, rfl⟩

end Spared

/-- **A call that spares pages spares this one**, whether it fails or not. -/
theorem perform_spared {c : Call} (hc : c.kind.spares = true) (p : Page) :
    p.Spared (p.perform c).2 := by
  rcases Call.spares_iff.1 hc with hread | rfl
  · exact .of_grows (perform_grows hread p)
  · exact ⟨_, _, rfl⟩

theorem drop_spared (p : Page) (o : Observer) : p.Spared (p.drop o) := ⟨_, _, rfl⟩

end Page

/-! ## Worlds that were spared -/

namespace World

variable {w w₁ w₂ : World}

/-- **A world in which the page was spared**: every call that was made asked or observed. -/
structure Spared (w w' : World) : Prop where
  page : w.page.Spared w'.page
  calls : ∃ made, w'.faults = { w.faults with made := made ++ w.faults.made } ∧
    ∀ k ∈ made, k.spares = true

namespace Spared

/-- Where neither page nor calls have changed. -/
theorem of_eq (hpage : w₁.page = w.page) (hfaults : w₁.faults = w.faults) : w.Spared w₁ :=
  ⟨hpage ▸ .refl _, [], hfaults, by simp⟩

theorem refl (w : World) : w.Spared w := of_eq rfl rfl

theorem trans (h₁ : w.Spared w₁) (h₂ : w₁.Spared w₂) : w.Spared w₂ := by
  obtain ⟨made₁, hfaults₁, hmade₁⟩ := h₁.calls
  obtain ⟨made₂, hfaults₂, hmade₂⟩ := h₂.calls
  refine ⟨h₁.page.trans h₂.page, made₂ ++ made₁, ?_, fun k hk => ?_⟩
  · rw [hfaults₂, hfaults₁, List.append_assoc]
  · rcases List.mem_append.1 hk with hk | hk
    · exact hmade₂ k hk
    · exact hmade₁ k hk

end Spared

theorem perform_spared {c : Call} (hc : c.kind.spares = true) (w : World) :
    w.Spared (w.perform c).2 := by
  unfold perform Faults.perform
  dsimp only
  cases w.faults.next? c.kind with
  | some e => exact ⟨.refl _, [c.kind], rfl, by simpa using hc⟩
  | none => exact ⟨Page.perform_spared hc _, [c.kind], rfl, by simpa using hc⟩

theorem collect?_spared {o : Observer} {records : Option Nat}
    (h : w.collect? o = some (records, w₁)) : w.Spared w₁ := by
  rcases collect?_cases h with rfl | rfl
  · exact .refl w₁
  · exact ⟨⟨_, _, rfl⟩, [], rfl, by simp⟩

theorem drop_spared (w : World) (o : Observer) : w.Spared (w.drop o) :=
  ⟨w.page.drop_spared o, [], rfl, by simp⟩

end World

/-! ## Routines that spare a page -/

/-- An act that spares a page. -/
def Act.Spares : Act → Prop
  | .call c _ => c.kind.spares = true
  | _ => True

/-- Who is quiet spares the page. -/
theorem Act.IsQuiet.spares (a : Act) (ha : a.IsQuiet) : a.Spares := by
  cases a with
  | call c r =>
    change c.touches = false at ha
    rw [Call.touches_eq, Bool.not_eq_false'] at ha
    exact ha
  | _ => trivial

/-- What is left of a routine that halted does acts of one kind only. -/
def Halt.Only {α : Type} (P : Act → Prop) (halt : Halt α) : Prop :=
  halt.Meets (fun _ => True) (Routine.Only P)

/-- An act that spares pages spares this one. -/
theorem World.Makes.spared {a : Act} {w w' : World} (h : w.Makes a w') (ha : a.Spares) :
    w.Spared w' := by
  cases h with
  | call c => exact perform_spared ha w
  | collect hcollect => exact collect?_spared hcollect
  | drop o => exact drop_spared w o
  | note | rest | report => exact .of_eq rfl rfl

/-- **A routine that spares pages spares this one** up to where it halts, and goes on to. -/
theorem World.go_spares {α : Type} {r : Routine α} (hr : r.Only Act.Spares) (w : World) :
    w.Spared (w.go r).2 ∧ (w.go r).1.Only Act.Spares := by
  have hkept := World.go_keeps (w := w)
    (I := fun h w' => (∀ m ∈ h, m.act.Spares) → w.Spared w')
    (fun h m w₁ w₂ hi hmakes hh => (hi fun m' hm' => hh m' (List.mem_append_left _ hm')).trans
      (hmakes.spared (hh m (List.mem_append_right _ List.mem_cons_self))))
    (fun h m w₁ hi _ hh => hi fun m' hm' => hh m' (List.mem_append_left _ hm'))
    (.refl r 0) fun _ => .refl w
  constructor
  · refine hkept.elim ?_ ?_
    · rintro a ⟨k, t, hc, hspared⟩
      exact hspared (hr.leads hc).1
    · rintro next ⟨k, t, hl, -, hspared⟩
      exact hspared (hr.leads hl).1
  · refine hkept.imp (fun _ _ => trivial) ?_
    rintro next ⟨k, t, hl, -, -⟩
    exact (hr.leads hl).2

/-! ## Searches that spare a page -/

/-- A handling without actions tells, lets others act, and reports. -/
theorem Vendor.handling_spares {s : Setting} (hskip : s.flags.skipActions = true) (v : Vendor)
    (w : Walker) : ((v.handling s).run w).Only Act.Spares := by
  have hact : v.act s = (do tell (.actionsSkipped v.name); return false) := by
    unfold Vendor.act
    rw [if_pos hskip]
  unfold Vendor.handling
  rw [hact]
  exact ⟨trivial, trivial, trivial, trivial⟩

namespace Search

variable {x : Search}

/-- **A search without actions spares the page in every stage.** -/
theorem step_spares (hskip : x.setting.flags.skipActions = true) (s : State) :
    (x.step s).Only Act.Spares := by
  obtain ⟨stage, tried, handled, observer⟩ := s
  cases stage with
  | handling i =>
    refine ⟨trivial, ?_⟩
    dsimp only [Routine.bind]
    cases x.vendors[i]? with
    | none => trivial
    | some v => exact Routine.Only.bind (v.handling_spares hskip {}) fun _ => trivial
  | _ => exact (x.step_quiet fun i => Stage.noConfusion).mono Act.IsQuiet.spares

theorem start_spares : start.Only Act.Spares := (look_quiet {}).mono Act.IsQuiet.spares

end Search

namespace Task

variable {t : Task} {w w' : World} {r : Routine Search.Next}

/-- A task that spares the page from where it stands on. -/
structure Spares (t : Task) : Prop where
  skips : t.search.setting.flags.skipActions = true
  halt : t.halt.Only Act.Spares

theorem spares_new {x : Search} (hskip : x.setting.flags.skipActions = true) :
    (Task.new x).Spares :=
  ⟨hskip, Search.start_spares⟩

/-- Collecting what a task waited for spares the page. -/
theorem Spares.ready? (ht : t.Spares) (hr : t.ready? w = some (r, w')) :
    w.Spared w' ∧ r.Only Act.Spares := by
  obtain ⟨honly, rfl | ⟨o, records, hcollect⟩⟩ := ready?_of_meets ht.halt hr
  · exact ⟨.refl w', honly⟩
  · exact ⟨World.collect?_spared hcollect, honly⟩

/-- **A task that spares the page goes on sparing it**, through however many stages. -/
theorem Spares.follow (ht : t.Spares) (stages : Nat) (hr : r.Only Act.Spares) (w : World) :
    (t.follow stages r w).1.Spares ∧ w.Spared (t.follow stages r w).2 := by
  induction stages generalizing t r w with
  | zero => exact ⟨⟨ht.skips, hr⟩, .refl w⟩
  | succ stages ih =>
    obtain ⟨hspared, hhalt⟩ := World.go_spares hr w
    unfold Task.follow
    rcases hgo : w.go r with ⟨halt, w₁⟩
    rw [hgo] at hspared hhalt
    cases halt with
    | finished a =>
      cases a with
      | stop outcome => exact ⟨⟨ht.skips, trivial⟩, hspared⟩
      | goOn s =>
        have hshown : w₁.Spared { w₁ with tried := s.tried } := .of_eq rfl rfl
        obtain ⟨hfollows, hrest⟩ := ih (t := { t with state := s }) ⟨ht.skips, ht.halt⟩
          (Search.step_spares ht.skips s) { w₁ with tried := s.tried }
        exact ⟨hfollows, hspared.trans (hshown.trans hrest)⟩
    | sleeping | paused | waiting => exact ⟨⟨ht.skips, hhalt⟩, hspared⟩

/-- So does one that acts until it has to wait. -/
theorem Spares.run (ht : t.Spares) (w : World) : (t.run w).1.Spares ∧ w.Spared (t.run w).2 := by
  refine run_keeps (P := fun t w' => t.Spares ∧ w.Spared w') ?_ ⟨ht, .refl w⟩
  rintro t w₁ r w₂ ⟨ht, hbefore⟩ hr
  obtain ⟨hspared, honly⟩ := ht.ready? hr
  obtain ⟨hfollows, hspared'⟩ := ht.follow t.stagesBetween honly w₂
  exact ⟨hfollows, hbefore.trans (hspared.trans hspared')⟩

/-- Stopping a task spares the page as well. -/
theorem abort_spared (t : Task) (w : World) : w.Spared (t.abort w) := by
  unfold abort
  split
  · exact .refl w
  · split
    · exact .refl w
    · exact w.drop_spared _

end Task

/-! ## What is left to others -/

/-- **A world left to others**: what became of it is their own doing, one change after another, and
in between the page was spared. -/
inductive World.LeftTo (Others : World → World → Prop) (w₀ : World) : World → Prop where
  | spared {w : World} : w₀.Spared w → LeftTo Others w₀ w
  | changed {w w' w'' : World} : LeftTo Others w₀ w → Others w w' → w'.Spared w'' →
      LeftTo Others w₀ w''

namespace World.LeftTo

variable {Others : World → World → Prop} {w₀ w w' : World}

theorem spare (h : w₀.LeftTo Others w) (hs : w.Spared w') : w₀.LeftTo Others w' := by
  cases h with
  | spared h₀ => exact .spared (h₀.trans hs)
  | changed hbefore hothers h₁ => exact .changed hbefore hothers (h₁.trans hs)

theorem change (h : w₀.LeftTo Others w) (hothers : Others w w') : w₀.LeftTo Others w' :=
  .changed h hothers (.refl w')

end World.LeftTo

/-- **A task without actions leaves its world to others**, in every state it can come to. -/
theorem Task.Beside.left {x : Search} {Others : World → World → Prop} {w₀ w : World} {t : Task}
    (hskip : x.setting.flags.skipActions = true) (hb : Task.Beside x Others w₀ t w) :
    t.Spares ∧ w₀.LeftTo Others w := by
  induction hb with
  | new => exact ⟨Task.spares_new hskip, .spared (.refl w₀)⟩
  | act stages _ hr ih =>
    obtain ⟨hspares, hleft⟩ := ih
    obtain ⟨hspared, honly⟩ := hspares.ready? hr
    obtain ⟨hfollows, hspared'⟩ := hspares.follow stages honly _
    exact ⟨hfollows, hleft.spare (hspared.trans hspared')⟩
  | change _ hothers _ ih => exact ⟨ih.1, ih.2.change hothers⟩
  | pass time _ _ _ ih => exact ⟨ih.1, ih.2.spare (.of_eq rfl rfl)⟩

end ConsentWalker
