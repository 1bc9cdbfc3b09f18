import ConsentWalker.Proofs.Page.Switching
import ConsentWalker.Proofs.Walk.Effect
import ConsentWalker.Proofs.Walk.Meaning
/-!
# Walk — consents come to what the policy says

A consent that looks at a checkbox and clicks what reaches it is a `Switch`. Settling one clicks if
the checkbox is not as the policy wants it, and not otherwise (`settle_toggles`). Where queries lead
does not depend on what is checked, so switches for different checkboxes do not interfere:
`Switch.settled` says of any number of them that all end as the policy wants, whatever the flags.
-/

namespace ConsentWalker

/-! ## Where a query leads -/

namespace Page

variable {p p' : Page} {q : Query} {base : Option Handle} {place : Place}

/-- The place of the element a query finds, if it finds one. -/
def Locates (p : Page) (q : Query) (base : Option Handle) (place : Place) : Prop :=
  ∃ h p', (q.target? base).run.readOn p = (.ok (some h), p') ∧ p'.place? h = some place

/-- That the first place a query means is the place. -/
def Leads (p : Page) (q : Query) (base : Option Handle) (place : Place) : Prop :=
  ∃ qs, p.sight.seek false q (p.origin base) = .ok qs ∧ qs.head? = some place

/-- What a query leads to on an open page it finds, which gives out handles at most. -/
theorem Leads.target? (hl : p.Leads q base place) (hp : p.Sound) (hopen : p.closed = false) :
    ∃ h p', (q.target? base).run.readOn p = (.ok (some h), p') ∧ p.Grows p' ∧ p'.Sound ∧
      p'.Denotes h place := by
  obtain ⟨qs, hqs, hfirst⟩ := hl
  obtain ⟨hgrows, hsound, hagree⟩ := Sight.target?_means hp hopen q base
  rw [hqs] at hagree
  generalize hr : ((q.target? base).run.readOn p).1 = r at hagree
  cases hagree with
  | ok hfound =>
    rw [hfirst] at hfound
    cases hfound with
    | some hd => exact ⟨_, _, Prod.ext hr rfl, hgrows, hsound, hd⟩

/-- What a query finds it leads to. -/
theorem Locates.leads (hl : p.Locates q base place) (hp : p.Sound) (hopen : p.closed = false) :
    p.Leads q base place := by
  obtain ⟨h, p', hrun, hplace⟩ := hl
  obtain ⟨-, -, hagree⟩ := Sight.target?_means hp hopen q base
  rw [hrun] at hagree
  generalize hm : (do return (← p.sight.seek false q (p.origin base)).head? :
    Except PageError (Option Place)) = meant at hagree
  cases hagree with
  | ok hfound =>
    obtain ⟨qs, hqs, hfirst⟩ := Json.bind_eq_ok.1 hm
    cases hfound with
    | some hd =>
      obtain rfl : place = _ := Option.some.inj (hplace.symm.trans hd.1)
      exact ⟨qs, hqs, Except.ok.inj hfirst⟩

/-- **Where a query leads does not change** as long as the tree is left alone. -/
theorem Leads.keeps (hl : p.Leads q base place) (hk : p.Keeps p') (hclosed : p'.closed = p.closed) :
    p'.Leads q base place := by
  obtain ⟨qs, hqs, hfirst⟩ := hl
  obtain ⟨o, ho, -⟩ := Sight.seek_below _ _ _ _ qs hqs
  refine ⟨qs, ?_, hfirst⟩
  rw [hk.sight_eq, hk.origin_eq hclosed ho, ← ho]
  exact hqs

end Page

/-! ## Clicking -/

section Clicking

variable {s : Setting} {c : Click} {k : Walker} {p : Page} {h : Handle} {button box : Place}

/-- A call that is answered with another page is a step to it. -/
theorem Steps.onPage_act_ok {c : Call} {r : c.Result} {p' : Page} (hc : p.perform c = (.ok r, p')) :
    (act c).onPage k p = ((.ok r, k), p') := by
  rw [onPage_act, hc]

/-- Bringing an element into view switches nothing. -/
theorem approach_toggles (s : Setting) (k : Walker) (hp : p.Sound) (hopen : p.closed = false)
    (hh : p.place? h = some button) :
    ∃ p', (approach s h).onPage k p = ((.ok (), k), p') ∧ p.Toggles p' [] [] := by
  unfold approach
  split
  · have hscrolled : p.Toggles (p.record (.scroll h)) [] [] := Page.record_toggles hp rfl
    have hfocused :
        (p.record (.scroll h)).Toggles ((p.record (.scroll h)).record (.focus h)) [] [] :=
      Page.record_toggles hscrolled.sound rfl
    have hscroll : p.perform (.scroll h) = (.ok (), p.record (.scroll h)) :=
      Page.acts_run hopen hh fun _ => (·.record (.scroll h))
    have hopen' : (p.record (.scroll h)).closed = false := hopen
    have hfocus : (p.record (.scroll h)).perform (.focus h) =
        (.ok (), (p.record (.scroll h)).record (.focus h)) :=
      Page.acts_run hopen' (hscrolled.keeps.place? hh) fun _ => (·.record (.focus h))
    refine ⟨_, ?_, hscrolled.after hfocused (by simp)⟩
    rw [Steps.onPage_bind (Steps.onPage_act_ok hscroll), Steps.onPage_act_ok hfocus]
  · exact ⟨p, rfl, .of_grows (.refl p) hp⟩

/-- Telling of a click is no step on the page. -/
theorem announceClick_onPage (s : Setting) (c : Click) (h : Handle) (k : Walker) (p : Page) :
    (announceClick s c h).onPage k p = ((.ok (), k), p) := by
  unfold announceClick
  split <;> rfl

/-- **A click step clicks the button and switches its box**, and does nothing else that is seen of
checked states. -/
theorem clickStep_toggles (s : Setting) (c : Click) (k : Walker) (hp : p.Sound)
    (hopen : p.closed = false) (hbutton : p.Leads c.target k.scope.head? button)
    (hcontrol : p.controlOf? button = some box) (hbox : box.IsCheckbox) (hplace : box ∈ p.places) :
    ∃ p', (clickStep s c).onPage k p = ((.ok (), k), p') ∧ p.Toggles p' [button] [box] := by
  obtain ⟨h, p₁, hrun, hgrows, hsound, hd⟩ := hbutton.target? hp hopen
  have hfound : p.Toggles p₁ [] [] := .of_grows hgrows hsound
  have hopen₁ : p₁.closed = false := hfound.closed.trans hopen
  obtain ⟨p₂, happroach, hbrought⟩ := approach_toggles s k hsound hopen₁ hd.1
  have hopen₂ : p₂.closed = false := hbrought.closed.trans hopen₁
  have hh₂ : p₂.place? h = some button := hbrought.keeps.place? hd.1
  have hkeeps₂ : p.Keeps p₂ := hfound.keeps.trans hbrought.keeps
  have hclick : p₂.perform (.click h c.openInTab) =
      (.ok (), Page.clickedAt h c.openInTab button p₂) :=
    Page.acts_run hopen₂ hh₂ (Page.clickedAt h c.openInTab)
  have hclicked : p₂.Toggles (Page.clickedAt h c.openInTab button p₂) [button] [box] := by
    refine Page.clickedAt_toggles hbrought.sound hh₂ ?_ hbox ?_ c.openInTab
    · rw [hkeeps₂.controlOf?_eq]
      exact hcontrol
    · rw [hkeeps₂.places_eq]
      exact hplace
  have hpress : (press s c (some h)).onPage k p₁ =
      ((.ok (), k), Page.clickedAt h c.openInTab button p₂) := by
    unfold press
    rw [Steps.onPage_bind happroach, Steps.onPage_bind (announceClick_onPage s c h k p₂)]
    exact Steps.onPage_act_ok hclick
  refine ⟨_, ?_, (hfound.after hbrought (by simp)).after hclicked (by simpa using hplace)⟩
  have hlooking : (Steps.looking c.target.target?).onPage k p = ((.ok (some h), k), p₁) := by
    rw [Steps.onPage_looking, hrun]
  unfold clickStep
  rw [Steps.onPage_bind hlooking, Steps.onPage_bind hpress]
  split <;> rfl

end Clicking

/-! ## Settling -/

/-- A consent, the checkbox it looks at, and what it clicks. -/
structure Switch where
  consent : Consent
  box : Place
  button : Place

namespace Switch

variable {p p' : Page} {base : Option Handle} {x : Switch}

/-- **A switch that works on a page**: it looks for a checkbox and finds its box, and what it clicks
is its button, which is the box or a label of it. -/
def Works (p : Page) (base : Option Handle) (x : Switch) : Prop :=
  ∃ q c, x.consent.binding = .toggle (.checkbox q) (.click c) ∧
    p.Locates q base x.box ∧ x.box.IsCheckbox ∧
    p.Locates c.target base x.button ∧ p.controlOf? x.button = some x.box

/-- What a switch that works looks at and clicks, in terms of what its queries mean. -/
structure Wired (p : Page) (base : Option Handle) (x : Switch) (q : Query) (c : Click) : Prop where
  binding : x.consent.binding = .toggle (.checkbox q) (.click c)
  box : p.Leads q base x.box
  checkbox : x.box.IsCheckbox
  button : p.Leads c.target base x.button
  control : p.controlOf? x.button = some x.box
  place : x.box ∈ p.places

/-- A switch that works is wired. -/
theorem Works.wired (hx : x.Works p base) (hp : p.Sound) (hopen : p.closed = false) :
    ∃ q c, x.Wired p base q c := by
  obtain ⟨q, c, hbinding, hbox, hcheckbox, hbutton, hcontrol⟩ := hx
  have hleads := hbox.leads hp hopen
  obtain ⟨h, p', -, hgrows, -, hd⟩ := hleads.target? hp hopen
  have hplace : x.box ∈ p'.places := (Page.place?_eq_some hd.1).1
  rw [(Page.Keeps.of_grows hgrows).places_eq] at hplace
  exact ⟨q, c, hbinding, hleads, hcheckbox, hbutton.leads hp hopen, hcontrol, hplace⟩

/-- It stays wired as long as the tree is left alone. -/
theorem Wired.keeps {q : Query} {c : Click} (hx : x.Wired p base q c) (hk : p.Keeps p')
    (hclosed : p'.closed = p.closed) : x.Wired p' base q c where
  binding := hx.binding
  box := hx.box.keeps hk hclosed
  checkbox := hx.checkbox
  button := hx.button.keeps hk hclosed
  control := by rw [hk.controlOf?_eq, hx.control]
  place := by rw [hk.places_eq]; exact hx.place

/-- The state a policy wants its box to be in. -/
def wanted (s : Setting) (x : Switch) : Bool := s.policy.allows x.consent.category

/-- Whether its box is not in the state that is wanted. -/
def Differs (s : Setting) (p : Page) (x : Switch) : Bool := p.isCheckedAt x.box != x.wanted s

/-- A box that was not switched differs if it did before. -/
theorem differs_eq (s : Setting) {buttons boxes : List Place} (ht : p.Toggles p' buttons boxes)
    (hplace : x.box ∈ p.places) (hout : x.box ∉ boxes) : x.Differs s p' = x.Differs s p := by
  unfold Differs
  rw [ht.others x.box hplace hout]

/-- The boxes of some of the switches that are wired are places of the page. -/
theorem box_mem_places {xs : List Switch} (hx : ∀ x ∈ xs, ∃ q c, x.Wired p base q c)
    (P : Switch → Bool) : ∀ r ∈ (xs.filter P).map Switch.box, r ∈ p.places := by
  intro r hr
  obtain ⟨y, hy, rfl⟩ := List.mem_map.1 hr
  obtain ⟨q, c, hwired⟩ := hx y (List.mem_filter.1 hy).1
  exact hwired.place

end Switch

variable {p : Page} {k : Walker} {x : Switch} {q : Query} {c : Click}

/-- Looking at the state of an element that is denoted. -/
theorem isChecked_eq {h : Handle} {place : Place} (hopen : p.closed = false)
    (hd : p.Denotes h place) : p.perform (.isChecked h) = (.ok (p.isCheckedAt place), p) := by
  have hreads : Page.Reads (Page.answer (.isChecked h)) fun p => (Page.located h p).bind fun q =>
      (Except.ok p).bind fun p => .ok (p.isCheckedAt q) :=
    (Page.locate_reads h).bind fun _ => Page.Reads.get.bind fun _ => Page.Reads.pure _
  have hrun : p.perform (.isChecked h) = _ := hreads p
  rw [hrun]
  dsimp only
  rw [hd.located hopen]
  rfl

/-- **Looking at a checkbox comes to its state.** -/
theorem holds_onPage (hx : x.Wired p k.scope.head? q c) (hp : p.Sound) (hopen : p.closed = false) :
    ∃ p', (Steps.looking (Matcher.checkbox q).holds).onPage k p =
      ((.ok (p.isCheckedAt x.box), k), p') ∧ p.Toggles p' [] [] := by
  obtain ⟨h, p', hrun, hgrows, hsound, hd⟩ := hx.box.target? hp hopen
  have hfound : p.Toggles p' [] [] := .of_grows hgrows hsound
  refine ⟨p', ?_, hfound⟩
  have hsame : p'.isCheckedAt x.box = p.isCheckedAt x.box := hfound.others _ hx.place (by simp)
  have hholds : ((Matcher.checkbox q).holds k.scope.head?).run.readOn p =
      (.ok (p.isCheckedAt x.box), p') := by
    unfold Matcher.holds
    rw [Lookup.readOn_bind]
    change Lookup.follow _ ((q.target? k.scope.head?).run.readOn p).1
      ((q.target? k.scope.head?).run.readOn p).2 = _
    rw [hrun, ← hsame]
    exact isChecked_eq (hfound.closed.trans hopen) hd
  rw [Steps.onPage_looking, hholds]

/-- Outlining the element of a matcher switches nothing. -/
theorem outlineIf_toggles (s : Setting) (wanted : Bool) (hx : x.Wired p k.scope.head? q c)
    (hp : p.Sound) (hopen : p.closed = false) :
    ∃ p', (outlineIf s (.checkbox q) wanted).onPage k p = ((.ok (), k), p') ∧
      p.Toggles p' [] [] := by
  unfold outlineIf
  split
  · obtain ⟨h, p₁, hrun, hgrows, hsound, hd⟩ := hx.box.target? hp hopen
    have hfound : p.Toggles p₁ [] [] := .of_grows hgrows hsound
    have hopen₁ : p₁.closed = false := hfound.closed.trans hopen
    let passed := p₁.isCheckedAt x.box == wanted
    have hpainted : p₁.Toggles (Page.outlined h passed p₁) [] [] :=
      Page.outlined_toggles hsound h passed
    have hpaint : p₁.perform (.paint h passed) = (.ok (), Page.outlined h passed p₁) :=
      Page.acts_run hopen₁ hd.1 fun _ => Page.outlined h passed
    refine ⟨_, ?_, hfound.after hpainted (by simp)⟩
    have houtline : ((Matcher.checkbox q).outline k.scope.head? wanted).run.readOn p =
        (.ok (), Page.outlined h passed p₁) := by
      unfold Matcher.outline
      rw [Lookup.readOn_bind]
      change Lookup.follow _ ((q.target? k.scope.head?).run.readOn p).1
        ((q.target? k.scope.head?).run.readOn p).2 = _
      rw [hrun]
      change (ask (.isChecked h) >>= fun b => ask (.paint h (b == wanted))).run.readOn p₁ = _
      rw [Lookup.readOn_bind]
      have hask : (ask (.isChecked h)).run.readOn p₁ = (.ok (p₁.isCheckedAt x.box), p₁) :=
        isChecked_eq hopen₁ hd
      rw [hask]
      exact hpaint
    rw [Steps.onPage_looking, houtline]
  · exact ⟨p, rfl, .of_grows (.refl p) hp⟩

/-- Settling a consent that is a toggle, read off its text. -/
theorem settle_eq (s : Setting) {wanted : Bool} {consent : Consent} {m : Matcher} {a : Action}
    (h : consent.binding = .toggle m a) :
    settle s wanted consent = (do
      let current ← Steps.looking m.holds
      tell (.settingConsent consent.category (some current) wanted)
      (if current != wanted then execute s a else pure ())
      outlineIf s m wanted) := by
  obtain ⟨category, description, binding⟩ := consent
  obtain rfl : binding = .toggle m a := h
  rw [settle]
  rfl

/-- **Settling a switch clicks its button once if its box differs**, and never otherwise. -/
theorem settle_toggles (s : Setting) (hx : x.Wired p k.scope.head? q c) (hp : p.Sound)
    (hopen : p.closed = false) :
    ∃ p', (settle s (x.wanted s) x.consent).onPage k p = ((.ok (), k), p') ∧
      p.Toggles p' (if x.Differs s p then [x.button] else [])
        (if x.Differs s p then [x.box] else []) := by
  obtain ⟨p₁, hholds, hlooked⟩ := holds_onPage hx hp hopen
  have hopen₁ : p₁.closed = false := hlooked.closed.trans hopen
  have hx₁ : x.Wired p₁ k.scope.head? q c := hx.keeps hlooked.keeps hlooked.closed
  -- the click, if there is one, and then the outline
  have hrest : ∃ p₂, (if x.Differs s p then execute s (.click c) else pure ()).onPage k p₁ =
      ((.ok (), k), p₂) ∧ p₁.Toggles p₂ (if x.Differs s p then [x.button] else [])
        (if x.Differs s p then [x.box] else []) := by
    split
    · rw [execute, Steps.onPage_announced]
      exact clickStep_toggles s c k hlooked.sound hopen₁ hx₁.button hx₁.control hx₁.checkbox
        hx₁.place
    · exact ⟨p₁, rfl, .of_grows (.refl p₁) hlooked.sound⟩
  obtain ⟨p₂, hclick, hclicked⟩ := hrest
  have hx₂ : x.Wired p₂ k.scope.head? q c := hx₁.keeps hclicked.keeps hclicked.closed
  obtain ⟨p₃, houtline, houtlined⟩ :=
    outlineIf_toggles s (x.wanted s) hx₂ hclicked.sound (hclicked.closed.trans hopen₁)
  have hboxes : ∀ r ∈ (if x.Differs s p then [x.box] else []), r ∈ p.places := by
    intro r hr
    rw [List.mem_singleton.1 (List.mem_ite_nil_right.1 hr).2]
    exact hx.place
  refine ⟨p₃, ?_, (hlooked.after hclicked hboxes).before houtlined hboxes⟩
  rw [settle_eq s hx.binding, Steps.onPage_bind hholds, Steps.onPage_bind (Steps.onPage_tell _)]
  change ((if x.Differs s p then execute s (.click c) else pure ()) >>= _).onPage k p₁ = _
  rw [Steps.onPage_bind hclick]
  exact houtline

/-- **Settling switches for distinct boxes** clicks the buttons of those whose boxes differ, in
order, and switches these. -/
theorem settleAll_toggles (s : Setting) {xs : List Switch}
    (hx : ∀ x ∈ xs, ∃ q c, x.Wired p k.scope.head? q c) (hp : p.Sound) (hopen : p.closed = false)
    (hdistinct : (xs.map Switch.box).Nodup) :
    ∃ p', (settleAll s (xs.map Switch.consent)).onPage k p = ((.ok (), k), p') ∧
      p.Toggles p' ((xs.filter (Switch.Differs s p)).map Switch.button)
        ((xs.filter (Switch.Differs s p)).map Switch.box) := by
  induction xs generalizing p with
  | nil => exact ⟨p, rfl, .of_grows (.refl p) hp⟩
  | cons x xs ih =>
    obtain ⟨q, c, hwired⟩ := hx x List.mem_cons_self
    obtain ⟨hnew, hrest⟩ := List.nodup_cons.1 hdistinct
    obtain ⟨p₁, hsettle, hsettled⟩ := settle_toggles s hwired hp hopen
    have hopen₁ : p₁.closed = false := hsettled.closed.trans hopen
    have hwired₁ : ∀ y ∈ xs, ∃ q c, y.Wired p₁ k.scope.head? q c := by
      intro y hy
      obtain ⟨q, c, hy⟩ := hx y (List.mem_cons_of_mem _ hy)
      exact ⟨q, c, hy.keeps hsettled.keeps hsettled.closed⟩
    obtain ⟨p₂, hall, hrestsettled⟩ := ih hwired₁ hsettled.sound hopen₁ hrest
    -- the boxes of the others are as they were, so the same of them differ
    have hown : ∀ r ∈ (if x.Differs s p then [x.box] else []), r = x.box :=
      fun r hr => List.mem_singleton.1 (List.mem_ite_nil_right.1 hr).2
    have hsame : ∀ y ∈ xs, y.Differs s p₁ = y.Differs s p := by
      intro y hy
      obtain ⟨q, c, hy'⟩ := hx y (List.mem_cons_of_mem _ hy)
      refine Switch.differs_eq s hsettled hy'.place fun hmem => hnew ?_
      exact hown _ hmem ▸ List.mem_map_of_mem hy
    rw [List.filter_congr hsame] at hrestsettled
    have hapart : ∀ r ∈ (if x.Differs s p then [x.box] else []),
        r ∉ (xs.filter (Switch.Differs s p)).map Switch.box := by
      intro r hr hr'
      obtain ⟨y, hy, rfl⟩ := List.mem_map.1 hr'
      exact hnew (hown _ hr ▸ List.mem_map_of_mem (List.mem_filter.1 hy).1)
    refine ⟨p₂, ?_, ?_⟩
    · rw [List.map_cons, settleAll]
      exact (Steps.onPage_bind hsettle _).trans hall
    · have htrans := hsettled.trans hrestsettled (fun r hr => hown r hr ▸ hwired.place)
        (Switch.box_mem_places (fun y hy => hx y (List.mem_cons_of_mem _ hy)) _) hapart
      rw [List.filter_cons]
      split
      · next hdiffers => simpa [hdiffers] using htrans
      · next hagrees => simpa [hagrees] using htrans

namespace Switch

/-- Once the boxes that differed were switched, all are as they are wanted. -/
theorem states_of_toggles {s : Setting} {xs : List Switch} {p' : Page}
    (hx : ∀ x ∈ xs, ∃ q c, x.Wired p k.scope.head? q c) (hdistinct : (xs.map Switch.box).Nodup)
    (ht : p.Toggles p' ((xs.filter (Differs s p)).map Switch.button)
      ((xs.filter (Differs s p)).map Switch.box)) :
    ∀ x ∈ xs, p'.isCheckedAt x.box = x.wanted s := by
  intro x hmem
  obtain ⟨q, c, hwired⟩ := hx x hmem
  cases hd : x.Differs s p with
  | true =>
    have hswitched := ht.switched x.box (List.mem_map_of_mem (List.mem_filter.2 ⟨hmem, hd⟩))
    rw [Differs, bne_iff_ne] at hd
    rw [hswitched, Bool.not_eq_eq_eq_not]
    exact Bool.eq_not_of_ne hd
  | false =>
    have hout : x.box ∉ (xs.filter (Differs s p)).map Switch.box := by
      intro hin
      obtain ⟨y, hy, hbox⟩ := List.mem_map.1 hin
      obtain ⟨hy, hdiffers⟩ := List.mem_filter.1 hy
      rw [List.inj_on_of_nodup_map hdistinct hy hmem hbox, hd] at hdiffers
      cases hdiffers
    rw [Differs, bne_eq_false_iff_eq] at hd
    rw [ht.others x.box hwired.place hout, hd]

/-- Where all boxes are as they are wanted none differs. -/
theorem filter_differs_eq_nil {s : Setting} {xs : List Switch}
    (hstates : ∀ x ∈ xs, p.isCheckedAt x.box = x.wanted s) : xs.filter (Differs s p) = [] := by
  rw [List.filter_eq_nil_iff]
  intro x hmem
  rw [Differs, hstates x hmem, bne_self_eq_false]
  exact Bool.false_ne_true

/-- What a step that settles switches comes to in a world where nobody else acts. -/
def settling (s : Setting) (xs : List Switch) (k : Walker) (w : World) :
    (Except PageError Unit × Walker) × World :=
  World.alone ((execute s (.consent (xs.map Switch.consent))).run k) w

/-- Without faults it comes to what settling them comes to on the page. -/
theorem settling_eq (s : Setting) (xs : List Switch) (k : Walker) {w : World}
    (hw : w.faults.planned = []) {p' : Page} {r : Except PageError Unit × Walker}
    (hrun : (settleAll s (xs.map Switch.consent)).onPage k w.page = (r, p')) :
    (settling s xs k w).1 = r ∧ (settling s xs k w).2.page = p' ∧
      (settling s xs k w).2.faults.planned = [] := by
  have hconsents : (execute s (.consent (xs.map Switch.consent))).onPage k w.page = (r, p') := by
    rw [execute, Steps.onPage_announced, hrun]
  obtain ⟨hresult, hpage, hplanned⟩ := execute_alone s (.consent (xs.map Switch.consent)) k hw
  rw [hconsents] at hresult hpage
  exact ⟨hresult, hpage, hplanned⟩

/-- **Consents that are switches come to what the policy says**, whatever the flags. Where each
looks for a checkbox of its own and clicks what reaches it, all succeed, every checkbox ends as the
policy wants it, exactly those are clicked that were not so, once and in order, and no other element
is checked or unchecked. Doing it again clicks nothing. -/
theorem settled {w : World} (hp : w.page.Reached) (hopen : w.page.closed = false)
    (hw : w.faults.planned = []) (s : Setting) (k : Walker) {xs : List Switch}
    (hx : ∀ x ∈ xs, x.Works w.page k.scope.head?) (hdistinct : (xs.map Switch.box).Nodup) :
    let once := settling s xs k w
    let twice := settling s xs once.1.2 once.2
    once.1 = (.ok (), k) ∧
    (∀ x ∈ xs, once.2.page.isCheckedAt x.box = s.policy.allows x.consent.category) ∧
    (∃ hs, once.2.page.clicks = w.page.clicks ++ hs ∧
      List.Forall₂ (fun h q => once.2.page.place? h = some q) hs
        ((xs.filter (Differs s w.page)).map Switch.button)) ∧
    (∀ q ∈ w.page.places, q ∉ xs.map Switch.box →
      once.2.page.isCheckedAt q = w.page.isCheckedAt q) ∧
    w.page.Keeps once.2.page ∧
    twice.1 = (.ok (), k) ∧ twice.2.page.clicks = once.2.page.clicks := by
  have hwired : ∀ x ∈ xs, ∃ q c, x.Wired w.page k.scope.head? q c :=
    fun x hmem => (hx x hmem).wired hp.sound hopen
  obtain ⟨p₁, hrun₁, htoggled⟩ := settleAll_toggles s hwired hp.sound hopen hdistinct
  obtain ⟨hresult₁, hpage₁, hplanned₁⟩ := settling_eq s xs k hw hrun₁
  generalize settling s xs k w = first at hresult₁ hpage₁ hplanned₁ ⊢
  obtain ⟨outcome, w₁⟩ := first
  dsimp only at hresult₁ hpage₁ hplanned₁ ⊢
  subst hresult₁ hpage₁
  have hopen₁ : w₁.page.closed = false := htoggled.closed.trans hopen
  have hstates := states_of_toggles hwired hdistinct htoggled
  have hwired₁ : ∀ x ∈ xs, ∃ q c, x.Wired w₁.page k.scope.head? q c := by
    intro x hmem
    obtain ⟨q, c, h⟩ := hwired x hmem
    exact ⟨q, c, h.keeps htoggled.keeps htoggled.closed⟩
  -- the second time no box differs any more
  obtain ⟨p₂, hrun₂, hagain⟩ := settleAll_toggles s hwired₁ htoggled.sound hopen₁ hdistinct
  rw [filter_differs_eq_nil hstates] at hagain
  obtain ⟨hresult₂, hpage₂, -⟩ := settling_eq s xs k hplanned₁ hrun₂
  refine ⟨rfl, hstates, htoggled.clicks, fun q hq hout => ?_, htoggled.keeps, hresult₂, ?_⟩
  · refine htoggled.others q hq fun hin => hout ?_
    obtain ⟨y, hy, hbox⟩ := List.mem_map.1 hin
    exact hbox ▸ List.mem_map_of_mem (List.mem_filter.1 hy).1
  · obtain ⟨hs, hclicks, hnothing⟩ := hagain.clicks
    rw [List.map_nil, List.forall₂_nil_right_iff] at hnothing
    rw [hpage₂, hclicks, hnothing, List.append_nil]

/-- A page with a checkbox, and with another one that is checked and has a label. -/
def samplePage : Page :=
  .ofTree (.node .document [.node (.element { name := "body" })
    [.node (.element { name := "input", attributes := [("id", "a"), ("type", "checkbox")] }) [],
     .node (.element { name := "label", attributes := [("for", "b")] }) [],
     .node (.element
      { name := "input", attributes := [("id", "b"), ("type", "checkbox"), ("checked", "")] }) []]])
    false

/-- A switch that looks at one element and clicks another; their places are given by number. -/
def sampleSwitch (category : Category) (box button : String × Nat) : Switch where
  consent := .mk category none
    (.toggle (.checkbox (.new box.1)) (.click { target := .new button.1 }))
  box := (samplePage.root.place? box.2).getD default
  button := (samplePage.root.place? button.2).getD default

/-- One that clicks its checkbox, and one that clicks the label of its own. -/
def sampleSwitches : List Switch :=
  [sampleSwitch .a ("#a", 2) ("#a", 2), sampleSwitch .b ("#b", 4) ("label", 3)]

/-- What is allowed of the two purposes is the first. -/
def sampleSetting : Setting where
  flags := { clickDelay := true, paintMatchers := true }
  policy := Policy.empty.set .a true

/-- The page as a world. -/
def sampleWorld : World where
  page := samplePage

/-- Both are clicked once: the first is to be checked, the second is not. -/
theorem sample_settled :
    let once := settling sampleSetting sampleSwitches {} sampleWorld
    let twice := settling sampleSetting sampleSwitches once.1.2 once.2
    once.1 = (.ok (), {}) ∧ once.2.page.clicks = [⟨0⟩, ⟨2⟩] ∧
    (∀ x ∈ sampleSwitches,
      once.2.page.isCheckedAt x.box = sampleSetting.policy.allows x.consent.category) ∧
    twice.2.page.clicks = once.2.page.clicks := by
  have hworks : ∀ x ∈ sampleSwitches, x.Works samplePage none := by
    intro x hx
    rcases List.mem_cons.1 hx with rfl | hx
    · exact ⟨.new "#a", { target := .new "#a" }, rfl, ⟨⟨0⟩, _, rfl, rfl⟩, rfl, ⟨⟨0⟩, _, rfl, rfl⟩,
        rfl⟩
    · obtain rfl := List.mem_singleton.1 hx
      exact ⟨.new "#b", { target := .new "label" }, rfl, ⟨⟨0⟩, _, rfl, rfl⟩, rfl,
        ⟨⟨0⟩, _, rfl, rfl⟩, rfl⟩
  have hdistinct : (sampleSwitches.map Switch.box).Nodup := by
    refine .of_map Place.id ?_
    decide +kernel
  have hreached : sampleWorld.page.Reached := by
    change samplePage.Reached
    unfold samplePage
    exact .ofTree _ _
  have hclicks : (settling sampleSetting sampleSwitches {} sampleWorld).2.page.clicks =
      [⟨0⟩, ⟨2⟩] := by
    decide +kernel
  obtain ⟨hok, hstates, -, -, -, -, hagain⟩ :=
    settled hreached rfl rfl sampleSetting {} hworks hdistinct
  exact ⟨hok, hclicks, hstates, hagain⟩

end Switch
end ConsentWalker
