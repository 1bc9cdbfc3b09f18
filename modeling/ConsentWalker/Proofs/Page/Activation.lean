import ConsentWalker.Proofs.Page.Switching
/-!
# Page — what a click reaches, and what it switches

A click reaches one element at most (`Page.Reaches`): the one it is at if that is a control, or what
the nearest label is for. A label with a `for` is for the first element with that `id` alone,
whether there is one and whether it is a control; any other label is for the first control inside
it.

A checkbox that is reached is switched. A radio button that is reached ends checked, and the others
of its group unchecked. No other element is switched, whatever was clicked
(`Reached.click_switches`).
-/

namespace ConsentWalker

/-! ## Controls and labels -/

namespace Place

/-- An attribute of the element at a place. -/
def value? (q : Place) (name : String) : Option String := q.element?.bind (·.attribute? name)

/-- A place that holds a radio button. -/
def IsRadio (q : Place) : Prop := q.element?.bind Element.inputKind? = some "radio"

/-- A place that holds a checkbox or a radio button. -/
def IsControl (q : Place) : Prop := q.IsCheckbox ∨ q.IsRadio

/-- A place that holds a label. -/
def IsLabel (q : Place) : Prop := q.element?.map Element.name = some "label"

/-- Radio buttons of one group: they share a name, and a button without a name is in none. -/
def SameGroup (c r : Place) : Prop :=
  c.IsRadio ∧ r.IsRadio ∧ ∃ name, c.value? "name" = some name ∧ r.value? "name" = some name

/-- **The first of some places** with a property. -/
def First (P : Place → Prop) (qs : List Place) (q : Place) : Prop :=
  P q ∧ ∃ before after, qs = before ++ q :: after ∧ ∀ r ∈ before, ¬ P r

/-- The label nearest to a place, which may be the place itself. -/
def Nearest (l q : Place) : Prop := First IsLabel (q :: q.ancestors) l

variable {q : Place}

/-- No place is of both kinds. -/
theorem IsRadio.not_checkbox (h : q.IsRadio) : ¬ q.IsCheckbox := by
  intro hbox
  have hsame := hbox.symm.trans h
  simp at hsame

theorem holdsControl_iff : Page.holdsControl q = true ↔ q.IsControl := by
  unfold Page.holdsControl IsControl IsCheckbox IsRadio Element.isControl
  cases q.element? <;> simp

/-- A label as it is looked for. -/
theorem isLabel_iff (r : Place) :
    (r.element?.any fun e => e.name == "label") = true ↔ r.IsLabel := by
  unfold IsLabel
  cases r.element? <;> simp

/-- An attribute as it is looked for. -/
theorem value_iff (name target : String) (r : Place) :
    (r.element?.any fun e => e.attribute? name == some target) = true ↔
      r.value? name = some target := by
  unfold value?
  cases r.element? <;> simp

/-- A search for the first of some places finds the first. -/
theorem first_iff {P : Place → Prop} {f : Place → Bool} (hf : ∀ r, f r = true ↔ P r)
    {qs : List Place} :
    qs.find? f = some q ↔ First P qs q := by
  rw [List.find?_eq_some_iff_append, hf]
  simp only [First, Bool.not_eq_true', Bool.eq_false_iff, ne_eq, hf]

theorem First.mem {P : Place → Prop} {qs : List Place} (h : First P qs q) : q ∈ qs := by
  obtain ⟨-, before, after, rfl, -⟩ := h
  simp

mutual

/-- What stands above a place of a tree stands in the tree, or above all of it. -/
theorem mem_allAt_of_ancestor {a x : Place} (above : List Level) (left right : List Node) :
    (n : Node) → x ∈ allAt above left right n → a ∈ x.ancestors →
      a ∈ allAt above left right n ∨ a ∈ ofLevels above
  | .mk id c cs, hx, ha => by
    rw [allAt] at hx ⊢
    rcases List.mem_cons.1 hx with rfl | hx
    · exact .inr ha
    · rcases mem_allAmong_of_ancestor _ [] cs hx ha with hbelow | habove
      · exact .inl (List.mem_cons_of_mem _ hbelow)
      · rw [ofLevels] at habove
        rcases List.mem_cons.1 habove with rfl | habove
        · exact .inl List.mem_cons_self
        · exact .inr habove

theorem mem_allAmong_of_ancestor {a x : Place} (above : List Level) (left : List Node) :
    (ns : List Node) → x ∈ allAmong above left ns → a ∈ x.ancestors →
      a ∈ allAmong above left ns ∨ a ∈ ofLevels above
  | [], hx, _ => by cases hx
  | n :: rest, hx, ha => by
    rw [allAmong] at hx ⊢
    rcases List.mem_append.1 hx with hx | hx
    · exact (mem_allAt_of_ancestor above left rest n hx ha).imp_left (List.mem_append_left _)
    · exact (mem_allAmong_of_ancestor above (n :: left) rest hx ha).imp_left
        (List.mem_append_right _)

end

/-- **What stands between a place and one below it** is the upper one, or below it, or above
both. -/
theorem mem_below_of_ancestor {a p x : Place} (hx : x ∈ p.below) (ha : a ∈ x.ancestors) :
    a ∈ p.below ∨ a = p ∨ a ∈ p.ancestors := by
  rcases mem_allAmong_of_ancestor (p.level :: p.above) [] _ hx ha with hbelow | habove
  · exact .inl hbelow
  · rw [ofLevels] at habove
    exact .inr (List.mem_cons.1 habove)

/-- A label is no control. -/
theorem IsLabel.not_control (h : q.IsLabel) : ¬ q.IsControl := by
  obtain ⟨e, he, hname⟩ := Option.map_eq_some_iff.1 h
  have hkind : e.inputKind? = none := by
    unfold Element.inputKind?
    rw [hname]
    rfl
  unfold IsControl IsCheckbox IsRadio
  rw [he, Option.bind_some, hkind]
  simp

end Place

namespace Page

open Place

variable {p p' p₁ p₂ : Page} {h k : Handle} {q c l : Place} {openInTab : Bool}

/-- **What a label is for**: the first element with the `id` it names, if it names one, and
otherwise the first control below it. -/
inductive Labels (p : Page) (l c : Place) : Prop where
  | named {target : String} : l.value? "for" = some target →
      First (fun r => r.value? "id" = some target) p.places c → Labels p l c
  | nested : l.value? "for" = none → First IsControl l.below c → Labels p l c

/-- **What a click at a place reaches**: itself if it is a control, else what the nearest label is
for. -/
inductive Reaches (p : Page) (q : Place) : Place → Prop where
  | self : q.IsControl → Reaches p q q
  | label {l c : Place} : ¬ q.IsControl → Nearest l q → p.Labels l c → Reaches p q c

/-- Looking inside a label, the label itself is no control. -/
theorem find?_withBelow (hl : l.IsLabel) :
    l.withBelow.find? holdsControl = l.below.find? holdsControl := by
  have hself : holdsControl l = false := by
    rw [Bool.eq_false_iff, ne_eq, holdsControl_iff]
    exact hl.not_control
  rw [withBelow, List.find?_cons_of_neg (by rw [hself]; exact Bool.false_ne_true)]

/-- A label that names what it is for is for nothing else. -/
theorem labels_named_iff {target : String} (hfor : l.value? "for" = some target) :
    p.Labels l c ↔ First (fun r => r.value? "id" = some target) p.places c := by
  refine ⟨fun hc => ?_, .named hfor⟩
  cases hc with
  | named hfor' hc =>
    obtain rfl := Option.some.inj (hfor.symm.trans hfor')
    exact hc
  | nested hfor' => cases hfor.symm.trans hfor'

/-- A label that names nothing is for the first control inside. -/
theorem labels_nested_iff (hfor : l.value? "for" = none) :
    p.Labels l c ↔ First IsControl l.below c := by
  refine ⟨fun hc => ?_, .nested hfor⟩
  cases hc with
  | named hfor' => cases hfor.symm.trans hfor'
  | nested _ hc => exact hc

/-- What is reached where no control stands is what the nearest label is for. -/
theorem reaches_iff_of_nearest (hself : ¬ q.IsControl) (hl : Nearest l q) :
    p.Reaches q c ↔ p.Labels l c := by
  refine ⟨fun hreach => ?_, .label hself hl⟩
  cases hreach with
  | self hc => exact absurd hc hself
  | @label l' _ _ hl' h =>
    have hsame := ((first_iff isLabel_iff).2 hl').symm.trans ((first_iff isLabel_iff).2 hl)
    obtain rfl : l' = l := Option.some.inj hsame
    exact h

/-- **The control that is looked up is the one that is reached.** -/
theorem controlOf?_iff : p.controlOf? q = some c ↔ p.Reaches q c := by
  by_cases hself : q.IsControl
  · have hfound : p.controlOf? q = some q := by
      unfold controlOf?
      rw [if_pos (holdsControl_iff.2 hself)]
    rw [hfound]
    constructor
    · rintro ⟨⟩
      exact .self hself
    · intro hreach
      cases hreach with
      | self => rfl
      | label hno => exact absurd hself hno
  · unfold controlOf?
    rw [if_neg (by rwa [holdsControl_iff])]
    dsimp only
    cases hnearest :
      (q :: q.ancestors).find? fun r => r.element?.any fun e => e.name == "label" with
    | none =>
      refine ⟨fun hfound => (by cases hfound), fun hreach => ?_⟩
      cases hreach with
      | self hc => exact absurd hc hself
      | label _ hl => rw [(first_iff isLabel_iff).2 hl] at hnearest; cases hnearest
    | some l =>
      have hl : Nearest l q := (first_iff isLabel_iff).1 hnearest
      rw [reaches_iff_of_nearest hself hl]
      -- the label decides by its `for` alone
      have hvalue : l.element?.bind (·.attribute? "for") = l.value? "for" := rfl
      dsimp only
      rw [hvalue]
      cases hfor : l.value? "for" with
      | some target => rw [labels_named_iff hfor, first_iff (value_iff "id" target)]
      | none =>
        rw [labels_nested_iff hfor, find?_withBelow hl.1, first_iff fun r => holdsControl_iff]

/-- **What is reached depends on the tree alone.** -/
theorem Keeps.reaches_iff (hk : p.Keeps p') : p'.Reaches q c ↔ p.Reaches q c := by
  rw [← controlOf?_iff, ← controlOf?_iff, hk.controlOf?_eq]

/-- What a click at an element of the page reaches is an element of the page. -/
theorem Reaches.mem (hc : p.Reaches q c) (hq : q ∈ p.places) : c ∈ p.places := by
  cases hc with
  | self => exact hq
  | @label l _ hno hl hc =>
    cases hc with
    | named _ hc => exact hc.mem
    | nested hfor hc =>
      -- the label stands in the page or is its root, and either way what is below it stands in the
      -- page
      have hinside : l.below <:+: p.places := by
        rcases List.mem_cons.1 hl.mem with rfl | habove
        · exact below_infix hq
        · rcases mem_below_of_ancestor hq habove with hbelow | rfl | hnone
          · exact below_infix hbelow
          · exact List.infix_rfl
          · cases hnone
      exact hinside.subset hc.mem

/-! ## What is switched -/

/-- The same checked states on two pages. -/
def SameChecks (p p' : Page) : Prop := ∀ r ∈ p.places, p'.isCheckedAt r = p.isCheckedAt r

/-- **The checked states after an element was reached**: a checkbox is switched; a radio button is
checked, and the others of its group are not. Nothing else is switched. -/
structure Switches (p p' : Page) (c : Place) : Prop where
  box : c.IsCheckbox → p'.isCheckedAt c = ! p.isCheckedAt c
  radio : c.IsRadio → p'.isCheckedAt c = true
  group : ∀ r ∈ p.places, r ≠ c → c.SameGroup r → p'.isCheckedAt r = false
  others : ∀ r ∈ p.places, r ≠ c → ¬ c.SameGroup r → p'.isCheckedAt r = p.isCheckedAt r
  idle : ¬ c.IsControl → p.SameChecks p'

/-- A state that was written for all of some nodes. -/
theorem isCheckedAt_map_append (p : Page) (ids : List Nat) (b : Bool) (switched : List (Nat × Bool))
    (r : Place) :
    ({ p with switched := (ids.map fun i => (i, b)) ++ switched } : Page).isCheckedAt r =
      if r.id ∈ ids then b else ({ p with switched } : Page).isCheckedAt r := by
  induction ids with
  | nil => rw [if_neg List.not_mem_nil]; rfl
  | cons i ids ih =>
    rw [List.map_cons, List.cons_append, isCheckedAt_cons, ih]
    by_cases hid : r.id = i
    · rw [if_pos hid, if_pos (List.mem_cons.2 (.inl hid))]
    · rw [if_neg hid]
      simp only [List.mem_cons, hid, false_or]

/-- The group of a name: the radio buttons of the page that have it. -/
theorem Sound.mem_radioGroup (hp : p.Sound) {r : Place} (hr : r ∈ p.places) {name : String} :
    r.id ∈ p.radioGroup name ↔ r.IsRadio ∧ r.value? "name" = some name := by
  unfold radioGroup IsRadio value?
  rw [List.mem_map]
  constructor
  · rintro ⟨s, hs, hid⟩
    obtain ⟨hs, hmember⟩ := List.mem_filter.1 hs
    obtain rfl : s = r := hp.eq_of_id hs hr hid
    cases he : s.element? <;> simp_all
  · rintro ⟨hkind, hname⟩
    refine ⟨r, List.mem_filter.2 ⟨hr, ?_⟩, rfl⟩
    cases he : r.element? <;> simp_all

/-- Reaching a radio button checks it, and clears the others of its group. -/
theorem Sound.activate_radio (hp : p.Sound) (hc : c.IsRadio) : ∃ group : List Nat,
    p.activate c =
      { p with switched := (c.id, true) :: ((group.map fun i => (i, false)) ++ p.switched) } ∧
    ∀ r ∈ p.places, r.id ∈ group ↔ c.SameGroup r := by
  obtain ⟨e, he, hkind⟩ := Option.bind_eq_some_iff.1 hc
  have hvalue : c.value? "name" = e.attribute? "name" := by
    unfold value?
    rw [he, Option.bind_some]
  unfold activate
  rw [he]
  dsimp only
  rw [hkind]
  refine ⟨_, rfl, fun r hr => ?_⟩
  unfold SameGroup
  rw [hvalue]
  cases e.attribute? "name" with
  | none => simp
  | some name => simp [hp.mem_radioGroup hr, hc]

/-- Reaching what is no control writes nothing. -/
theorem activate_other (hc : ¬ c.IsControl) : p.activate c = p := by
  rw [IsControl, not_or, IsCheckbox, IsRadio] at hc
  unfold activate
  cases he : c.element? with
  | none => rfl
  | some e =>
    rw [he, Option.bind_some] at hc
    dsimp only
    split
    · next hkind => exact absurd hkind hc.1
    · next hkind => exact absurd hkind hc.2
    · rfl

/-- **Reaching an element switches as said.** -/
theorem Sound.activate_switches (hp : p.Sound) (hc : c ∈ p.places) :
    p.Switches (p.activate c) c := by
  have apart : ∀ r ∈ p.places, r ≠ c → r.id ≠ c.id :=
    fun r hr hne hid => hne (hp.eq_of_id hr hc hid)
  by_cases hbox : c.IsCheckbox
  · have hnot : ∀ r, ¬ c.SameGroup r := fun r hgroup => hgroup.1.not_checkbox hbox
    refine ⟨fun _ => ?_, fun hradio => absurd hbox hradio.not_checkbox,
      fun r _ _ hgroup => absurd hgroup (hnot r), fun r hr hne _ => ?_,
      fun hidle => absurd (.inl hbox) hidle⟩
    · rw [activate_box hbox, isCheckedAt_cons, if_pos rfl]
    · rw [activate_box hbox, isCheckedAt_cons, if_neg (apart r hr hne)]
  · by_cases hradio : c.IsRadio
    · obtain ⟨group, heq, hgroup⟩ := hp.activate_radio hradio
      refine ⟨fun h => absurd h hbox, fun _ => ?_, fun r hr hne hsame => ?_,
        fun r hr hne hother => ?_, fun hidle => absurd (.inr hradio) hidle⟩
      · rw [heq, isCheckedAt_cons, if_pos rfl]
      · rw [heq, isCheckedAt_cons, if_neg (apart r hr hne), isCheckedAt_map_append,
          if_pos ((hgroup r hr).2 hsame)]
      · rw [heq, isCheckedAt_cons, if_neg (apart r hr hne), isCheckedAt_map_append,
          if_neg fun h => hother ((hgroup r hr).1 h)]
    · have hidle : ¬ c.IsControl := by
        rintro (h | h)
        · exact hbox h
        · exact hradio h
      rw [activate_other hidle]
      exact ⟨fun h => absurd h hbox, fun h => absurd h hradio,
        fun r _ _ hgroup => absurd hgroup.1 hradio, fun r _ _ _ => rfl, fun _ r _ => rfl⟩

/-- **The checked states after a click** are those after what it reached was reached. -/
theorem isCheckedAt_clickedAt (hc : p.Reaches q c) (h : Handle) (openInTab : Bool) (r : Place) :
    (clickedAt h openInTab q p).isCheckedAt r = (p.activate c).isCheckedAt r := by
  unfold clickedAt
  rw [controlOf?_iff.2 hc]
  rfl

/-- Where nothing is reached they stay as they are. -/
theorem isCheckedAt_clickedAt_of_none (hc : ∀ c, ¬ p.Reaches q c) (h : Handle) (openInTab : Bool)
    (r : Place) : (clickedAt h openInTab q p).isCheckedAt r = p.isCheckedAt r := by
  have hnone : p.controlOf? q = none :=
    Option.eq_none_iff_forall_ne_some.2 fun c hcontrol => hc c (controlOf?_iff.1 hcontrol)
  unfold clickedAt
  rw [hnone]
  rfl

/-- A click at an element of an open page succeeds. -/
theorem perform_click (hopen : p.closed = false) (hq : p.place? h = some q) :
    p.perform (.click h openInTab) = (.ok (), clickedAt h openInTab q p) :=
  acts_run hopen hq (clickedAt h openInTab)

/-- **A click switches what it reaches as said.** -/
theorem Sound.clickedAt_switches (hp : p.Sound) (hq : p.place? h = some q) (hc : p.Reaches q c)
    (openInTab : Bool) : c ∈ p.places ∧ p.Switches (clickedAt h openInTab q p) c := by
  have hmem := hc.mem (place?_eq_some hq).1
  obtain ⟨hbox, hradio, hgroup, hothers, hidle⟩ := hp.activate_switches hmem
  unfold SameChecks at hidle
  simp only [← isCheckedAt_clickedAt hc h openInTab] at hbox hradio hgroup hothers hidle
  exact ⟨hmem, hbox, hradio, hgroup, hothers, hidle⟩

/-- Switching a checkbox twice leaves everything as it was. -/
theorem Switches.twice (h₁ : p.Switches p₁ c) (h₂ : p₁.Switches p₂ c) (hk : p.Keeps p₁)
    (hbox : c.IsCheckbox) : p.SameChecks p₂ := by
  intro r hr
  have hr₁ : r ∈ p₁.places := by rwa [hk.places_eq]
  have hnot : ¬ c.SameGroup r := fun hgroup => hgroup.1.not_checkbox hbox
  by_cases hrc : r = c
  · rw [hrc, h₂.box hbox, h₁.box hbox, Bool.not_not]
  · rw [h₂.others r hr₁ hrc hnot, h₁.others r hr hrc hnot]

/-- **What a click switches.** On an open page that can come to be, a click at an element succeeds;
it switches what it reaches as said, and nothing if it reaches nothing. A click at any part of a
label but a control comes to the same as one at the control that the label is for, and two clicks
that reach a checkbox cancel out. -/
theorem Reached.click_switches (hp : p.Reached) (hopen : p.closed = false) :
    (∀ h q openInTab, p.place? h = some q → ∃ p', p.perform (.click h openInTab) = (.ok (), p') ∧
      (∀ c, p.Reaches q c → c ∈ p.places ∧ p.Switches p' c) ∧
      ((∀ c, ¬ p.Reaches q c) → p.SameChecks p')) ∧
    (∀ h k q l c b b', p.place? h = some q → Nearest l q → ¬ q.IsControl → p.Labels l c →
      c.IsControl → p.place? k = some c →
      (p.perform (.click h b)).2.SameChecks (p.perform (.click k b')).2) ∧
    (∀ h q c b b', p.place? h = some q → p.Reaches q c → c.IsCheckbox →
      p.SameChecks ((p.perform (.click h b)).2.perform (.click h b')).2) := by
  refine ⟨
    fun h q b hq => ⟨_, perform_click hopen hq,
      fun c hc => hp.sound.clickedAt_switches hq hc b,
      fun hc r _ => isCheckedAt_clickedAt_of_none hc h b r⟩,
    fun h k q l c b b' hq hl hno hlabels hcontrol hk r _ => ?_,
    fun h q c b b' hq hc hbox => ?_⟩
  · rw [perform_click hopen hq, perform_click hopen hk,
      isCheckedAt_clickedAt (.label hno hl hlabels) h b r,
      isCheckedAt_clickedAt (.self hcontrol) k b' r]
  · have hsame := clickedAt_sameTree h b q p
    have hopen' : (clickedAt h b q p).closed = false := by
      obtain ⟨switched, heq⟩ := clickedAt_eq h b q p
      rw [heq]
      exact hopen
    -- the second click finds the page open, and reaches the same
    have hq' := hsame.keeps.place? hq
    have hc' := hsame.keeps.reaches_iff.2 hc
    rw [perform_click hopen hq, perform_click hopen' hq']
    exact (hp.sound.clickedAt_switches hq hc b).2.twice
      ((hsame.sound hp.sound).clickedAt_switches hq' hc' b').2 hsame.keeps hbox

/-- A page on which one label is for a checkbox inside it and another names a radio button. -/
def formPage : Page :=
  let text (s : String) : Tree := .node (.element { name := "b", attributes := [("id", s)] }) []
  let input (attributes : List (String × String)) : Tree :=
    .node (.element { name := "input", attributes }) []
  let page := ofTree (.node .document [.node (.element { name := "form" }) [
    .node (.element { name := "label" }) [text "all", input [("type", "checkbox")]],
    .node (.element { name := "label", attributes := [("for", "no")] })
      [text "none", input [("type", "checkbox")]],
    input [("type", "radio"), ("name", "ads"), ("id", "yes"), ("checked", "")],
    input [("type", "Radio"), ("name", "ads"), ("id", "no")]]]) false
  (page.perform (.query none "b, input")).2

theorem reached_formPage : formPage.Reached := .step (.ofTree _ _) (.perform _)

/-- A click inside a label switches the checkbox in it, one more on the checkbox switches it back,
and a click inside the other label takes the mark from one radio button to the other. -/
theorem form_click_switches :
    (∃ p' q c, formPage.perform (.click ⟨0⟩ false) = (.ok (), p') ∧ formPage.place? ⟨0⟩ = some q ∧
      formPage.Reaches q c ∧ formPage.Switches p' c ∧
      p'.SameChecks (formPage.perform (.click ⟨1⟩ true)).2) ∧
    formPage.SameChecks ((formPage.perform (.click ⟨1⟩ false)).2.perform (.click ⟨1⟩ false)).2 ∧
    ((formPage.perform (.click ⟨2⟩ false)).2.places.filter holdsControl).map
      (formPage.perform (.click ⟨2⟩ false)).2.isCheckedAt = [false, false, false, true] := by
  obtain ⟨hclick, hlabel, htwice⟩ := reached_formPage.click_switches (by decide +kernel)
  obtain ⟨q, hq, hpart⟩ : ∃ q, formPage.place? ⟨0⟩ = some q ∧ holdsControl q = false := by
    have hsome : (formPage.place? ⟨0⟩).map holdsControl = some false := by decide +kernel
    exact Option.map_eq_some_iff.1 hsome
  obtain ⟨k, hk, hbox⟩ : ∃ k, formPage.place? ⟨1⟩ = some k ∧ k.IsCheckbox := by
    have hsome : ((formPage.place? ⟨1⟩).bind fun k => k.element?.bind Element.inputKind?) =
        some "checkbox" := by decide +kernel
    exact Option.bind_eq_some_iff.1 hsome
  have hno : ¬ q.IsControl := by
    rw [← holdsControl_iff, hpart]
    exact Bool.false_ne_true
  -- what the label is for is the checkbox with the other handle
  obtain ⟨c, hc, hid⟩ : ∃ c, formPage.controlOf? q = some c ∧ c.id = k.id := by
    have hsame : (((formPage.place? ⟨0⟩).bind formPage.controlOf?).map Place.id) =
        (formPage.place? ⟨1⟩).map Place.id := by decide +kernel
    rw [hq, hk] at hsame
    exact Option.map_eq_some_iff.1 hsame
  obtain ⟨p', hp', hswitches, -⟩ := hclick ⟨0⟩ q false hq
  have hreach := controlOf?_iff.1 hc
  obtain rfl : c = k :=
    reached_formPage.sound.eq_of_id (hswitches c hreach).1 (place?_eq_some hk).1 hid
  refine ⟨⟨p', q, c, hp', hq, hreach, (hswitches c hreach).2, ?_⟩, htwice ⟨1⟩ c c false false hk
    (.self (.inl hbox)) hbox, by decide +kernel⟩
  cases hreach with
  | self h => exact absurd h hno
  | label _ hl hlabels =>
    have hsame := hlabel ⟨0⟩ ⟨1⟩ q _ c false true hq hl hno hlabels (.inl hbox) hk
    rwa [hp'] at hsame

end Page
end ConsentWalker
