import ConsentWalker.Proofs.Walk.Account
import ConsentWalker.Walk.World
/-!
# Walk — where steps look

Steps look for elements below a base that is kept on a stack: a loop puts the element of its round
on top and takes it away again, however the round ends. The account of steps says where each lookup
was resolved, and in which rounds it was made; and nothing is looked for but what is in it
(`Sought.AccountFor`).

**A lookup is resolved inside the element of the innermost round it is made in**, outside of all
rounds where the steps began, and after the steps the stack is as it was (`execute_scoped`).
-/

namespace ConsentWalker

open Steps Traced

/-! ## Bases and rounds -/

namespace Sought

/-- A history of what is done to resolve a lookup from its base. -/
def Genuine (l : Sought) (h : History) : Prop := ∃ t t', (l.question l.base).Course t h t' ()

/-- **Lookups that account for a history**: in nothing but these, one after another, elements are
looked for. -/
inductive AccountFor : List Sought → History → Prop where
  | nil : AccountFor [] []
  | other {m : Moment} {made : List Sought} {h : History} :
      ¬ m.act.Seeks → AccountFor made h → AccountFor made (m :: h)
  | lookup {l : Sought} {made : List Sought} {k h : History} :
      l.Genuine k → AccountFor made h → AccountFor (l :: made) (k ++ h)

variable {made made' : List Sought} {h h' : History}

/-- Where nothing is looked for, nothing is to be accounted for. -/
theorem accountFor_nil (hh : ∀ m ∈ h, ¬ m.act.Seeks) : AccountFor [] h := by
  induction h with
  | nil => exact .nil
  | cons m h ih =>
    obtain ⟨hm, hrest⟩ := List.forall_mem_cons.1 hh
    exact .other hm (ih hrest)

/-- Accounts of what was done one after another are put together. -/
theorem AccountFor.append (hmade : AccountFor made h) (hmade' : AccountFor made' h') :
    AccountFor (made ++ made') (h ++ h') := by
  induction hmade with
  | nil => exact hmade'
  | other hm _ ih => exact .other hm ih
  | lookup hl _ ih =>
    rw [List.append_assoc]
    exact .lookup hl ih

end Sought

namespace Traced

variable {α β : Type}

/-- **Steps that look inside the rounds they are in**, outside of all rounds where they began. Their
account is of everything they look for, and they leave the bases as they were. -/
def Based (outside rounds : List Handle) (x : Traced α) : Prop :=
  ∀ ⦃w t h t' r w' made⦄, w.scope = rounds ++ outside → x.Course w t h t' r w' made →
    w'.scope = w.scope ∧ Sought.AccountFor made h ∧ ∀ l ∈ made, l.base = (l.rounds ++ outside).head?

section

variable {outside rounds : List Handle}

/-- Steps that look for nothing leave the bases as they were, and have nothing to account for. -/
theorem based_swift {x : Steps α} (hx : Ensures Swift x) : Based outside rounds (plain x) := by
  intro w t h t' r w' made _ hc
  obtain ⟨hcourse, rfl⟩ := course_plain.1 hc
  obtain ⟨hscope, hswift⟩ := hx hcourse
  exact ⟨hscope, Sought.accountFor_nil fun m hm => (hswift m hm).not_seeks,
    fun l hl => absurd hl List.not_mem_nil⟩

theorem based_rest (time : Nat) : Based outside rounds (plain (rest time)) := by
  intro w t h t' r w' made _ hc
  obtain ⟨hcourse, rfl⟩ := course_plain.1 hc
  obtain ⟨_, hsleep, -, rfl⟩ := course_lift.1 hcourse
  obtain ⟨k, rfl, hd⟩ := Routine.course_sleep.1 hsleep
  obtain ⟨rfl, -, -⟩ := Routine.course_done.1 hd
  exact ⟨rfl, .other id .nil, fun l hl => absurd hl List.not_mem_nil⟩

theorem based_pure (a : α) : Based outside rounds (pure a : Traced α) := by
  intro w t h t' r w' made _ hc
  obtain ⟨rfl, -, -, rfl, rfl⟩ := course_pure.1 hc
  exact ⟨rfl, .nil, fun l hl => absurd hl List.not_mem_nil⟩

/-- The second steps begin where the first ones have left the bases. -/
theorem Based.bind {x : Traced α} {f : α → Traced β} (hx : Based outside rounds x)
    (hf : ∀ a, Based outside rounds (f a)) : Based outside rounds (x >>= f) := by
  intro w t h t' r w' made hw hc
  rcases course_bind.1 hc with
    ⟨e, hfirst, -⟩ | ⟨a, w₁, t₁, h₁, h₂, made₁, made₂, hfirst, hrest, rfl, rfl⟩
  · exact hx hw hfirst
  · obtain ⟨hw₁, hall₁, hmade₁⟩ := hx hw hfirst
    obtain ⟨hw', hall₂, hmade₂⟩ := hf a (hw₁.trans hw) hrest
    exact ⟨hw'.trans hw₁, hall₁.append hall₂, List.forall_mem_append.2 ⟨hmade₁, hmade₂⟩⟩

/-- What is on top of the bases is the element of the innermost round. -/
theorem based_seekCounting (results : Except PageError α → Option Nat)
    (q : Option Handle → Lookup α) :
    Based outside rounds (seekCounting results rounds q) := by
  intro w t h t' r w' made hw hc
  obtain ⟨hq, rfl, rfl⟩ := course_seekCounting.1 hc
  refine ⟨rfl, ?_, fun l hl => ?_⟩
  · have hgenuine : Sought.Genuine
        ⟨rounds, fun base => (q base).run.bind fun _ => .done (), w'.scope.head?, results r⟩ h :=
      ⟨t, t', Routine.course_bind.2 ⟨r, t', h, [], hq, .refl _ _, (List.append_nil h).symm⟩⟩
    have hall := Sought.AccountFor.lookup hgenuine .nil
    rw [List.append_nil] at hall
    exact hall
  · obtain rfl := List.mem_singleton.1 hl
    rw [hw]

theorem based_seek (q : Option Handle → Lookup α) : Based outside rounds (seek rounds q) :=
  based_seekCounting _ q

/-- A round more, and its element on top of the bases for that time. -/
theorem Based.within {e : Handle} {x : Traced α} (hx : Based outside (e :: rounds) x) :
    Based outside rounds (within e x) := by
  intro w t h t' r w' made hw hc
  obtain ⟨w₁, hcourse, rfl⟩ := course_within.1 hc
  obtain ⟨hw₁, hmade⟩ := hx (by rw [hw]; rfl) hcourse
  refine ⟨?_, hmade⟩
  change w₁.scope.drop (w₁.scope.length - w.scope.length) = w.scope
  rw [hw₁, List.length_cons, Nat.add_sub_cancel_left]
  rfl

/-- The rounds of a loop look below their element, each in its turn. -/
theorem Based.inRounds {x : Handle → Traced Unit} (hx : ∀ e, Based outside (e :: rounds) (x e))
    (es : List Handle) : Based outside rounds (inRounds x es) := by
  induction es with
  | nil => exact based_pure ()
  | cons e rest ih => exact (hx e).within.bind fun _ => ih

end

end Traced

section

variable (s : Setting) {outside : List Handle} (rounds : List Handle)

theorem tracedClick_based (c : Click) : Based outside rounds (tracedClick s rounds c) := by
  refine (based_seek _).bind fun found =>
    (based_swift (swift_press s c found)).bind fun _ => ?_
  split
  · exact based_rest _
  · exact based_pure ()

theorem tracedHide_based (target : Query) : Based outside rounds (tracedHide rounds target) := by
  refine (based_seek _).bind fun found => ?_
  cases found with
  | none => exact based_pure ()
  | some e =>
    exact (based_swift (swift_conceal e)).bind fun _ => based_swift (swift_act rfl)

theorem tracedSlide_based (slide : Slide) : Based outside rounds (tracedSlide s rounds slide) := by
  refine (based_seek _).bind fun found => ?_
  cases found with
  | none => exact based_pure ()
  | some e =>
    refine (based_seek _).bind fun goal => ?_
    cases goal with
    | none => exact based_pure ()
    | some g =>
      have hact : ∀ c : Call, (c.kind == .query) = false → Based outside rounds (plain (act c)) :=
        fun c hc => based_swift (swift_act hc)
      have hrest : Based outside rounds (plain (rest s.pace.slideStep)) := based_rest _
      refine (hact (.rect e) rfl).bind fun origin => (hact (.rect g) rfl).bind fun aim => ?_
      refine (hact (.pointer e .down _) rfl).bind fun _ => hrest.bind fun _ => ?_
      refine (hact (.pointer e .move _) rfl).bind fun _ => hrest.bind fun _ => ?_
      exact hact (.pointer e .up _) rfl

theorem tracedOutline_based (m : Matcher) (wanted : Bool) :
    Based outside rounds (tracedOutline s rounds m wanted) := by
  unfold tracedOutline
  split
  · exact based_seek _
  · exact based_pure ()

/-- Telling first which step is done looks for nothing. -/
theorem based_announced {α : Type} {n : Walker → Notice} {x : Traced α}
    (hx : Based outside rounds x) :
    Based outside rounds (do plain (do tell (n (← get))); x) :=
  (based_swift (swift_announce n)).bind fun _ => hx

/-- Every kind of step looks inside the rounds it is in, if the steps in it do. -/
theorem accounting_based :
    (accounting s).Keeps fun x => ∀ rounds, Based outside rounds (x rounds) where
  nothing _ := based_pure ()
  andThen hx hy rounds := (hx rounds).bind fun _ => hy rounds
  announced _ _ _ hx rounds := based_announced rounds (hx rounds)
  click c rounds := tracedClick_based s rounds c
  ifCss target _ _ _ _ hx hy rounds := by
    refine (based_seek _).bind fun present => ?_
    split
    · exact hx rounds
    · exact hy rounds
  waitCss w _ := (based_seek _).bind fun _ => based_pure ()
  forEach target _ _ hx rounds :=
    (based_seekCounting _ _).bind fun _ => Based.inRounds (fun e => hx (e :: rounds)) _
  hide target rounds := tracedHide_based rounds target
  slide slide rounds := tracedSlide_based s rounds slide
  close _ := based_swift (swift_act rfl)
  wait time _ := based_rest time
  toggle category matcher a ha rounds := by
    refine (based_seek _).bind fun current => (based_swift (swift_tell _)).bind fun _ => ?_
    refine Based.bind ?_ fun _ => tracedOutline_based s rounds matcher _
    split
    · exact ha rounds
    · exact based_pure ()
  branch category _ _ _ _ hx hy rounds := by
    refine (based_swift (swift_tell _)).bind fun _ => ?_
    split
    · exact hx rounds
    · exact hy rounds

/-- **Every step looks inside the rounds it is in**, however steps are nested in one another. -/
theorem traced_based (rounds : List Handle) (a : Action) :
    Based outside rounds (traced s rounds a) :=
  (accounting_based s).action a rounds

end

/-- **Steps leave the bases as they were, and look inside the innermost round.** Whatever the page
answers, whatever others do to it, whichever call fails and however deep in the steps: after the
steps the bases are those before them. With an account the steps are the same. The account is of
everything they look for, and each lookup of theirs is resolved in the element of the innermost
round it is made in, or in the base the steps began with. -/
theorem execute_scoped (s : Setting) (a : Action) (w : Walker) :
    (∀ ⦃t h t' r w'⦄, (execute s a).Course w t h t' r w' → w'.scope = w.scope) ∧
    (traced s [] a w).bind (fun p => .done p.1) = (execute s a).run w ∧
    ∀ ⦃t h t' r w' made⦄, (traced s [] a).Course w t h t' r w' made →
      Sought.AccountFor made h ∧ ∀ l ∈ made, l.base = (l.rounds ++ w.scope).head? :=
  ⟨fun _ _ _ _ _ hc => execute_ensures kept_scope s a hc, traced_erases s [] a w,
    fun _ _ _ _ _ _ hc => (traced_based s [] a rfl hc).2⟩

/-- A page with two groups of switches, each switch in a row. -/
def switchboard : Page :=
  let tag (name : String) (children : List Tree) : Tree :=
    .node (.element { name, attributes := [] }) children
  let row := tag "p" [tag "input" []]
  .ofTree (.node .document [tag "div" [row, row], tag "div" [row]]) false

/-- Clicks the switch of every row, and hides the first row of every group after that. -/
def switchAll : Action :=
  .forEach (.new "div") (.list [.forEach (.new "p") (.clickOn (.new "input")), .hide (.new "p")])

/-- The last click fails: two rounds end at once, and the walker is where it began. -/
example :
    let after := (World.alone (traced {} [] switchAll {})
      { page := switchboard, faults := ⟨[⟨.click, 3, .script "gone"⟩], []⟩ }).1
    after.1.2 = ⟨[], [⟨2⟩]⟩ ∧
      after.2.map (fun l => (l.rounds.map Handle.id, l.base.map Handle.id)) =
      [([], none), ([0], some 0), ([2, 0], some 2), ([3, 0], some 3), ([0], some 0), ([1], some 1),
        ([6, 1], some 6)] := by
  decide +kernel

end ConsentWalker
