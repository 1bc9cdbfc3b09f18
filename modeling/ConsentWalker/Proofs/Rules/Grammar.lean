import ConsentWalker.Proofs.Json.Fitting
import ConsentWalker.Rules.Reader
/-!
# Rules — the grammar of steps and consents

`IsAction`, `IsConsent` and `IsMatcher` say which values are rules, node by node and without a
reader: what has to stand under which name, what may be left out or `null`, and that whatever is
nested is itself a rule. `Rules.accepted` shows that the readers accept exactly these values, at any
depth, and that a step is read as one of the kind its tag names.
-/

namespace ConsentWalker

open Json

namespace Rules

/-! ## The grammar -/

/-- The largest number of 64 bits. -/
def longLimit : Nat := 18446744073709551615

/-- The largest number of 32 bits. -/
def shortLimit : Nat := 4294967295

/-- A node whose `type` is a tag. -/
def Tagged (tag : String) (node : Json) : Prop := node.get? "type" = some (.string tag)

/-- A value that reads as a query. -/
def IsQuery (v : Json) : Prop := ∃ q, Query.read v = .ok q

/-- **A node with a target**: a query, and beside it one for its parent unless it has one of its own
or none is given. -/
def HasTarget (node : Json) : Prop :=
  ∃ raw q, node.get? "target" = some raw ∧ Query.read raw = .ok q ∧
    (q.parent = none → ∀ p, node.present? "parent" = some p → IsQuery p)

/-- **A question.** -/
inductive IsMatcher (node : Json) : Prop where
  | css : Tagged "css" node → HasTarget node → IsMatcher node
  | checkbox : Tagged "checkbox" node → HasTarget node → IsMatcher node

mutual

/-- **A step**, by its tag. -/
inductive IsAction : Json → Prop where
  | click {node : Json} : Tagged "click" node → HasTarget node →
      Under "openInTab" IsBool node → Under "timeout" (NullOr (IsNatural longLimit)) node →
      IsAction node
  | list {node : Json} {items : List Json} : Tagged "list" node →
      node.get? "actions" = some (.array items) → (∀ v ∈ items, IsAction v) → IsAction node
  | consent {node : Json} {items : List Json} : Tagged "consent" node →
      node.get? "consents" = some (.array items) → (∀ v ∈ items, IsConsent v) → IsAction node
  | ifCss {node : Json} : Tagged "ifcss" node → HasTarget node →
      (∀ v, node.present? "trueAction" = some v → IsAction v) →
      (∀ v, node.present? "falseAction" = some v → IsAction v) → IsAction node
  | waitCss {node : Json} : Tagged "waitcss" node → HasTarget node →
      Under "negated" IsBool node → Under "retries" (NullOr (IsNatural shortLimit)) node →
      Under "waitTime" (NullOr (IsNatural longLimit)) node → IsAction node
  | forEach {node body : Json} : Tagged "foreach" node → HasTarget node →
      node.present? "action" = some body → IsAction body → IsAction node
  | hide {node : Json} : Tagged "hide" node → HasTarget node → IsAction node
  | slide {node drag : Json} : Tagged "slide" node → HasTarget node →
      node.get? "dragTarget" = some drag → IsQuery drag → IsAction node
  | close {node : Json} : Tagged "close" node → IsAction node
  | wait {node : Json} : Tagged "wait" node →
      Under "waitTime" (NullOr (IsNatural longLimit)) node → IsAction node

/-- **A consent**: for a purpose, with a question and what toggles it, or with a branch for one of
the two answers at least. -/
inductive IsConsent : Json → Prop where
  | mk {node : Json} (c : Category) : Tagged c.code node →
      (∀ v, node.present? "matcher" = some v → IsMatcher v) →
      (∀ v, node.present? "toggleAction" = some v → IsAction v) →
      (∀ v, node.present? "trueAction" = some v → IsAction v) →
      (∀ v, node.present? "falseAction" = some v → IsAction v) →
      ((node.present? "matcher").isSome ∧ (node.present? "toggleAction").isSome ∨
        (node.present? "trueAction").isSome ∨ (node.present? "falseAction").isSome) →
      IsConsent node

end

/-! ## Single nodes -/

section Nodes

variable {node : Json} {kind tag : String}

/-- The type of a record is read if and only if it has a tag, and is that tag. -/
theorem typeOf_eq_ok : typeOf kind node = .ok tag ↔ Tagged tag node := by
  unfold typeOf Tagged
  cases hget : node.get? "type" with
  | none => simp
  | some v => cases v <;> simp [Json.string?]

/-- What has a tag is an object. -/
theorem Tagged.object (h : Tagged tag node) : ∃ members, node = .object members := by
  unfold Tagged at h
  cases node with
  | object members => exact ⟨members, rfl⟩
  | _ => cases h

/-- A reader whose errors are put as misfits reads the same values. -/
theorem succeeds_shaped {α : Type} {read : Json.Reader α} {v : Json} :
    Succeeds (shaped kind read v) ↔ Succeeds (read v) := by
  unfold shaped
  cases read v with
  | ok a => exact ⟨fun _ => succeeds_ok a, fun _ => succeeds_ok a⟩
  | error e =>
    exact ⟨fun h => absurd h (not_succeeds_error _), fun h => absurd h (not_succeeds_error _)⟩

theorem shaped_eq_ok {α : Type} {read : Json.Reader α} {v : Json} {a : α} :
    shaped kind read v = .ok a ↔ read v = .ok a := by
  unfold shaped
  cases read v <;> simp

/-- A target with the parent that stands beside it, if it has none of its own. -/
def withParent (kind : String) (node : Json) (q : Query) : Except RuleError Query :=
  match q.parent, node.present? "parent" with
  | none, some raw => do
    let parent ← shaped kind Query.read raw
    return { q with parent := some parent }
  | _, _ => return q

/-- **A target is read if the grammar has it**, with the parent beside it where it needs one. -/
theorem succeeds_targetOf : Succeeds (targetOf kind node) ↔ HasTarget node := by
  unfold targetOf HasTarget
  cases hget : node.get? "target" with
  | none =>
    refine ⟨fun h => absurd h (not_succeeds_error _), ?_⟩
    rintro ⟨raw, q, hraw, -⟩
    cases hraw
  | some raw =>
    dsimp only
    rw [succeeds_bind]
    -- what follows a target that was read succeeds if its parent does
    have hparent : ∀ q : Query, Succeeds (withParent kind node q) ↔
        (q.parent = none → ∀ p, node.present? "parent" = some p → IsQuery p) := by
      intro q
      unfold withParent
      cases hq : q.parent with
      | some p => simp [Succeeds, pure, Except.pure]
      | none =>
        cases hp : node.present? "parent" with
        | none => simp [Succeeds, pure, Except.pure]
        | some p =>
          dsimp only
          rw [succeeds_bind_of fun _ => succeeds_pure _, succeeds_shaped]
          simp [Succeeds, IsQuery]
    constructor
    · rintro ⟨q, hq, h⟩
      exact ⟨raw, q, rfl, shaped_eq_ok.1 hq, (hparent q).1 h⟩
    · rintro ⟨raw', q, hraw, hq, h⟩
      cases hraw
      exact ⟨q, shaped_eq_ok.2 hq, (hparent q).2 h⟩

/-! ### Plain fields by their names -/

/-- The kinds of the plain fields of steps. -/
def kindOf (name : String) : Json → Prop :=
  if name = "openInTab" ∨ name = "negated" then IsBool
  else if name = "retries" then NullOr (IsNatural shortLimit)
  else NullOr (IsNatural longLimit)

/-- A truth value in a record. -/
theorem succeeds_setBool {ρ : Type} {v : Json} {set : Bool → ρ} :
    Succeeds (do return set (← Json.readBool v) : Except Json.Misfit ρ) ↔ IsBool v :=
  (succeeds_bind_of fun _ => succeeds_pure _).trans succeeds_readBool

/-- A number in a record, which may be `null`. -/
theorem succeeds_setNatural {ρ : Type} {type : String} {limit : Nat} {v : Json}
    {set : Option Nat → ρ} :
    Succeeds (do return set (← Json.readOptional (Json.readNatural type limit) v) :
      Except Json.Misfit ρ) ↔ NullOr (IsNatural limit) v :=
  (succeeds_bind_of fun _ => succeeds_pure _).trans
    (succeeds_readOptional fun _ => succeeds_readNatural)

/-- The fields of a click are read if each is absent or of its kind. -/
theorem succeeds_clickFields (h : Tagged tag node) :
    Succeeds (ClickFields.read node) ↔
      Under "openInTab" IsBool node ∧ Under "timeout" (NullOr (IsNatural longLimit)) node := by
  obtain ⟨members, hnode⟩ := h.object
  unfold ClickFields.read
  rw [succeeds_readRecord (K := kindOf) ?_ (by simp) hnode]
  · simp [kindOf]
  · intro f hf v r
    simp only [List.mem_cons, List.not_mem_nil, or_false] at hf
    rcases hf with rfl | rfl
    · exact succeeds_setBool
    · exact succeeds_setNatural

/-- The fields of a wait for an element are read if each is absent or of its kind. -/
theorem succeeds_waitFields (h : Tagged tag node) :
    Succeeds (WaitFields.read node) ↔
      Under "negated" IsBool node ∧ Under "retries" (NullOr (IsNatural shortLimit)) node ∧
        Under "waitTime" (NullOr (IsNatural longLimit)) node := by
  obtain ⟨members, hnode⟩ := h.object
  unfold WaitFields.read
  rw [succeeds_readRecord (K := kindOf) ?_ (by simp) hnode]
  · simp [kindOf]
  · intro f hf v r
    simp only [List.mem_cons, List.not_mem_nil, or_false] at hf
    rcases hf with rfl | rfl | rfl
    · exact succeeds_setBool
    · exact succeeds_setNatural
    · exact succeeds_setNatural

theorem succeeds_waitTime (h : Tagged tag node) :
    Succeeds (readWaitTime node) ↔ Under "waitTime" (NullOr (IsNatural longLimit)) node := by
  obtain ⟨members, hnode⟩ := h.object
  unfold readWaitTime
  rw [succeeds_readRecord (K := kindOf) ?_ (by simp) hnode]
  · simp [kindOf]
  · intro f hf v r
    simp only [List.mem_cons, List.not_mem_nil, or_false] at hf
    subst hf
    exact succeeds_readOptional fun _ => succeeds_readNatural

/-- **A question is read if the grammar has it.** -/
theorem matcher_accepted : Succeeds (Matcher.read node) ↔ IsMatcher node := by
  unfold Matcher.read
  rw [succeeds_bind]
  constructor
  · rintro ⟨tag, htag, h⟩
    have htagged := typeOf_eq_ok.1 htag
    by_cases hcss : tag = "css"
    · rw [if_pos hcss, succeeds_bind_of fun _ => succeeds_pure _] at h
      exact .css (hcss ▸ htagged) (succeeds_targetOf.1 h)
    · rw [if_neg hcss] at h
      by_cases hbox : tag = "checkbox"
      · rw [if_pos hbox, succeeds_bind_of fun _ => succeeds_pure _] at h
        exact .checkbox (hbox ▸ htagged) (succeeds_targetOf.1 h)
      · rw [if_neg hbox] at h
        exact absurd h (not_succeeds_error _)
  · intro h
    cases h with
    | css htagged htarget =>
      refine ⟨"css", typeOf_eq_ok.2 htagged, ?_⟩
      rw [if_pos rfl, succeeds_bind_of fun _ => succeeds_pure _]
      exact succeeds_targetOf.2 htarget
    | checkbox htagged htarget =>
      refine ⟨"checkbox", typeOf_eq_ok.2 htagged, ?_⟩
      rw [if_neg (by decide), if_pos rfl, succeeds_bind_of fun _ => succeeds_pure _]
      exact succeeds_targetOf.2 htarget

/-- A matcher that may be missing is read if there is none, or if it is one. -/
theorem succeeds_readMatcher {field : String} :
    Succeeds (Matcher.readOptional node field) ↔
      ∀ v, node.present? field = some v → IsMatcher v := by
  unfold Matcher.readOptional
  cases node.present? field with
  | none => simp [Succeeds]
  | some v =>
    dsimp only
    rw [succeeds_map, matcher_accepted]
    simp

end Nodes

/-! ## Steps and consents -/

/-- What readers and grammar agree on about a value. -/
structure Accepted (v : Json) : Prop where
  action : Succeeds (Action.read v) ↔ IsAction v
  consent : Succeeds (Consent.read v) ↔ IsConsent v

section Nested

variable {node : Json} {tag : String}

/-- **A nested step is read if there is none or if it is one**, given that smaller values are read
as they should be. -/
theorem succeeds_readOptional_action (ih : ∀ v, sizeOf v < sizeOf node → Accepted v)
    {field : String} :
    Succeeds (Action.readOptional node field) ↔
      ∀ v, node.present? field = some v → IsAction v := by
  rw [Action.readOptional]
  split
  · rename_i hnone
    refine ⟨fun _ v hv => ?_, fun _ => succeeds_ok none⟩
    rw [hnone] at hv
    cases hv
  · rename_i v hsome
    rw [succeeds_map, (ih v (Json.sizeOf_present?_lt hsome)).action, hsome]
    constructor
    · rintro haction w ⟨⟩
      exact haction
    · intro h
      exact h v rfl

/-- What is read is there exactly if something was. -/
theorem isSome_of_readOptional {field : String} {a : Option Action}
    (h : Action.readOptional node field = .ok a) :
    a.isSome = (node.present? field).isSome := by
  rw [Action.readOptional] at h
  split at h
  · rename_i hnone
    cases h
    rw [hnone]
    rfl
  · rename_i v hsome
    rw [hsome]
    cases hread : Action.read v with
    | error e =>
      rw [hread] at h
      cases h
    | ok b =>
      rw [hread] at h
      cases h
      rfl

theorem isSome_of_readMatcher {field : String} {m : Option Matcher}
    (h : Matcher.readOptional node field = .ok m) :
    m.isSome = (node.present? field).isSome := by
  unfold Matcher.readOptional at h
  cases hfield : node.present? field with
  | none =>
    rw [hfield] at h
    cases h
    rfl
  | some v =>
    rw [hfield] at h
    dsimp only at h
    cases hread : Matcher.read v with
    | error e =>
      rw [hread] at h
      cases h
    | ok b =>
      rw [hread] at h
      cases h
      rfl

/-- The elements of a member that is an array are smaller than the node. -/
theorem sizeOf_lt_of_mem_member {field : String} {items : List Json} {v : Json}
    (hitems : node.get? field = some (.array items)) (hv : v ∈ items) :
    sizeOf v < sizeOf node :=
  Nat.lt_trans (Json.sizeOf_lt_of_mem_items (v := .array items) rfl hv) (Json.sizeOf_get?_lt hitems)

theorem items?_eq_some {v : Json} {items : List Json} :
    v.items? = some items ↔ v = .array items := by
  cases v <;> simp [Json.items?]

/-- An array under a name, or the error that there is none. -/
theorem succeeds_elim_items {α : Type} {field : String} {e : RuleError}
    {f : List Json → Except RuleError α} {Each : Json → Prop}
    (hf : ∀ items, node.get? field = some (.array items) →
      (Succeeds (f items) ↔ ∀ v ∈ items, Each v)) :
    Succeeds (((node.get? field).bind Json.items?).elim (.error e) f) ↔
      ∃ items, node.get? field = some (.array items) ∧ ∀ v ∈ items, Each v := by
  have hitems : ∀ items, (node.get? field).bind Json.items? = some items ↔
      node.get? field = some (.array items) := by
    intro items
    simp [Option.bind_eq_some_iff, items?_eq_some]
  cases hbind : (node.get? field).bind Json.items? with
  | none =>
    refine ⟨fun h => absurd h (not_succeeds_error e), ?_⟩
    rintro ⟨items, harray, -⟩
    rw [(hitems items).2 harray] at hbind
    cases hbind
  | some items =>
    have harray := (hitems items).1 hbind
    refine (hf items harray).trans ⟨fun h => ⟨items, harray, h⟩, ?_⟩
    rintro ⟨items', harray', h⟩
    rw [harray] at harray'
    cases harray'
    exact h

/-! ### What is read by each tag -/

theorem read_click (h : Tagged "click" node) : Action.read node = readClick node := by
  rw [Action.read, typeOf_eq_ok.2 h]
  simp [bind, Except.bind]

theorem read_list (h : Tagged "list" node) :
    Action.read node = ((node.get? "actions").bind Json.items?).elim
      (.error (.missingField "list" "actions"))
      fun items => do return .list (← items.mapM Action.read) := by
  rw [Action.read, typeOf_eq_ok.2 h]
  cases hitems : (node.get? "actions").bind Json.items? <;>
    simp [bind, Except.bind, throw, throwThe, MonadExceptOf.throw]

theorem read_consent (h : Tagged "consent" node) :
    Action.read node = ((node.get? "consents").bind Json.items?).elim
      (.error (.missingField "consent" "consents"))
      fun items => do return .consent (← items.mapM Consent.read) := by
  rw [Action.read, typeOf_eq_ok.2 h]
  cases hitems : (node.get? "consents").bind Json.items? <;>
    simp [bind, Except.bind, throw, throwThe, MonadExceptOf.throw]

theorem read_ifCss (h : Tagged "ifcss" node) :
    Action.read node = do
      let target ← targetOf "ifcss" node
      let onTrue ← Action.readOptional node "trueAction"
      let onFalse ← Action.readOptional node "falseAction"
      return .ifCss target onTrue onFalse := by
  rw [Action.read, typeOf_eq_ok.2 h]
  simp [bind, Except.bind]

theorem read_waitCss (h : Tagged "waitcss" node) : Action.read node = readWaitCss node := by
  rw [Action.read, typeOf_eq_ok.2 h]
  simp [bind, Except.bind]

theorem read_forEach (h : Tagged "foreach" node) :
    Action.read node = (Action.readOptional node "action" >>= fun found =>
      found.elim (.error (.missingField "foreach" "action"))
        fun body => do return .forEach (← targetOf "foreach" node) body) := by
  rw [Action.read, typeOf_eq_ok.2 h]
  cases Action.readOptional node "action" with
  | error e => simp [bind, Except.bind]
  | ok found => cases found <;> simp [bind, Except.bind, throw, throwThe, MonadExceptOf.throw]

theorem read_hide (h : Tagged "hide" node) :
    Action.read node = do return .hide (← targetOf "hide" node) := by
  rw [Action.read, typeOf_eq_ok.2 h]
  simp [bind, Except.bind]

theorem read_slide (h : Tagged "slide" node) : Action.read node = readSlide node := by
  rw [Action.read, typeOf_eq_ok.2 h]
  simp [bind, Except.bind]

theorem read_close (h : Tagged "close" node) : Action.read node = .ok .close := by
  rw [Action.read, typeOf_eq_ok.2 h]
  simp [bind, Except.bind, pure, Except.pure]

theorem read_wait (h : Tagged "wait" node) : Action.read node = readWait node := by
  rw [Action.read, typeOf_eq_ok.2 h]
  simp [bind, Except.bind]

/-! ### What that is -/

/-- A reading that gives steps of one kind, if any. -/
def Yields (tag : String) (x : Except RuleError Action) : Prop := ∀ a, x = .ok a → a.tag = tag

theorem yields_ok {a : Action} (h : a.tag = tag) : Yields tag (.ok a) := by
  rintro _ ⟨⟩
  exact h

theorem yields_error {e : RuleError} : Yields tag (.error e) := by
  rintro a ⟨⟩

/-- What was read first does not matter. -/
theorem yields_bind {α : Type} {x : Except RuleError α} {f : α → Except RuleError Action}
    (h : ∀ b, Yields tag (f b)) : Yields tag (x >>= f) := by
  cases x with
  | error e => exact yields_error
  | ok b => exact h b

/-- What yields a step for every value yields one for a value that may be missing. -/
theorem yields_elim {α : Type} {o : Option α} {e : RuleError} {f : α → Except RuleError Action}
    (h : ∀ b, Yields tag (f b)) : Yields tag (o.elim (.error e) f) := by
  cases o with
  | none => exact yields_error
  | some b => exact h b

/-! ### When that succeeds -/

/-- A click is read if and only if it has a target and fields of their kinds. -/
theorem succeeds_click (h : Tagged "click" node) :
    Succeeds (Action.read node) ↔
      HasTarget node ∧ Under "openInTab" IsBool node ∧
        Under "timeout" (NullOr (IsNatural longLimit)) node := by
  rw [read_click h]
  unfold readClick
  rw [succeeds_bind_and fun _ => succeeds_bind_of fun _ => succeeds_pure _, succeeds_targetOf,
    succeeds_shaped, succeeds_clickFields h, and_comm]

/-- A list of steps is read if and only if each of them is one. -/
theorem succeeds_list (ih : ∀ v, sizeOf v < sizeOf node → Accepted v) (h : Tagged "list" node) :
    Succeeds (Action.read node) ↔
      ∃ items, node.get? "actions" = some (.array items) ∧ ∀ v ∈ items, IsAction v := by
  rw [read_list h]
  refine succeeds_elim_items fun items hitems => ?_
  rw [succeeds_bind_of fun _ => succeeds_pure _, succeeds_mapM]
  exact forall₂_congr fun v hv => (ih v (sizeOf_lt_of_mem_member hitems hv)).action

/-- A list of consents is read if and only if each of them is one. -/
theorem succeeds_consent (ih : ∀ v, sizeOf v < sizeOf node → Accepted v)
    (h : Tagged "consent" node) :
    Succeeds (Action.read node) ↔
      ∃ items, node.get? "consents" = some (.array items) ∧ ∀ v ∈ items, IsConsent v := by
  rw [read_consent h]
  refine succeeds_elim_items fun items hitems => ?_
  rw [succeeds_bind_of fun _ => succeeds_pure _, succeeds_mapM]
  exact forall₂_congr fun v hv => (ih v (sizeOf_lt_of_mem_member hitems hv)).consent

/-- A branch is read if and only if it has a target, and steps where there are some. -/
theorem succeeds_ifCss (ih : ∀ v, sizeOf v < sizeOf node → Accepted v) (h : Tagged "ifcss" node) :
    Succeeds (Action.read node) ↔
      HasTarget node ∧ (∀ v, node.present? "trueAction" = some v → IsAction v) ∧
        ∀ v, node.present? "falseAction" = some v → IsAction v := by
  rw [read_ifCss h, succeeds_bind_and fun _ => succeeds_bind_and fun _ =>
    succeeds_bind_of fun _ => succeeds_pure _, succeeds_targetOf,
    succeeds_readOptional_action ih, succeeds_readOptional_action ih]

theorem succeeds_waitCss (h : Tagged "waitcss" node) :
    Succeeds (Action.read node) ↔
      HasTarget node ∧ Under "negated" IsBool node ∧
        Under "retries" (NullOr (IsNatural shortLimit)) node ∧
        Under "waitTime" (NullOr (IsNatural longLimit)) node := by
  rw [read_waitCss h]
  unfold readWaitCss
  rw [succeeds_bind_and fun _ => succeeds_bind_of fun _ => succeeds_pure _, succeeds_targetOf,
    succeeds_shaped, succeeds_waitFields h, and_comm]

/-- A loop is read if and only if it has a target and a step to do. -/
theorem succeeds_forEach (ih : ∀ v, sizeOf v < sizeOf node → Accepted v)
    (h : Tagged "foreach" node) :
    Succeeds (Action.read node) ↔
      HasTarget node ∧ ∃ body, node.present? "action" = some body ∧ IsAction body := by
  rw [read_forEach h, succeeds_bind]
  have hafter : ∀ body, Succeeds (do return Action.forEach (← targetOf "foreach" node) body) ↔
      HasTarget node :=
    fun body => (succeeds_bind_of fun _ => succeeds_pure _).trans succeeds_targetOf
  constructor
  · rintro ⟨found, hfound, hrest⟩
    cases found with
    | none => exact absurd hrest (not_succeeds_error _)
    | some body =>
      have hsome := isSome_of_readOptional hfound
      obtain ⟨v, hv⟩ := Option.isSome_iff_exists.1 hsome.symm
      refine ⟨(hafter body).1 hrest, v, hv, ?_⟩
      exact (succeeds_readOptional_action ih).1 ⟨_, hfound⟩ v hv
  · rintro ⟨htarget, v, hv, haction⟩
    have hread : Succeeds (Action.readOptional node "action") := by
      refine (succeeds_readOptional_action ih).2 fun w hw => ?_
      rw [hv] at hw
      cases hw
      exact haction
    obtain ⟨found, hfound⟩ := hread
    refine ⟨found, hfound, ?_⟩
    have hsome := isSome_of_readOptional hfound
    rw [hv] at hsome
    obtain ⟨body, rfl⟩ := Option.isSome_iff_exists.1 hsome
    exact (hafter body).2 htarget

theorem succeeds_hide (h : Tagged "hide" node) :
    Succeeds (Action.read node) ↔ HasTarget node := by
  rw [read_hide h, succeeds_bind_of fun _ => succeeds_pure _, succeeds_targetOf]

theorem succeeds_slide (h : Tagged "slide" node) :
    Succeeds (Action.read node) ↔
      HasTarget node ∧ ∃ drag, node.get? "dragTarget" = some drag ∧ IsQuery drag := by
  rw [read_slide h]
  unfold readSlide
  cases hdrag : node.get? "dragTarget" with
  | none => simp [not_succeeds_error]
  | some drag =>
    dsimp only
    rw [succeeds_bind_and fun _ => succeeds_bind_of fun _ => succeeds_pure _, succeeds_targetOf,
      succeeds_shaped, and_comm]
    simp [Succeeds, IsQuery]

theorem succeeds_wait (h : Tagged "wait" node) :
    Succeeds (Action.read node) ↔ Under "waitTime" (NullOr (IsNatural longLimit)) node := by
  rw [read_wait h]
  unfold readWait
  rw [succeeds_bind_of fun _ => succeeds_pure _, succeeds_shaped, succeeds_waitTime h]

/-- Whatever is read has a tag. -/
theorem tagged_of_read (hread : Succeeds (Action.read node)) : ∃ tag, Tagged tag node := by
  rw [Action.read, succeeds_bind] at hread
  obtain ⟨tag, htag, -⟩ := hread
  exact ⟨tag, typeOf_eq_ok.1 htag⟩

/-- The tags of steps. -/
def tags : List String :=
  ["click", "list", "consent", "ifcss", "waitcss", "foreach", "hide", "slide", "close", "wait"]

/-- The tag of what is read is a step's. -/
theorem mem_tags (h : Tagged tag node) (hread : Succeeds (Action.read node)) : tag ∈ tags := by
  rw [Action.read, typeOf_eq_ok.2 h] at hread
  refine Decidable.byContradiction fun hnone => ?_
  simp only [tags, List.mem_cons, List.not_mem_nil, or_false, not_or] at hnone
  obtain ⟨h₁, h₂, h₃, h₄, h₅, h₆, h₇, h₈, h₉, h₁₀⟩ := hnone
  simp only [bind, Except.bind, if_neg h₁, if_neg h₂, if_neg h₃, if_neg h₄, if_neg h₅, if_neg h₆,
    if_neg h₇, if_neg h₈, if_neg h₉, if_neg h₁₀] at hread
  exact not_succeeds_error _ hread

/-- **What is read is of the kind that the tag names.** -/
theorem yields_read (h : Tagged tag node) : Yields tag (Action.read node) := by
  intro a ha
  have hmem := mem_tags h ⟨a, ha⟩
  revert a
  change Yields tag (Action.read node)
  simp only [tags, List.mem_cons, List.not_mem_nil, or_false] at hmem
  rcases hmem with rfl | rfl | rfl | rfl | rfl | rfl | rfl | rfl | rfl | rfl
  · rw [read_click h]
    exact yields_bind fun _ => yields_bind fun _ => yields_ok rfl
  · rw [read_list h]
    exact yields_elim fun _ => yields_bind fun _ => yields_ok rfl
  · rw [read_consent h]
    exact yields_elim fun _ => yields_bind fun _ => yields_ok rfl
  · rw [read_ifCss h]
    exact yields_bind fun _ => yields_bind fun _ => yields_bind fun _ => yields_ok rfl
  · rw [read_waitCss h]
    exact yields_bind fun _ => yields_bind fun _ => yields_ok rfl
  · rw [read_forEach h]
    exact yields_bind fun _ => yields_elim fun _ => yields_bind fun _ => yields_ok rfl
  · rw [read_hide h]
    exact yields_bind fun _ => yields_ok rfl
  · rw [read_slide h]
    unfold readSlide
    cases node.get? "dragTarget" with
    | none => exact yields_error
    | some raw => exact yields_bind fun _ => yields_bind fun _ => yields_ok rfl
  · rw [read_close h]
    exact yields_ok rfl
  · rw [read_wait h]
    exact yields_bind fun _ => yields_ok rfl

/-- **A step is read if it is one**, given that smaller values are. -/
theorem action_accepted (ih : ∀ v, sizeOf v < sizeOf node → Accepted v) :
    Succeeds (Action.read node) ↔ IsAction node := by
  constructor
  · intro hread
    obtain ⟨tag, htag⟩ := tagged_of_read hread
    have hmem := mem_tags htag hread
    simp only [tags, List.mem_cons, List.not_mem_nil, or_false] at hmem
    rcases hmem with rfl | rfl | rfl | rfl | rfl | rfl | rfl | rfl | rfl | rfl
    · obtain ⟨htarget, htab, htime⟩ := (succeeds_click htag).1 hread
      exact .click htag htarget htab htime
    · obtain ⟨items, hitems, hall⟩ := (succeeds_list ih htag).1 hread
      exact .list htag hitems hall
    · obtain ⟨items, hitems, hall⟩ := (succeeds_consent ih htag).1 hread
      exact .consent htag hitems hall
    · obtain ⟨htarget, htrue, hfalse⟩ := (succeeds_ifCss ih htag).1 hread
      exact .ifCss htag htarget htrue hfalse
    · obtain ⟨htarget, hnegated, hretries, htime⟩ := (succeeds_waitCss htag).1 hread
      exact .waitCss htag htarget hnegated hretries htime
    · obtain ⟨htarget, body, hbody, haction⟩ := (succeeds_forEach ih htag).1 hread
      exact .forEach htag htarget hbody haction
    · exact .hide htag ((succeeds_hide htag).1 hread)
    · obtain ⟨htarget, drag, hdrag, hquery⟩ := (succeeds_slide htag).1 hread
      exact .slide htag htarget hdrag hquery
    · exact .close htag
    · exact .wait htag ((succeeds_wait htag).1 hread)
  · intro haction
    cases haction with
    | click htag htarget htab htime => exact (succeeds_click htag).2 ⟨htarget, htab, htime⟩
    | list htag hitems hall => exact (succeeds_list ih htag).2 ⟨_, hitems, hall⟩
    | consent htag hitems hall => exact (succeeds_consent ih htag).2 ⟨_, hitems, hall⟩
    | ifCss htag htarget htrue hfalse =>
      exact (succeeds_ifCss ih htag).2 ⟨htarget, htrue, hfalse⟩
    | waitCss htag htarget hnegated hretries htime =>
      exact (succeeds_waitCss htag).2 ⟨htarget, hnegated, hretries, htime⟩
    | forEach htag htarget hbody haction =>
      exact (succeeds_forEach ih htag).2 ⟨htarget, _, hbody, haction⟩
    | hide htag htarget => exact (succeeds_hide htag).2 htarget
    | slide htag htarget hdrag hquery =>
      exact (succeeds_slide htag).2 ⟨htarget, _, hdrag, hquery⟩
    | close htag => exact ⟨_, read_close htag⟩
    | wait htag htime => exact (succeeds_wait htag).2 htime

/-- What a letter names has that letter. -/
theorem code_of_ofCode? {code : String} {c : Category} (h : Category.ofCode? code = some c) :
    c.code = code := by
  have hfound := List.find?_some h
  simpa using hfound

/-- **One of the two ways has to be there**: a question with what toggles it, or a branch. -/
theorem succeeds_binding {c : Category} {m : Option Matcher} {description : Option String}
    {toggle onTrue onFalse : Option Action} :
    Succeeds (match m, toggle with
      | some m, some t => return ⟨c, description, .toggle m t⟩
      | _, _ =>
        if onTrue.isSome || onFalse.isSome then
          return ⟨c, description, .branch onTrue onFalse⟩
        else throw (.invalidConsent c.code) : Except RuleError Consent) ↔
      (m.isSome ∧ toggle.isSome ∨ onTrue.isSome ∨ onFalse.isSome) := by
  have hbranch : Succeeds (if onTrue.isSome || onFalse.isSome then
      return ⟨c, description, .branch onTrue onFalse⟩
      else throw (.invalidConsent c.code) : Except RuleError Consent) ↔
      (onTrue.isSome ∨ onFalse.isSome) := by
    by_cases hsome : onTrue.isSome || onFalse.isSome
    · rw [if_pos hsome]
      exact ⟨fun _ => by simpa using hsome, fun _ => succeeds_pure _⟩
    · rw [if_neg hsome]
      refine ⟨fun h => absurd h (not_succeeds_error _), fun h => absurd ?_ hsome⟩
      simpa using h
  cases m with
  | none => simpa using hbranch
  | some m =>
    cases toggle with
    | none => simpa using hbranch
    | some t => exact ⟨fun _ => .inl ⟨rfl, rfl⟩, fun _ => succeeds_pure _⟩

/-- **A consent is read if it is one**, given that smaller values are. -/
theorem consent_accepted (ih : ∀ v, sizeOf v < sizeOf node → Accepted v) :
    Succeeds (Consent.read node) ↔ IsConsent node := by
  rw [Consent.read, succeeds_bind]
  have hstep : ∀ field, Succeeds (Action.readOptional node field) ↔
      ∀ v, node.present? field = some v → IsAction v :=
    fun _ => succeeds_readOptional_action ih
  constructor
  · rintro ⟨code, hcode, h⟩
    cases hcategory : Category.ofCode? code with
    | none =>
      rw [hcategory] at h
      exact absurd h (not_succeeds_error _)
    | some c =>
      rw [hcategory] at h
      obtain ⟨m, hm, h⟩ := succeeds_bind.1 h
      obtain ⟨toggle, htoggle, h⟩ := succeeds_bind.1 h
      obtain ⟨onTrue, htrue, h⟩ := succeeds_bind.1 h
      obtain ⟨onFalse, hfalse, h⟩ := succeeds_bind.1 h
      have htagged : Tagged c.code node := by
        rw [code_of_ofCode? hcategory]
        exact typeOf_eq_ok.1 hcode
      refine .mk c htagged (succeeds_readMatcher.1 ⟨m, hm⟩) ((hstep _).1 ⟨toggle, htoggle⟩)
        ((hstep _).1 ⟨onTrue, htrue⟩) ((hstep _).1 ⟨onFalse, hfalse⟩) ?_
      rw [← isSome_of_readMatcher hm, ← isSome_of_readOptional htoggle,
        ← isSome_of_readOptional htrue, ← isSome_of_readOptional hfalse]
      exact succeeds_binding.1 h
  · rintro ⟨c, htagged, hmatcher, htoggle, htrue, hfalse, hway⟩
    obtain ⟨m, hm⟩ := succeeds_readMatcher.2 hmatcher
    obtain ⟨toggle, ht⟩ := (hstep _).2 htoggle
    obtain ⟨onTrue, hon⟩ := (hstep _).2 htrue
    obtain ⟨onFalse, hoff⟩ := (hstep _).2 hfalse
    rw [← isSome_of_readMatcher hm, ← isSome_of_readOptional ht,
      ← isSome_of_readOptional hon, ← isSome_of_readOptional hoff] at hway
    refine ⟨c.code, typeOf_eq_ok.2 htagged, ?_⟩
    rw [Category.ofCode?_code]
    exact succeeds_bind.2 ⟨m, hm, succeeds_bind.2 ⟨toggle, ht, succeeds_bind.2 ⟨onTrue, hon,
      succeeds_bind.2 ⟨onFalse, hoff, succeeds_binding.2 hway⟩⟩⟩⟩

end Nested

/-- Readers and grammar agree on a value, by induction on its size: whatever is nested in it is
smaller. -/
theorem accepted_of_size (node : Json) : Accepted node := by
  generalize hsize : sizeOf node = n
  induction n using Nat.strongRecOn generalizing node with
  | ind n ih =>
    have hsmaller : ∀ v, sizeOf v < sizeOf node → Accepted v :=
      fun v hv => ih (sizeOf v) (hsize ▸ hv) v rfl
    exact ⟨action_accepted hsmaller, consent_accepted hsmaller⟩

/-- **The readers accept exactly the grammar**: whatever value they are given and at whatever depth,
nothing that is no rule is read, nothing that is one is refused, and a step is read as one of the
kind that its tag names. -/
theorem accepted (node : Json) :
    (Succeeds (Action.read node) ↔ IsAction node) ∧
      (Succeeds (Consent.read node) ↔ IsConsent node) ∧
      (Succeeds (Matcher.read node) ↔ IsMatcher node) ∧
      ∀ a, Action.read node = .ok a → Tagged a.tag node := by
  have hagree := accepted_of_size node
  refine ⟨hagree.action, hagree.consent, matcher_accepted, fun a ha => ?_⟩
  obtain ⟨tag, htag⟩ := tagged_of_read ⟨a, ha⟩
  rw [yields_read htag a ha]
  exact htag

end Rules
end ConsentWalker