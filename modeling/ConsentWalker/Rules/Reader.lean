import ConsentWalker.Rules.Action
import ConsentWalker.Rules.Error
/-!
# Rules — reading actions and consents

Rules come as JSON objects tagged by their `type`. `Action.read` and `Consent.read` follow the
nodes down; each nested node is a member or an element of the node it stands in, so it is smaller,
and that is what the recursion rests on.
-/

namespace ConsentWalker

namespace Rules

/-- The tag of a node. -/
def typeOf (kind : String) (node : Json) : Except RuleError String :=
  match (node.get? "type").bind Json.string? with
  | some tag => .ok tag
  | none => .error (.missingField kind "type")

/-- Reads a part of a node by its shape. -/
def shaped {α : Type} (kind : String) (read : Json.Reader α) (v : Json) : Except RuleError α :=
  match read v with
  | .ok a => .ok a
  | .error misfit => .error (.invalidNode kind misfit)

/-- Reads the query `target`. A query without a parent takes the `parent` beside it. -/
def targetOf (kind : String) (node : Json) : Except RuleError Query :=
  match node.get? "target" with
  | none => .error (.missingField kind "target")
  | some raw => do
    let target ← shaped kind Query.read raw
    match target.parent, node.present? "parent" with
    | none, some raw => do
      let parent ← shaped kind Query.read raw
      return { target with parent := some parent }
    | _, _ => return target

/-- The axis a node names, whatever the case; anything else names none. -/
def axisOf (node : Json) : Option Axis :=
  match (node.get? "axis").bind Json.string? with
  | some s =>
    if Text.sameUpToCase s "x" then some .x
    else if Text.sameUpToCase s "y" then some .y
    else none
  | none => none

/-- The plain fields of a click. -/
structure ClickFields where
  openInTab : Bool := false
  timeout : Option Nat := none

/-- Reads the plain fields of a click. -/
def ClickFields.read : Json.Reader ClickFields :=
  Json.readRecord "Fields"
    [{ name := "openInTab", absence := .defaulted,
       read := fun v f => do return { f with openInTab := ← Json.readBool v } },
     { name := "timeout", absence := .optional,
       read := fun v f => do return { f with timeout := ← Json.readOptional Json.readLong v } }]
    {}

/-- The plain fields of a wait for an element. -/
structure WaitFields where
  negated : Bool := false
  retries : Option Nat := none
  waitTime : Option Nat := none

/-- Reads the plain fields of a wait for an element. -/
def WaitFields.read : Json.Reader WaitFields :=
  Json.readRecord "Fields"
    [{ name := "negated", absence := .defaulted,
       read := fun v f => do return { f with negated := ← Json.readBool v } },
     { name := "retries", absence := .optional,
       read := fun v f => do return { f with retries := ← Json.readOptional Json.readShort v } },
     { name := "waitTime", absence := .optional,
       read := fun v f => do return { f with waitTime := ← Json.readOptional Json.readLong v } }]
    {}

/-- Reads the plain field of a wait. -/
def readWaitTime : Json.Reader (Option Nat) :=
  Json.readRecord "Fields"
    [{ name := "waitTime", absence := .optional,
       read := fun v _ => Json.readOptional Json.readLong v }]
    none

/-- Reads a click. -/
def readClick (node : Json) : Except RuleError Action := do
  let fields ← shaped "click" ClickFields.read node
  let target ← targetOf "click" node
  return .click { target, openInTab := fields.openInTab, timeout := fields.timeout }

/-- Reads a wait for an element. -/
def readWaitCss (node : Json) : Except RuleError Action := do
  let fields ← shaped "waitcss" WaitFields.read node
  let target ← targetOf "waitcss" node
  return .waitCss
    { target
      negated := fields.negated
      retries := fields.retries.getD WaitCss.defaultRetries
      waitTime := fields.waitTime.getD WaitCss.defaultTime }

/-- Reads a slide. -/
def readSlide (node : Json) : Except RuleError Action :=
  match node.get? "dragTarget" with
  | none => .error (.missingField "slide" "dragTarget")
  | some raw => do
    let dragTarget ← shaped "slide" Query.read raw
    let target ← targetOf "slide" node
    return .slide { target, dragTarget, axis := axisOf node }

/-- Reads a wait. -/
def readWait (node : Json) : Except RuleError Action := do
  let time ← shaped "wait" readWaitTime node
  return .wait (time.getD WaitCss.defaultTime)

end Rules

open Rules

/-- Reads a question. -/
def Matcher.read (node : Json) : Except RuleError Matcher := do
  let tag ← typeOf "matcher" node
  if tag = "css" then return .css (← targetOf "matcher" node)
  else if tag = "checkbox" then return .checkbox (← targetOf "matcher" node)
  else throw (.unknownMatcher tag)

/-- Reads the question of a consent, if it has one. -/
def Matcher.readOptional (node : Json) (field : String) : Except RuleError (Option Matcher) :=
  match node.present? field with
  | none => .ok none
  | some v => (Matcher.read v).map some

mutual

/-- **Reads a step** by its tag. -/
def Action.read (node : Json) : Except RuleError Action := do
  let tag ← typeOf "action" node
  if tag = "click" then readClick node
  else if tag = "list" then
    match _h : (node.get? "actions").bind Json.items? with
    | none => throw (.missingField "list" "actions")
    | some items => return .list (← items.attach.mapM fun ⟨v, _hv⟩ => Action.read v)
  else if tag = "consent" then
    match _h : (node.get? "consents").bind Json.items? with
    | none => throw (.missingField "consent" "consents")
    | some items => return .consent (← items.attach.mapM fun ⟨v, _hv⟩ => Consent.read v)
  else if tag = "ifcss" then
    let target ← targetOf "ifcss" node
    let onTrue ← Action.readOptional node "trueAction"
    let onFalse ← Action.readOptional node "falseAction"
    return .ifCss target onTrue onFalse
  else if tag = "waitcss" then readWaitCss node
  else if tag = "foreach" then
    match ← Action.readOptional node "action" with
    | none => throw (.missingField "foreach" "action")
    | some body =>
      let target ← targetOf "foreach" node
      return .forEach target body
  else if tag = "hide" then return .hide (← targetOf "hide" node)
  else if tag = "slide" then readSlide node
  else if tag = "close" then return .close
  else if tag = "wait" then readWait node
  else throw (.unknownAction tag)
termination_by (sizeOf node, 1)
decreasing_by
  · obtain ⟨arr, ha, hi⟩ := Option.bind_eq_some_iff.1 _h
    have := Json.sizeOf_get?_lt ha
    have := Json.sizeOf_lt_of_mem_items hi _hv
    exact Prod.Lex.left _ _ (by omega)
  · obtain ⟨arr, ha, hi⟩ := Option.bind_eq_some_iff.1 _h
    have := Json.sizeOf_get?_lt ha
    have := Json.sizeOf_lt_of_mem_items hi _hv
    exact Prod.Lex.left _ _ (by omega)
  all_goals exact Prod.Lex.right _ (by omega)

/-- Reads a nested step; nothing is read when the member is missing or `null`. -/
def Action.readOptional (node : Json) (field : String) : Except RuleError (Option Action) :=
  match _h : node.present? field with
  | none => .ok none
  | some v => (Action.read v).map some
termination_by (sizeOf node, 0)
decreasing_by exact Prod.Lex.left _ _ (Json.sizeOf_present?_lt _h)

/-- **Reads a consent.** A matcher with a toggle goes before branches; one of the two ways has to
be there. -/
def Consent.read (node : Json) : Except RuleError Consent := do
  let code ← typeOf "consent" node
  match Category.ofCode? code with
  | none => throw (.invalidConsent code)
  | some category =>
    let matcher ← Matcher.readOptional node "matcher"
    let toggle ← Action.readOptional node "toggleAction"
    let onTrue ← Action.readOptional node "trueAction"
    let onFalse ← Action.readOptional node "falseAction"
    let description := (node.get? "description").bind Json.string?
    match matcher, toggle with
    | some m, some t => return ⟨category, description, .toggle m t⟩
    | _, _ =>
      if onTrue.isSome || onFalse.isSome then
        return ⟨category, description, .branch onTrue onFalse⟩
      else throw (.invalidConsent category.code)
termination_by (sizeOf node, 1)
decreasing_by all_goals exact Prod.Lex.right _ (by omega)

end

end ConsentWalker
