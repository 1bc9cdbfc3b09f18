import ConsentWalker.Json.Shape
/-!
# Rules — purposes, policies and choices

The data-processing purposes a consent dialog asks about, what a visitor allows, and the choice a
visit makes. A policy may leave a purpose out, and a purpose that is left out is denied.
-/

namespace ConsentWalker

/-- A data-processing purpose, named by its letter. -/
inductive Category where
  | d | a | b | e | f | x
  deriving DecidableEq, Repr, Inhabited

namespace Category

/-- All purposes, in their order. -/
def all : List Category := [.d, .a, .b, .e, .f, .x]

/-- The letter of a purpose. -/
def code : Category → String
  | .d => "D"
  | .a => "A"
  | .b => "B"
  | .e => "E"
  | .f => "F"
  | .x => "X"

/-- What a purpose is about. -/
def description : Category → String
  | .d => "Information storage and access"
  | .a => "Preferences and functionality"
  | .b => "Performance and analytics"
  | .e => "Content selection, delivery and reporting"
  | .f => "Ad selection, delivery and reporting"
  | .x => "Other purposes"

/-- The purpose with that letter. -/
def ofCode? (s : String) : Option Category := all.find? (·.code == s)

/-- The complaint about a letter that names no purpose. -/
def unknownMessage (s : String) : String := "unknown consent category `" ++ s ++ "`"

/-- Reads a purpose by its letter. -/
def read : Json.Reader Category := Json.readVariant (all.map fun c => (c.code, c))

/-- Every purpose is found again by its letter. -/
theorem ofCode?_code (c : Category) : ofCode? c.code = some c := by cases c <;> rfl

end Category

/-- What a visitor allows: an answer for some of the purposes. -/
structure Policy where
  stated : Category → Option Bool

namespace Policy

/-- The policy that says nothing. -/
def empty : Policy := ⟨fun _ => none⟩

instance : Inhabited Policy := ⟨empty⟩

/-- Denies every purpose. -/
def rejectAll : Policy := ⟨fun _ => some false⟩

/-- Allows every purpose. -/
def acceptAll : Policy := ⟨fun _ => some true⟩

/-- The policy with one answer given anew. -/
def set (p : Policy) (c : Category) (allowed : Bool) : Policy :=
  ⟨fun c' => if c' = c then some allowed else p.stated c'⟩

/-- Whether a purpose is allowed. -/
def allows (p : Policy) (c : Category) : Bool := (p.stated c).getD false

theorem allows_set (p : Policy) (c c' : Category) (b : Bool) :
    (p.set c b).allows c' = if c' = c then b else p.allows c' := by
  by_cases h : c' = c <;> simp [allows, set, h]

/-- The answers of a policy in the order of the purposes. -/
def toList (p : Policy) : List (Category × Bool) :=
  Category.all.filterMap fun c => (p.stated c).map fun b => (c, b)

/-- A policy as an object from letters to answers. -/
def toJson (p : Policy) : Json :=
  .object (p.toList.map fun (c, b) => (c.code, .bool b))

/-- Reads the answers of a policy one after another. -/
def readAnswers : List (String × Json) → Policy → Except Json.Misfit Policy
  | [], p => .ok p
  | (code, v) :: rest, p => do
    let c ← Category.read (.string code)
    let b ← Json.readBool v
    readAnswers rest (p.set c b)

/-- Reads a policy from an object. -/
def read : Json.Reader Policy
  | .object members => readAnswers members empty
  | v => .error (.wrongType v.found "a map")

end Policy

/-- Switches for diagnosis and pacing. -/
structure Flags where
  /-- Scroll targets into view and pause after clicks. -/
  clickDelay : Bool := false
  /-- Do everything except the final save. -/
  skipSubmit : Bool := false
  /-- Detect only. -/
  skipActions : Bool := false
  /-- Outline the targets of matchers after consents are set. -/
  paintMatchers : Bool := false
  debugClicks : Bool := false
  debugLog : Bool := false
  /-- Never run the method that hides a dialog. -/
  skipHideMethod : Bool := false
  deriving DecidableEq, Repr, Inhabited

namespace Flags

/-- One switch of the record: its name, its value and how to set it. -/
def switches : List (String × (Flags → Bool) × (Bool → Flags → Flags)) :=
  [("clickDelay", clickDelay, fun b f => { f with clickDelay := b }),
   ("skipSubmit", skipSubmit, fun b f => { f with skipSubmit := b }),
   ("skipActions", skipActions, fun b f => { f with skipActions := b }),
   ("paintMatchers", paintMatchers, fun b f => { f with paintMatchers := b }),
   ("debugClicks", debugClicks, fun b f => { f with debugClicks := b }),
   ("debugLog", debugLog, fun b f => { f with debugLog := b }),
   ("skipHideMethod", skipHideMethod, fun b f => { f with skipHideMethod := b })]

/-- The switches as an object. -/
def toJson (f : Flags) : Json :=
  .object (switches.map fun (name, value, _) => (name, .bool (value f)))

/-- Reads the switches; one that is left out is off. -/
def read : Json.Reader Flags :=
  Json.readRecord "DebugFlags"
    (switches.map fun (name, _, set) =>
      { name, absence := .defaulted, read := fun v f => do return set (← Json.readBool v) f })
    {}

end Flags

/-- What a visit does with the dialog it finds. -/
inductive Choice where
  /-- Detect only, never interact. -/
  | noAction
  | acceptAll
  | rejectAll
  deriving DecidableEq, Repr, Inhabited

namespace Choice

/-- All choices, in their order. -/
def all : List Choice := [.noAction, .acceptAll, .rejectAll]

/-- The name of a choice. -/
def name : Choice → String
  | .noAction => "NO_ACTION"
  | .acceptAll => "ACCEPT_ALL"
  | .rejectAll => "REJECT_ALL"

/-- Reads a choice by its name. -/
def read : Json.Reader Choice := Json.readVariant (all.map fun c => (c.name, c))

/-- The policy a choice stands for. -/
def policy : Choice → Policy
  | .acceptAll => .acceptAll
  | .noAction | .rejectAll => .rejectAll

/-- The switches under a choice: without action nothing is acted on. -/
def flags (c : Choice) (base : Flags) : Flags :=
  { base with skipActions := base.skipActions || c == .noAction }

theorem skipActions_flags_noAction (base : Flags) : (noAction.flags base).skipActions = true := by
  simp [flags]

end Choice
end ConsentWalker
