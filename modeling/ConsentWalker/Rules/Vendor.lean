import ConsentWalker.Rules.Reader
/-!
# Rules — vendors and catalogs

A vendor has detectors, which say whether its dialog is there and on screen, and steps for some of
the methods of a handling. A catalog keeps the vendors' rules unread, in the order they were
declared, and each is read on its own, so that one malformed vendor does not take the others down.

Of several entries for one method the last one with steps counts, and a method by an unknown name is
passed over; `Vendor.read` gives those names beside its answer.
-/

namespace ConsentWalker

/-- Two questions that tell one look of a dialog: is it in the page, and is it on screen. -/
structure Detector where
  present : Matcher
  showing : Matcher
  deriving Inhabited, Repr

/-- Reads a detector. -/
def Detector.read (node : Json) : Except RuleError Detector := do
  let present ← matcher "presentMatcher"
  let showing ← matcher "showingMatcher"
  return { present, showing }
where
  /-- One of the two questions. -/
  matcher (field : String) : Except RuleError Matcher :=
    match node.get? field with
    | none => .error (.missingField "detector" field)
    | some v => Matcher.read v

/-- The methods of a handling. -/
inductive Method where
  | hideCmp | openOptions | doConsent | saveConsent
  deriving DecidableEq, Repr, Inhabited

namespace Method

/-- All methods, in their order. -/
def all : List Method := [.hideCmp, .openOptions, .doConsent, .saveConsent]

/-- The name of a method. -/
def name : Method → String
  | .hideCmp => "HIDE_CMP"
  | .openOptions => "OPEN_OPTIONS"
  | .doConsent => "DO_CONSENT"
  | .saveConsent => "SAVE_CONSENT"

/-- The method of that name. -/
def ofName? (s : String) : Option Method := all.find? (·.name == s)

/-- Every method is found again by its name. -/
theorem ofName?_name (m : Method) : ofName? m.name = some m := by cases m <;> rfl

end Method

/-- One vendor's rules. -/
structure Vendor where
  name : String
  detectors : List Detector := []
  methods : Method → Option Action := fun _ => none

instance : Inhabited Vendor := ⟨{ name := "" }⟩

namespace Vendor

/-- A vendor with one more detector. -/
def withDetector (v : Vendor) (present showing : Matcher) : Vendor :=
  { v with detectors := v.detectors ++ [{ present, showing }] }

/-- A vendor whose method has these steps. -/
def withMethod (v : Vendor) (m : Method) (a : Action) : Vendor :=
  { v with methods := fun m' => if m' = m then some a else v.methods m' }

/-- The methods a vendor supplies, in their order. -/
def supplied (v : Vendor) : List (Method × Action) :=
  Method.all.filterMap fun m => (v.methods m).map fun a => (m, a)

/-- The entries of the member `methods`, which may be left out. -/
def methodEntries (node : Json) : Except RuleError (List Json) :=
  match node.get? "methods" with
  | some (.array entries) => .ok entries
  | some .null | none => .ok []
  | some _ => .error (.missingField "cmp" "methods")

/-- What reading a vendor yields: the unknown method names passed over, and the answer. -/
structure Reading where
  passedOver : List String
  answer : Except RuleError Vendor

/-- Reads method entries one after another. -/
def readMethods (v : Vendor) (passedOver : List String) : List Json → Reading
  | [] => ⟨passedOver, .ok v⟩
  | entry :: rest =>
    match (entry.get? "name").bind Json.string? with
    | none => ⟨passedOver, .error (.missingField "method" "name")⟩
    | some name =>
      match Method.ofName? name with
      | none => readMethods v (passedOver ++ [name]) rest
      | some m =>
        match entry.present? "action" with
        | none => readMethods v passedOver rest
        | some raw =>
          match Action.read raw with
          | .ok a => readMethods (v.withMethod m a) passedOver rest
          | .error e => ⟨passedOver, .error e⟩

/-- **Reads a vendor.** Detectors are read before methods. -/
def read (name : String) (node : Json) : Reading :=
  match (node.get? "detectors").bind Json.items? with
  | none => ⟨[], .error (.missingField "cmp" "detectors")⟩
  | some items =>
    match items.mapM Detector.read, methodEntries node with
    | .ok detectors, .ok entries => readMethods { name, detectors } [] entries
    | .ok _, .error e => ⟨[], .error e⟩
    | .error e, _ => ⟨[], .error e⟩

end Vendor

/-- Vendors' rules by name, unread, in the order they were declared. -/
structure Catalog where
  entries : List (String × Json) := []
  deriving Inhabited

namespace Catalog

/-- A catalog from an object. -/
def ofValue (v : Json) : Except RuleError Catalog :=
  match v with
  | .object members => .ok ⟨members⟩
  | v => .error (.catalog (.shape (.wrongType v.found "a map") none))

/-- A catalog from a text. A text that starts like a list is refused where the list starts. -/
def ofText (text : String) : Except RuleError Catalog :=
  let cs := text.toList
  let place (offset : Nat) := Json.Position.of cs offset
  let start := Json.Cursor.blanks ⟨cs, 0⟩
  let read : Except Json.Fault (Json × Json.Cursor) :=
    match start.rest with
    -- what the list holds is never looked at
    | '[' :: _ => .ok (.array [], start)
    | _ => Json.value Json.depthLimit start
  match read with
  | .error fault => .error (.catalog (.text fault.flaw (place fault.offset)))
  | .ok (.object members, k) =>
    match Json.readEnd k with
    | .ok _ => .ok ⟨members⟩
    | .error fault => .error (.catalog (.text fault.flaw (place fault.offset)))
  | .ok (v, k) =>
    .error (.catalog (.shape (.wrongType v.found "a map") (some (place k.offset))))

/-- A catalog with one more vendor. -/
def push (c : Catalog) (name : String) (node : Json) : Catalog :=
  ⟨c.entries ++ [(name, node)]⟩

/-- Reads every vendor, each with its own outcome. -/
def build (c : Catalog) : List (String × Vendor.Reading) :=
  c.entries.map fun (name, node) => (name, Vendor.read name node)

end Catalog
end ConsentWalker
