import ConsentWalker.Json.Shape
import ConsentWalker.Text.Lowercase
import ConsentWalker.Text.Blank
/-!
# Rules — queries

A query locates elements: a selector narrowed by filters, resolved inside the matches of a parent
query when it has one. `Query.toJson` writes a query and `Query.read` reads one; a style filter may
be given alone or in a list, under either of two names.
-/

namespace ConsentWalker

/-- Keeps an element whose text holds one of the needles, whatever the case. A single needle and a
list of one are told apart, because they are written differently. -/
inductive TextFilter where
  | one (needle : String)
  | any (needles : List String)
  deriving DecidableEq, Repr, Inhabited

namespace TextFilter

/-- The needles of a filter. -/
def needles : TextFilter → List String
  | .one needle => [needle]
  | .any needles => needles

/-- Whether some needle occurs in the text once both are lower-cased. -/
def accepts (f : TextFilter) (text : String) : Bool :=
  let haystack := Text.lower text.toList
  f.needles.any fun needle => Text.occursIn (Text.lower needle.toList) haystack

/-- A filter as a text or a list of texts. -/
def toJson : TextFilter → Json
  | .one needle => .string needle
  | .any needles => .array (needles.map .string)

/-- Reads a filter from a text or a list of texts. -/
def read (v : Json) : Except Json.Misfit TextFilter :=
  match v with
  | .string s => .ok (.one s)
  | .array items =>
    match items.mapM Json.readText with
    | .ok needles => .ok (.any needles)
    | .error _ => .error (.noVariant "TextFilter")
  | _ => .error (.noVariant "TextFilter")

end TextFilter

/-- Keeps an element whose style property has the value, or has another one. -/
structure StyleFilter where
  option : String := ""
  value : String := ""
  negated : Bool := false
  deriving DecidableEq, Repr, Inhabited

namespace StyleFilter

/-- Keeps elements with that value. -/
def equals (option value : String) : StyleFilter := { option, value }

/-- Keeps elements with another value. -/
def notEquals (option value : String) : StyleFilter := { option, value, negated := true }

/-- Whether the filter keeps an element with that value. -/
def accepts (f : StyleFilter) (actual : String) : Bool := (actual == f.value) != f.negated

/-- A filter as an object. -/
def toJson (f : StyleFilter) : Json :=
  .object [("option", .string f.option), ("value", .string f.value), ("negated", .bool f.negated)]

/-- Reads a filter; it is plain when nothing is said about negation. -/
def read : Json.Reader StyleFilter :=
  Json.readRecord "StyleFilter"
    [{ name := "option", absence := .required,
       read := fun v f => do return { f with option := ← Json.readText v } },
     { name := "value", absence := .required,
       read := fun v f => do return { f with value := ← Json.readText v } },
     { name := "negated", absence := .defaulted,
       read := fun v f => do return { f with negated := ← Json.readBool v } }]
    {}

/-- Reads the filters of a query: nothing, one filter, or a list of them. -/
def readSome : Json.Reader (List StyleFilter)
  | .null => .ok []
  | v =>
    match read v with
    | .ok f => .ok [f]
    | .error _ =>
      match v with
      | .array items =>
        match items.mapM read with
        | .ok fs => .ok fs
        | .error _ => .error (.noVariant "OneOrMany")
      | _ => .error (.noVariant "OneOrMany")

end StyleFilter

/-- Where elements are to be found. -/
structure Query where
  selector : String := ""
  textFilter : Option TextFilter := none
  styleFilters : List StyleFilter := []
  /-- `true` keeps rendered elements, `false` the others. -/
  displayFilter : Option Bool := none
  /-- `true` keeps elements inside a nested page, `false` those outside. -/
  iframeFilter : Option Bool := none
  childFilter : Option Query := none
  parent : Option Query := none
  deriving Inhabited, Repr

namespace Query

/-- The query for a selector alone. -/
def new (selector : String) : Query := { selector }

/-- Asks for a text. -/
def withText (q : Query) (f : TextFilter) : Query := { q with textFilter := some f }

/-- Asks for one more style. -/
def withStyle (q : Query) (f : StyleFilter) : Query :=
  { q with styleFilters := q.styleFilters ++ [f] }

/-- Asks whether an element is rendered. -/
def displayed (q : Query) (b : Bool) : Query := { q with displayFilter := some b }

/-- Asks whether an element is in a nested page. -/
def inIframe (q : Query) (b : Bool) : Query := { q with iframeFilter := some b }

/-- Asks for a match of another query inside. -/
def withChild (q child : Query) : Query := { q with childFilter := some child }

/-- Resolves inside the matches of another query. -/
def within (q parent : Query) : Query := { q with parent := some parent }

/-- A member of an object that is written only when there is something to write. -/
def memberOf {α : Type} (name : String) (write : α → Json) : Option α → List (String × Json)
  | none => []
  | some a => [(name, write a)]

/-- A query as an object. Absent parts are left out. -/
def toJson : Query → Json
  | ⟨selector, textFilter, styleFilters, displayFilter, iframeFilter, childFilter, parent⟩ =>
    .object
      ([("selector", .string selector)] ++
        memberOf "textFilter" TextFilter.toJson textFilter ++
        (if styleFilters.isEmpty then []
          else [("styleFilters", .array (styleFilters.map StyleFilter.toJson))]) ++
        memberOf "displayFilter" Json.bool displayFilter ++
        memberOf "iframeFilter" Json.bool iframeFilter ++
        (match childFilter with
          | none => []
          | some q => [("childFilter", toJson q)]) ++
        (match parent with
          | none => []
          | some q => [("parent", toJson q)]))

/-! ## Reading -/

/-- The fields of a query, in their order. -/
inductive Part where
  | selector | textFilter | styleFilters | displayFilter | iframeFilter | childFilter | parent
  deriving DecidableEq, Repr

namespace Part

/-- All fields in their order. -/
def all : List Part :=
  [.selector, .textFilter, .styleFilters, .displayFilter, .iframeFilter, .childFilter, .parent]

/-- The name of a field. -/
def name : Part → String
  | .selector => "selector"
  | .textFilter => "textFilter"
  | .styleFilters => "styleFilters"
  | .displayFilter => "displayFilter"
  | .iframeFilter => "iframeFilter"
  | .childFilter => "childFilter"
  | .parent => "parent"

/-- The field a member's name stands for. One of them has a second name. -/
def ofName? (s : String) : Option Part :=
  if s = "styleFilter" then some .styleFilters else all.find? (·.name == s)

end Part

/-- Sets one field, given what a query inside it reads as. -/
def setPart (q : Query) (p : Part) (v : Json) (inner : Except Json.Misfit Query) :
    Except Json.Misfit Query :=
  match p with
  | .selector => do return { q with selector := ← Json.readText v }
  | .textFilter => do return { q with textFilter := ← Json.readOptional TextFilter.read v }
  | .styleFilters => do return { q with styleFilters := ← StyleFilter.readSome v }
  | .displayFilter => do return { q with displayFilter := ← Json.readOptional Json.readBool v }
  | .iframeFilter => do return { q with iframeFilter := ← Json.readOptional Json.readBool v }
  | .childFilter =>
    if v.isNull then .ok { q with childFilter := none }
    else do return { q with childFilter := some (← inner) }
  | .parent =>
    if v.isNull then .ok { q with parent := none }
    else do return { q with parent := some (← inner) }

mutual

/-- **Reads a query** from an object or an array. -/
def read : Json → Except Json.Misfit Query
  | .object members => readMembers [] {} members
  | .array items => readItems 0 Part.all {} items
  | v => .error (.wrongType v.found "struct QuerySpec")

/-- Reads the members of an object in the order they stand in; `seen` lists the fields so far. -/
def readMembers (seen : List Part) (q : Query) : List (String × Json) → Except Json.Misfit Query
  | [] => if .selector ∈ seen then .ok q else .error (.missingField "selector")
  | (name, v) :: rest =>
    match Part.ofName? name with
    | none => readMembers seen q rest
    | some p =>
      if p ∈ seen then .error (.duplicateField p.name)
      else
        match setPart q p v (read v) with
        | .ok q => readMembers (p :: seen) q rest
        | .error e => .error e

/-- Reads the fields by position. Only the selector has to be there. -/
def readItems (i : Nat) (parts : List Part) (q : Query) : List Json → Except Json.Misfit Query
  | [] =>
    if i = 0 then .error (.wrongLength 0 (Json.recordText "QuerySpec" Part.all.length)) else .ok q
  | v :: rest =>
    match parts with
    | [] => .error (.wrongLength (i + 1 + rest.length) "fewer elements in array")
    | p :: parts =>
      match setPart q p v (read v) with
      | .ok q => readItems (i + 1) parts q rest
      | .error e => .error e

end

end Query
end ConsentWalker
