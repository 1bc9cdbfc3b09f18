import ConsentWalker.Decimal.Written
/-!
# JSON — values

JSON values whose objects keep the order of their members. Whole numbers between `-2^63` and
`2^64 - 1` stay integers; every other number is a double. `get?` looks a member up by name, and
`sizeOf_get?_lt` is what readers that follow members down a value recurse on.
-/

namespace ConsentWalker

/-- A JSON number. -/
inductive Json.Number where
  | integer (i : Int)
  | real (x : Decimal.Binary)
  deriving DecidableEq, Repr, Inhabited

/-- A JSON value. Members stand in the order they were written in. -/
inductive Json where
  | null
  | bool (b : Bool)
  | number (n : Json.Number)
  | string (s : String)
  | array (items : List Json)
  | object (members : List (String × Json))
  deriving Repr, Inhabited

namespace Json

/-- A natural number as a JSON value. -/
def nat (n : Nat) : Json := .number (.integer n)

/-- A double as a JSON value. -/
def real (x : Decimal.Binary) : Json := .number (.real x)

/-- The value of an optional one, `null` when it is absent. -/
def orNull (v : Option Json) : Json := v.getD .null

/-- Puts a member: a name that is there already keeps its position and gets the new value. -/
def put (name : String) (v : Json) : List (String × Json) → List (String × Json)
  | [] => [(name, v)]
  | (k, w) :: rest => if k = name then (k, v) :: rest else (k, w) :: put name v rest

/-- The value of a member in a list of members. -/
def find? (name : String) : List (String × Json) → Option Json
  | [] => none
  | (k, w) :: rest => if k = name then some w else find? name rest

/-- The member of that name, if the value is an object that has one. -/
def get? (name : String) : Json → Option Json
  | .object members => find? name members
  | _ => none

/-- The elements of an array. -/
def items? : Json → Option (List Json)
  | .array items => some items
  | _ => none

/-- The text of a string value. -/
def string? : Json → Option String
  | .string s => some s
  | _ => none

/-- Whether a value is `null`. -/
def isNull : Json → Bool
  | .null => true
  | _ => false

/-- The member of that name when it is there and not `null`. -/
def present? (name : String) (v : Json) : Option Json :=
  match v.get? name with
  | some .null => none
  | other => other

/-! ## Members are smaller -/

theorem sizeOf_find?_lt {name : String} {members : List (String × Json)} {w : Json}
    (h : find? name members = some w) : sizeOf w < sizeOf members := by
  induction members with
  | nil => simp [find?] at h
  | cons m rest ih =>
    obtain ⟨k, v⟩ := m
    simp only [find?] at h
    split at h
    · cases h
      simp only [List.cons.sizeOf_spec, Prod.mk.sizeOf_spec]
      omega
    · have := ih h
      simp only [List.cons.sizeOf_spec]
      omega

/-- **A member is smaller than the value it stands in.** -/
theorem sizeOf_get?_lt {name : String} {v w : Json} (h : v.get? name = some w) :
    sizeOf w < sizeOf v := by
  cases v with
  | object members =>
    have := sizeOf_find?_lt h
    simp only [Json.object.sizeOf_spec]
    omega
  | _ => simp [get?] at h

theorem get?_of_present? {name : String} {v w : Json} (h : v.present? name = some w) :
    v.get? name = some w := by
  unfold present? at h
  split at h
  · simp at h
  · exact h

theorem sizeOf_present?_lt {name : String} {v w : Json} (h : v.present? name = some w) :
    sizeOf w < sizeOf v :=
  sizeOf_get?_lt (get?_of_present? h)

/-- An element is smaller than the array it stands in. -/
theorem sizeOf_lt_of_mem_items {v w : Json} {items : List Json} (h : v.items? = some items)
    (hw : w ∈ items) : sizeOf w < sizeOf v := by
  cases v with
  | array xs =>
    cases h
    have := List.sizeOf_lt_of_mem hw
    simp only [Json.array.sizeOf_spec]
    omega
  | _ => simp [items?] at h

end Json
end ConsentWalker
