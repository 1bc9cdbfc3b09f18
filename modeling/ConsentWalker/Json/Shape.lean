import ConsentWalker.Json.Printer
import ConsentWalker.Text.Quoted
/-!
# JSON — reading values into types

A reader takes a JSON value and gives a typed one or says what is wrong with its shape. `Misfit`
lists the causes, and `Misfit.message` words them.

A record may come as an object or as an array. An object's members are read in the order they
stand in, unknown ones are passed over, and `Absence` says what a member's absence means. An array
gives the fields by position, and may leave out trailing ones that have a default.
-/

namespace ConsentWalker
namespace Json

/-- What a misfit value is, as far as a message tells. -/
inductive Found where
  | null
  | bool (b : Bool)
  | number (n : Number)
  | text (s : String)
  | sequence
  | map
  deriving DecidableEq, Repr

/-- What a value is, as far as a message tells. -/
def found : Json → Found
  | .null => .null
  | .bool b => .bool b
  | .number n => .number n
  | .string s => .text s
  | .array _ => .sequence
  | .object _ => .map

/-- The wording of what was found. -/
def Found.message : Found → String
  | .null => "null"
  | .bool b => "boolean `" ++ (if b then "true" else "false") ++ "`"
  | .number (.integer i) => "integer `" ++ String.ofList (printInt i) ++ "`"
  | .number (.real x) => "floating point `" ++ String.ofList (printNumber (.real x)) ++ "`"
  | .text s => "string " ++ Text.quoted s
  | .sequence => "sequence"
  | .map => "map"

/-- Why a value does not have the shape that is asked for. -/
inductive Misfit where
  | wrongType (found : Found) (expected : String)
  | wrongValue (found : Found) (expected : String)
  | wrongLength (length : Nat) (expected : String)
  | unknownVariant (name : String) (known : List String)
  | missingField (name : String)
  | duplicateField (name : String)
  | noVariant (type : String)
  deriving DecidableEq, Repr

/-- A choice between names, each in backticks. -/
def choiceText : List String → String
  | [] => "there are no variants"
  | [a] => "expected `" ++ a ++ "`"
  | [a, b] => "expected `" ++ a ++ "` or `" ++ b ++ "`"
  | names => "expected one of " ++ ", ".intercalate (names.map fun n => "`" ++ n ++ "`")

/-- The wording of a misfit. -/
def Misfit.message : Misfit → String
  | .wrongType f expected => "invalid type: " ++ f.message ++ ", expected " ++ expected
  | .wrongValue f expected => "invalid value: " ++ f.message ++ ", expected " ++ expected
  | .wrongLength n expected => "invalid length " ++ toString n ++ ", expected " ++ expected
  | .unknownVariant name known => "unknown variant `" ++ name ++ "`, " ++ choiceText known
  | .missingField name => "missing field `" ++ name ++ "`"
  | .duplicateField name => "duplicate field `" ++ name ++ "`"
  | .noVariant type => "data did not match any variant of untagged enum " ++ type

/-- A reader of values. -/
abbrev Reader (α : Type) := Json → Except Misfit α

/-! ## Simple values -/

/-- Reads a truth value. -/
def readBool : Reader Bool
  | .bool b => .ok b
  | v => .error (.wrongType v.found "a boolean")

/-- Reads a text. -/
def readText : Reader String
  | .string s => .ok s
  | v => .error (.wrongType v.found "a string")

/-- Reads a natural number up to a limit; `type` names the range. -/
def readNatural (type : String) (limit : Nat) : Reader Nat
  | .number (.integer i) =>
    if 0 ≤ i ∧ i ≤ limit then .ok i.toNat
    else .error (.wrongValue (.number (.integer i)) type)
  | v => .error (.wrongType v.found type)

/-- Reads a natural number of 64 bits. -/
def readLong : Reader Nat := readNatural "u64" 18446744073709551615

/-- Reads a natural number of 32 bits. -/
def readShort : Reader Nat := readNatural "u32" 4294967295

/-- Reads a double. -/
def readReal : Reader Decimal.Binary
  | .number (.integer i) => .ok (.ofInt i)
  | .number (.real x) => .ok x
  | v => .error (.wrongType v.found "f64")

/-- Reads a value that may be `null`. -/
def readOptional {α : Type} (read : Reader α) : Reader (Option α)
  | .null => .ok none
  | v => (read v).map some

/-- Reads one of a fixed set of names. A name may also come as the only key of an object, with
`null` as its value. -/
def readVariant {α : Type} (variants : List (String × α)) (v : Json) : Except Misfit α :=
  match v with
  | .string s => named s
  | .object [(s, w)] =>
    match named s, w with
    | .ok a, .null => .ok a
    | .ok _, w => .error (.wrongType w.found "unit")
    | .error e, _ => .error e
  | .object _ => .error (.wrongValue .map "map with a single key")
  | v => .error (.wrongType v.found "string or map")
where
  /-- The variant of that name. -/
  named (s : String) : Except Misfit α :=
    match variants.find? (·.1 == s) with
    | some (_, a) => .ok a
    | none => .error (.unknownVariant s (variants.map (·.1)))

/-! ## Records -/

/-- What the absence of a field means. A field with a default may also be left out at the end of
an array; an optional one only in an object. -/
inductive Absence where
  | required
  | optional
  | defaulted
  deriving DecidableEq, Repr

/-- A field of a record under construction. -/
structure Field (ρ : Type) where
  name : String
  absence : Absence
  read : Json → ρ → Except Misfit ρ

/-- What a record of that type and number of fields is called. -/
def recordText (type : String) (size : Nat) : String :=
  "struct " ++ type ++ " with " ++ toString size ++ (if size = 1 then " element" else " elements")

/-- Reads the fields of a record by position, from position `i` on. -/
def readPositions {ρ : Type} (type : String) (size : Nat) :
    Nat → List (Field ρ) → List Json → ρ → Except Misfit ρ
  | _, [], [], r => .ok r
  | i, [], extra, _ => .error (.wrongLength (i + extra.length) "fewer elements in array")
  | i, f :: fs, [], r =>
    if f.absence = .defaulted then readPositions type size (i + 1) fs [] r
    else .error (.wrongLength i (recordText type size))
  | i, f :: fs, v :: vs, r => do
    let r ← f.read v r
    readPositions type size (i + 1) fs vs r

/-- Reads the members of an object that are fields of the record, in the order they stand in. -/
def readNamed {ρ : Type} (fields : List (Field ρ)) :
    List (String × Json) → ρ → Except Misfit ρ
  | [], r => .ok r
  | (name, v) :: rest, r =>
    match fields.find? (·.name == name) with
    | none => readNamed fields rest r
    | some f => do
      let r ← f.read v r
      readNamed fields rest r

/-- **Reads a record** from an object or an array, starting from its defaults. -/
def readRecord {ρ : Type} (type : String) (fields : List (Field ρ)) (start : ρ) : Reader ρ
  | .object members => do
    let r ← readNamed fields members start
    match fields.find? fun f => f.absence = .required && (find? f.name members).isNone with
    | some f => throw (.missingField f.name)
    | none => return r
  | .array items => readPositions type fields.length 0 fields items start
  | v => .error (.wrongType v.found ("struct " ++ type))

end Json
end ConsentWalker
