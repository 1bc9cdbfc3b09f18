import ConsentWalker.Json.Printer
import ConsentWalker.Text.Digit
/-!
# JSON — reading text

Reads one value from a text and says where a text goes wrong. A reader holds the rest of the text
and how many bytes lie before it; the first fault ends the reading. Values may be nested 127 deep,
and that depth is what `value` recurs on.

Numbers outside the integers are read as a significand of at most 64 bits and a power of ten, with
one rounding for each factor: `scaleByTen` says which.
-/

namespace ConsentWalker
namespace Json

/-- What can be wrong with a text. -/
inductive Flaw where
  | endInList
  | endInObject
  | endInString
  | endInValue
  | noColon
  | noListSeparator
  | noObjectSeparator
  | misspelledWord
  | noValue
  | badEscape
  | badNumber
  | numberTooLarge
  | controlInString
  | keyNotString
  | loneSurrogate
  | trailingComma
  | trailingText
  | unfinishedSurrogate
  | tooDeep
  deriving DecidableEq, Repr

/-- The wording of a flaw. -/
def Flaw.message : Flaw → String
  | .endInList => "EOF while parsing a list"
  | .endInObject => "EOF while parsing an object"
  | .endInString => "EOF while parsing a string"
  | .endInValue => "EOF while parsing a value"
  | .noColon => "expected `:`"
  | .noListSeparator => "expected `,` or `]`"
  | .noObjectSeparator => "expected `,` or `\x7d`"
  | .misspelledWord => "expected ident"
  | .noValue => "expected value"
  | .badEscape => "invalid escape"
  | .badNumber => "invalid number"
  | .numberTooLarge => "number out of range"
  | .controlInString => "control character (\\u0000-\\u001F) found while parsing a string"
  | .keyNotString => "key must be a string"
  | .loneSurrogate => "lone leading surrogate in hex escape"
  | .trailingComma => "trailing comma"
  | .trailingText => "trailing characters"
  | .unfinishedSurrogate => "unexpected end of hex escape"
  | .tooDeep => "recursion limit exceeded"

/-- A flaw and how many bytes of the text had been read when it showed. -/
structure Fault where
  flaw : Flaw
  offset : Nat
  deriving DecidableEq, Repr

/-- The rest of a text, and how many bytes precede it. -/
structure Cursor where
  rest : List Char
  offset : Nat := 0

/-- A line and a column, both counted from the bytes of the text. -/
structure Position where
  line : Nat
  column : Nat
  deriving DecidableEq, Repr

namespace Position

/-- The position after so many bytes of a text. A line feed starts a line at column zero. -/
def after (offset : Nat) : List Char → Position → Position
  | [], p => p
  | c :: cs, p =>
    if offset = 0 then p
    else if c = '\n' then after (offset - 1) cs ⟨p.line + 1, 0⟩
    else if offset < c.utf8Size then ⟨p.line, p.column + offset⟩
    else after (offset - c.utf8Size) cs ⟨p.line, p.column + c.utf8Size⟩

/-- The position after so many bytes of a text. -/
def of (text : List Char) (offset : Nat) : Position := after offset text ⟨1, 0⟩

/-- How a position ends a message. -/
def suffix (p : Position) : String :=
  " at line " ++ toString p.line ++ " column " ++ toString p.column

end Position

namespace Cursor

/-- The cursor past a character. -/
def past (k : Cursor) (c : Char) (rest : List Char) : Cursor := ⟨rest, k.offset + c.utf8Size⟩

/-- A fault where the cursor stands. -/
def fault {α : Type} (k : Cursor) (flaw : Flaw) : Except Fault α := .error ⟨flaw, k.offset⟩

/-- A fault that counts the byte the cursor looks at, if there is one. Of a longer character it
counts the first byte only. -/
def faultAhead {α : Type} (k : Cursor) (flaw : Flaw) : Except Fault α :=
  .error ⟨flaw, if k.rest.isEmpty then k.offset else k.offset + 1⟩

/-- Passes over blanks. -/
def skipBlanks : List Char → Nat → Cursor
  | [], n => ⟨[], n⟩
  | c :: cs, n =>
    if c = ' ' || c = '\n' || c = '\t' || c = '\r' then skipBlanks cs (n + 1) else ⟨c :: cs, n⟩

/-- Passes over blanks. -/
def blanks (k : Cursor) : Cursor := skipBlanks k.rest k.offset

end Cursor

/-- What a reader gives back: a value and the cursor after it. -/
abbrev Read (α : Type) := Except Fault (α × Cursor)

/-- Reads the rest of a word whose first letter has been passed. -/
def readWord (k : Cursor) : List Char → Read Unit
  | [] => .ok ((), k)
  | w :: ws =>
    match k.rest with
    | [] => k.fault .endInValue
    | c :: cs =>
      if c = w then readWord (k.past c cs) ws else k.faultAhead .misspelledWord

/-! ## Strings -/

/-- Reads the four digits of a code unit. Four bytes are taken whatever they are. -/
def readUnit (k : Cursor) : Read Nat :=
  let size := (k.rest.map Char.utf8Size).foldr (· + ·) 0
  if size < 4 then .error ⟨.endInString, k.offset + size⟩
  else
    match k.rest with
    | a :: b :: c :: d :: rest =>
      match Text.hexDigit? a, Text.hexDigit? b, Text.hexDigit? c, Text.hexDigit? d with
      | some a, some b, some c, some d =>
        .ok (((a * 16 + b) * 16 + c) * 16 + d, ⟨rest, k.offset + 4⟩)
      | _, _, _, _ => .error ⟨.badEscape, k.offset + 4⟩
    | _ => .error ⟨.badEscape, k.offset + 4⟩

/-- Reads the second half of a surrogate pair, which has to follow at once. -/
def readPair (high : Nat) (k : Cursor) : Read Char :=
  match k.rest with
  | [] => k.fault .endInString
  | c :: cs =>
    let k₁ : Cursor := ⟨cs, k.offset + 1⟩
    if c ≠ '\\' then k₁.fault .unfinishedSurrogate
    else
      match k₁.rest with
      | [] => k₁.fault .endInString
      | d :: ds =>
        let k₂ : Cursor := ⟨ds, k₁.offset + 1⟩
        if d ≠ 'u' then k₂.fault .unfinishedSurrogate
        else
          match readUnit k₂ with
          | .error e => .error e
          | .ok (low, k₃) =>
            if 0xDC00 ≤ low ∧ low ≤ 0xDFFF then
              .ok (Char.ofNat ((high - 0xD800) * 0x400 + (low - 0xDC00) + 0x10000), k₃)
            else k₃.fault .loneSurrogate

/-- Reads what follows a backslash. -/
def readEscape (k : Cursor) : Read Char :=
  match k.rest with
  | [] => k.fault .endInString
  | c :: cs =>
    let k' := k.past c cs
    match c with
    | '"' => .ok ('"', k')
    | '\\' => .ok ('\\', k')
    | '/' => .ok ('/', k')
    | 'b' => .ok ('\x08', k')
    | 'f' => .ok ('\x0c', k')
    | 'n' => .ok ('\n', k')
    | 'r' => .ok ('\r', k')
    | 't' => .ok ('\t', k')
    | 'u' =>
      match readUnit k' with
      | .error e => .error e
      | .ok (u, k'') =>
        if 0xDC00 ≤ u ∧ u ≤ 0xDFFF then k''.fault .loneSurrogate
        else if 0xD800 ≤ u ∧ u ≤ 0xDBFF then readPair u k''
        else .ok (Char.ofNat u, k'')
    | _ => k.faultAhead .badEscape

/-- Reads a string after its opening mark; `acc` holds the characters so far, last first. -/
def readStringFrom : Nat → List Char → Cursor → Read String
  | 0, _, k => k.fault .endInString
  | fuel + 1, acc, k =>
    match k.rest with
    | [] => k.fault .endInString
    | c :: cs =>
      let k' := k.past c cs
      if c = '"' then .ok (String.ofList acc.reverse, k')
      else if c = '\\' then
        match readEscape k' with
        | .error e => .error e
        | .ok (d, k'') => readStringFrom fuel (d :: acc) k''
      else if c.toNat < 0x20 then k'.fault .controlInString
      else readStringFrom fuel (c :: acc) k'

/-- Reads a string after its opening mark. -/
def readString (k : Cursor) : Read String := readStringFrom (k.rest.length + 1) [] k

/-! ## Numbers -/

/-- A power of ten as a double. -/
def tenPower (n : Nat) : Decimal.Binary := .ofNat (Nat.pow 10 n)

/-- Divides by `1e308` until the exponent is in reach of a single power, then once more. -/
def shrinkByTen : Nat → Decimal.Binary → Nat → Decimal.Binary
  | 0, x, _ => x
  | fuel + 1, x, n =>
    if n ≤ 308 then x.div (tenPower n)
    else if x.isZero then x
    else shrinkByTen fuel (x.div (tenPower 308)) (n - 308)

/-- A significand times a power of ten, with one rounding for the significand and one for each
factor; `none` when it is too large. -/
def scaleByTen (negative : Bool) (significand : Nat) (exponent : Int) : Option Decimal.Binary :=
  let x := Decimal.Binary.ofNat significand
  let unsigned? :=
    if 0 ≤ exponent then
      if exponent ≤ 308 then
        let y := x.mul (tenPower exponent.toNat)
        if y.isFinite then some y else none
      else if x.isZero then some x
      else none
    else some (shrinkByTen (exponent.natAbs / 308 + 1) x exponent.natAbs)
  unsigned?.map fun y => if negative then -y else y

/-- Ends the reading of a number that is not an integer. -/
def finishReal (negative : Bool) (significand : Nat) (exponent : Int) (k : Cursor) : Read Number :=
  match scaleByTen negative significand exponent with
  | some x => .ok (.real x, k)
  | none => k.fault .numberTooLarge

/-- Passes over digits. -/
def skipDigits : List Char → Nat → Cursor
  | [], n => ⟨[], n⟩
  | c :: cs, n => if (Text.digit? c).isSome then skipDigits cs (n + 1) else ⟨c :: cs, n⟩

/-- The largest exponent that is kept as a number. -/
def exponentLimit : Nat := 2147483647

/-- Reads the digits of an exponent. Past the limit the number is zero or too large. -/
def readExponentDigits (negative : Bool) (significand : Nat) (start : Int) (up : Bool) :
    Nat → List Char → Nat → Read Number
  | x, [], n => finishReal negative significand (if up then start + x else start - x) ⟨[], n⟩
  | x, c :: cs, n =>
    match Text.digit? c with
    | none =>
      finishReal negative significand (if up then start + x else start - x) ⟨c :: cs, n⟩
    | some d =>
      if exponentLimit < x * 10 + d then
        if significand ≠ 0 ∧ up then Cursor.fault ⟨cs, n + 1⟩ .numberTooLarge
        else
          .ok (.real (if negative then -Decimal.Binary.zero else .zero), skipDigits cs (n + 1))
      else readExponentDigits negative significand start up (x * 10 + d) cs (n + 1)

/-- Reads an exponent after its letter. -/
def readExponent (negative : Bool) (significand : Nat) (start : Int) (k : Cursor) : Read Number :=
  let (up, k) : Bool × Cursor :=
    match k.rest with
    | '+' :: cs => (true, ⟨cs, k.offset + 1⟩)
    | '-' :: cs => (false, ⟨cs, k.offset + 1⟩)
    | _ => (true, k)
  match k.rest with
  | [] => k.fault .endInValue
  | c :: cs =>
    match Text.digit? c with
    | none => k.faultAhead .badNumber
    | some d => readExponentDigits negative significand start up d cs (k.offset + 1)

/-- Reads an exponent if one follows. -/
def readOptionalExponent (negative : Bool) (significand : Nat) (exponent : Int) (k : Cursor) :
    Read Number :=
  match k.rest with
  | c :: cs =>
    if c = 'e' ∨ c = 'E' then readExponent negative significand exponent (k.past c cs)
    else finishReal negative significand exponent k
  | [] => finishReal negative significand exponent k

/-- The largest significand that is kept. -/
def significandLimit : Nat := 18446744073709551615

/-- Reads the digits after a decimal point; `seen` counts the ones that entered the significand.
Digits past the limit are passed over. -/
def readFraction (negative : Bool) (start : Int) :
    Nat → Nat → List Char → Nat → Read Number
  | significand, seen, [], n =>
    if seen = 0 then Cursor.fault ⟨[], n⟩ .endInValue
    else finishReal negative significand (start - seen) ⟨[], n⟩
  | significand, seen, c :: cs, n =>
    match Text.digit? c with
    | some d =>
      if significandLimit < significand * 10 + d then
        readOptionalExponent negative significand (start - seen) (skipDigits (c :: cs) n)
      else readFraction negative start (significand * 10 + d) (seen + 1) cs (n + 1)
    | none =>
      if seen = 0 then Cursor.faultAhead ⟨c :: cs, n⟩ .badNumber
      else readOptionalExponent negative significand (start - seen) ⟨c :: cs, n⟩

/-- Reads the digits of an integer part that no longer fit the significand. -/
def readLongInteger (negative : Bool) (significand : Nat) :
    Nat → List Char → Nat → Read Number
  | dropped, [], n => finishReal negative significand dropped ⟨[], n⟩
  | dropped, c :: cs, n =>
    if (Text.digit? c).isSome then readLongInteger negative significand (dropped + 1) cs (n + 1)
    else if c = '.' then readFraction negative dropped significand 0 cs (n + 1)
    else readOptionalExponent negative significand dropped ⟨c :: cs, n⟩

/-- Ends the reading of an integer part. An integer that fits stays one; a negative zero does
not. -/
def finishInteger (negative : Bool) (significand : Nat) (k : Cursor) : Read Number :=
  match k.rest with
  | '.' :: cs => readFraction negative 0 significand 0 cs (k.offset + 1)
  | c :: cs =>
    if c = 'e' ∨ c = 'E' then readExponent negative significand 0 (k.past c cs) else whole
  | [] => whole
where
  /-- The integer itself. -/
  whole : Read Number :=
    if ! negative then .ok (.integer significand, k)
    else if significand = 0 ∨ 9223372036854775808 < significand then
      .ok (.real (-Decimal.Binary.ofNat significand), k)
    else .ok (.integer (-significand), k)

/-- Reads the digits of an integer part. -/
def readInteger (negative : Bool) : Nat → List Char → Nat → Read Number
  | significand, [], n => finishInteger negative significand ⟨[], n⟩
  | significand, c :: cs, n =>
    match Text.digit? c with
    | some d =>
      if significandLimit < significand * 10 + d then
        readLongInteger negative significand 0 (c :: cs) n
      else readInteger negative (significand * 10 + d) cs (n + 1)
    | none => finishInteger negative significand ⟨c :: cs, n⟩

/-- Reads a number after its sign. A leading zero stands alone. -/
def readNumber (negative : Bool) (k : Cursor) : Read Number :=
  match k.rest with
  | [] => k.fault .endInValue
  | c :: cs =>
    match Text.digit? c with
    | none => k.faultAhead .badNumber
    | some 0 =>
      match cs with
      | d :: _ =>
        if (Text.digit? d).isSome then Cursor.faultAhead ⟨cs, k.offset + 1⟩ .badNumber
        else finishInteger negative 0 ⟨cs, k.offset + 1⟩
      | [] => finishInteger negative 0 ⟨cs, k.offset + 1⟩
    | some d => readInteger negative d cs (k.offset + 1)

/-! ## Values -/

/-- Whether another element follows in a list, or its end. -/
def nextItem (first : Bool) (k : Cursor) : Read Bool :=
  let k := k.blanks
  match k.rest with
  | [] => k.faultAhead .endInList
  | ']' :: cs => .ok (false, k.past ']' cs)
  | c :: cs =>
    if first then .ok (true, k)
    else if c = ',' then
      let k := (k.past c cs).blanks
      match k.rest with
      | [] => k.faultAhead .endInValue
      | ']' :: _ => k.faultAhead .trailingComma
      | _ => .ok (true, k)
    else k.faultAhead .noListSeparator

/-- Reads the elements of a list by a reader of values. -/
def readItems (value : Cursor → Read Json) :
    Nat → Bool → Cursor → Except Fault (List Json × Cursor)
  | 0, _, k => k.fault .endInList
  | fuel + 1, first, k => do
    let (more, k) ← nextItem first k
    if more then
      let (v, k) ← value k
      let (vs, k) ← readItems value fuel false k
      return (v :: vs, k)
    else return ([], k)

/-- Whether another key follows in an object, or its end. -/
def nextKey (first : Bool) (k : Cursor) : Read Bool :=
  let k := k.blanks
  match k.rest with
  | [] => k.faultAhead .endInObject
  | '\x7d' :: cs => .ok (false, k.past '\x7d' cs)
  | c :: cs =>
    if first then if c = '"' then .ok (true, k) else k.faultAhead .keyNotString
    else if c = ',' then
      let k := (k.past c cs).blanks
      match k.rest with
      | [] => k.faultAhead .endInValue
      | '"' :: _ => .ok (true, k)
      | '\x7d' :: _ => k.faultAhead .trailingComma
      | _ => k.faultAhead .keyNotString
    else k.faultAhead .noObjectSeparator

/-- Passes over the colon after a key. -/
def readColon (k : Cursor) : Read Unit :=
  let k := k.blanks
  match k.rest with
  | [] => k.faultAhead .endInObject
  | ':' :: cs => .ok ((), k.past ':' cs)
  | _ => k.faultAhead .noColon

/-- Reads the members of an object by a reader of values. A repeated name keeps its first position
and its last value. -/
def readMembers (value : Cursor → Read Json) :
    Nat → Bool → List (String × Json) → Cursor → Except Fault (List (String × Json) × Cursor)
  | 0, _, _, k => k.fault .endInObject
  | fuel + 1, first, members, k => do
    let (more, k) ← nextKey first k
    if more then
      let (name, k) ← readString { k with rest := k.rest.drop 1, offset := k.offset + 1 }
      let (_, k) ← readColon k
      let (v, k) ← value k
      readMembers value fuel false (put name v members) k
    else return (members, k)

/-- **Reads a value** that may hold containers fewer than `depth` deep. -/
def value : Nat → Cursor → Except Fault (Json × Cursor)
  | 0, k => k.faultAhead .tooDeep
  | depth + 1, k => do
    let k := k.blanks
    match k.rest with
    | [] => k.faultAhead .endInValue
    | c :: cs =>
      let past := k.past c cs
      match c with
      | 'n' => let (_, k) ← readWord past ['u', 'l', 'l']; return (.null, k)
      | 't' => let (_, k) ← readWord past ['r', 'u', 'e']; return (.bool true, k)
      | 'f' => let (_, k) ← readWord past ['a', 'l', 's', 'e']; return (.bool false, k)
      | '-' => let (n, k) ← readNumber true past; return (.number n, k)
      | '"' => let (s, k) ← readString past; return (.string s, k)
      | '[' =>
        if depth = 0 then k.faultAhead .tooDeep
        else
          let (vs, k) ← readItems (value depth) (past.rest.length + 1) true past
          return (.array vs, k)
      | '\x7b' =>
        if depth = 0 then k.faultAhead .tooDeep
        else
          let (ms, k) ← readMembers (value depth) (past.rest.length + 1) true [] past
          return (.object ms, k)
      | _ =>
        if (Text.digit? c).isSome then
          let (n, k) ← readNumber false k
          return (.number n, k)
        else k.faultAhead .noValue

/-- How deep a text may be nested, one more than the deepest value. -/
def depthLimit : Nat := 128

/-- Nothing but blanks may follow a value. -/
def readEnd (k : Cursor) : Read Unit :=
  let k := k.blanks
  if k.rest.isEmpty then .ok ((), k) else k.faultAhead .trailingText

/-- Reads the one value a text holds. -/
def parse (text : String) : Except Fault Json := do
  let (v, k) ← value depthLimit ⟨text.toList, 0⟩
  let _ ← readEnd k
  return v

end Json
end ConsentWalker
