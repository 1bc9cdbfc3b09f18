import ConsentWalker.Decimal.Written
import ConsentWalker.Text.Blank
import ConsentWalker.Text.Digit
import ConsentWalker.Text.Quoted
/-!
# CSS — tokens

The tokens a selector is made of, and how a text is cut into them. `Token.scan?` takes the first
token of a text, `tokens` all of them. Comments separate tokens and are dropped.

`Piece.nest` groups the tokens by their brackets. A bracket that is never closed runs to the end,
and a closing bracket that fits no open one stays a token.
-/

namespace ConsentWalker
namespace Css

open Decimal (Binary)

/-- A number as written: whether it has a sign, its value, and the integer it is when it has
neither point nor exponent. A percentage has the hundredth part as its value. -/
structure Numeral where
  signed : Bool
  value : Binary
  integer? : Option Int
  deriving DecidableEq, Repr, Inhabited

/-- A token of a style sheet. -/
inductive Token where
  | ident (s : String)
  | atKeyword (s : String)
  | hash (s : String)
  | idHash (s : String)
  | quoted (s : String)
  | badString (s : String)
  | url (s : String)
  | badUrl (s : String)
  | delim (c : Char)
  | number (n : Numeral)
  | percentage (n : Numeral)
  | dimension (n : Numeral) (unit : String)
  | whitespace (s : String)
  | colon
  | semicolon
  | comma
  | includes
  | dashMatch
  | starts
  | ends
  | substring
  | commentOpen
  | commentClose
  | function (name : String)
  | parenthesis
  | square
  | curly
  | closeParenthesis
  | closeSquare
  | closeCurly
  deriving DecidableEq, Repr, Inhabited

namespace Token

/-- The token that closes what a token opens. -/
def closer? : Token → Option Token
  | .function _ | .parenthesis => some .closeParenthesis
  | .square => some .closeSquare
  | .curly => some .closeCurly
  | _ => none

/-- Tokens that are never right. -/
def isError : Token → Bool
  | .badString _ | .badUrl _ | .closeParenthesis | .closeSquare | .closeCurly => true
  | _ => false

/-- Whether a token is white space. -/
def isBlank : Token → Bool
  | .whitespace _ => true
  | _ => false

/-- A number in a message. A sign is shown whenever it was written. -/
def numeralText (n : Numeral) : String :=
  let digits := Decimal.Layout.plain.write n.value
  if n.signed then (if n.value.isPositive then "+" else "-") ++ digits else digits

/-- How a token stands in a message. -/
def text : Token → String
  | .ident s => s
  | .atKeyword s => "@" ++ s
  | .hash s | .idHash s => "#" ++ s
  | .quoted s => "\"" ++ s ++ "\""
  | .badString s => "<Bad String " ++ Text.quoted s ++ ">"
  | .url s => s
  | .badUrl s => "<Bad URL " ++ Text.quoted s ++ ">"
  | .delim c => String.singleton c
  | .number n => numeralText n
  | .percentage n => numeralText n ++ "%"
  | .dimension n unit => numeralText n ++ unit
  | .whitespace _ => " "
  | .colon => ":"
  | .semicolon => ";"
  | .comma => ","
  | .includes => "~="
  | .dashMatch => "|="
  | .starts => "^="
  | .ends => "$="
  | .substring => "*="
  | .commentOpen => "<!--"
  | .commentClose => "-->"
  | .function name => name ++ "()"
  | .parenthesis => "<("
  | .square => "<["
  | .curly => "<\x7b"
  | .closeParenthesis => "<)"
  | .closeSquare => "<]"
  | .closeCurly => "<\x7d"

end Token

/-! ## Cutting a text -/

/-- Line endings of a style sheet. -/
def isNewline (c : Char) : Bool := c == '\n' || c == '\r' || c == '\x0c'

/-- Characters outside ASCII. -/
def isForeign (c : Char) : Bool := 0x80 ≤ c.toNat

/-- Characters a name may start with; a null stands for the replacement character. -/
def startsName (c : Char) : Bool :=
  c.isAlpha || c == '_' || c == '\x00' || isForeign c

/-- Characters of a name. -/
def isNameChar (c : Char) : Bool := startsName c || c.isDigit || c == '-'

/-- Whether a backslash before this text is an escape. -/
def escapes : List Char → Bool
  | c :: _ => ! isNewline c
  | [] => true

/-- Whether a name starts here. -/
def startsIdent : List Char → Bool
  -- behind a dash a backslash counts whatever follows it
  | '-' :: '\\' :: _ => true
  | '-' :: c :: _ => startsName c || c == '-'
  | '\\' :: rest => escapes rest
  | c :: _ => startsName c
  | [] => false

/-- Whether a number starts here. -/
def startsNumber : List Char → Bool
  | '.' :: c :: _ => c.isDigit
  | c :: rest =>
    c.isDigit ||
      ((c == '+' || c == '-') &&
        match rest with
        | '.' :: d :: _ => d.isDigit
        | d :: _ => d.isDigit
        | [] => false)
  | [] => false

/-- Reads at most so many hexadecimal digits. -/
def takeHex : Nat → Nat → List Char → Nat × List Char
  | 0, n, cs => (n, cs)
  | _ + 1, n, [] => (n, [])
  | k + 1, n, c :: cs =>
    match Text.hexDigit? c with
    | some d => takeHex k (n * 16 + d) cs
    | none => (n, c :: cs)

/-- Drops the one white space that may end an escape. -/
def dropOneSpace : List Char → List Char
  | '\r' :: '\n' :: cs => cs
  | c :: cs => if c = ' ' ∨ c = '\t' ∨ isNewline c then cs else c :: cs
  | [] => []

/-- Reads what follows the backslash of an escape. -/
def takeEscape : List Char → Char × List Char
  | [] => (Text.replacement, [])
  | c :: cs =>
    if (Text.hexDigit? c).isSome then
      let (n, rest) := takeHex 6 0 (c :: cs)
      (Text.coded n, dropOneSpace rest)
    else (Text.shownNull c, cs)

/-- Reads the characters of a name. -/
def takeName : Nat → List Char → List Char × List Char
  | 0, cs => ([], cs)
  | _ + 1, [] => ([], [])
  | fuel + 1, c :: cs =>
    if c = '\\' then
      if escapes cs then
        let (d, rest) := takeEscape cs
        let (name, rest) := takeName fuel rest
        (d :: name, rest)
      else ([], c :: cs)
    else if isNameChar c then
      let (name, rest) := takeName fuel cs
      (Text.shownNull c :: name, rest)
    else ([], c :: cs)

/-- Reads a name. -/
def nameAt (cs : List Char) : String × List Char :=
  let (name, rest) := takeName (cs.length + 1) cs
  (String.ofList name, rest)

/-- Reads a string up to its mark. A line ending spoils it and is not passed. -/
def takeString (mark : Char) : Nat → List Char → List Char × Bool × List Char
  | 0, cs => ([], true, cs)
  | _ + 1, [] => ([], true, [])
  | fuel + 1, c :: cs =>
    if c = mark then ([], true, cs)
    else if isNewline c then ([], false, c :: cs)
    else if c = '\\' then
      match cs with
      | [] => ([], true, [])
      | '\r' :: '\n' :: rest => takeString mark fuel rest
      | d :: rest =>
        if isNewline d then takeString mark fuel rest
        else
          let (e, rest) := takeEscape (d :: rest)
          let (s, good, rest) := takeString mark fuel rest
          (e :: s, good, rest)
    else
      let (s, good, rest) := takeString mark fuel cs
      (Text.shownNull c :: s, good, rest)

/-- Passes over a comment after its opening. -/
def dropComment : List Char → List Char
  | [] => []
  | '*' :: '/' :: cs => cs
  | _ :: cs => dropComment cs

/-- Passes over the rest of a spoilt address, up to the parenthesis that ends it. -/
def toUrlEnd : List Char → List Char
  | [] => []
  | ')' :: cs => ')' :: cs
  | '\\' :: ')' :: cs | '\\' :: '\\' :: cs => toUrlEnd cs
  | _ :: cs => toUrlEnd cs

/-- Reads an address that is not quoted and starts with the text `start`. A spoilt one stands as it
was written. -/
def takeUrl (start : List Char) : Nat → List Char → List Char → Token × List Char
  | 0, acc, cs => (.url (String.ofList acc.reverse), cs)
  | _ + 1, acc, [] => (.url (String.ofList acc.reverse), [])
  | fuel + 1, acc, c :: cs =>
    let spoilt (behind : List Char) : Token × List Char :=
      let rest := toUrlEnd behind
      (.badUrl (String.ofList (start.take (start.length - rest.length))), rest.tail)
    if c = ')' then (.url (String.ofList acc.reverse), cs)
    else if Text.isMarkupSpace c then
      match cs.dropWhile Text.isMarkupSpace with
      | [] => (.url (String.ofList acc.reverse), [])
      | ')' :: rest => (.url (String.ofList acc.reverse), rest)
      -- the character that spoils the address is passed whatever it is
      | _ :: rest => spoilt rest
    else if c = '"' ∨ c = '\'' ∨ c = '(' ∨ (c.toNat < 0x20 ∧ c ≠ '\x00') ∨ c.toNat = 0x7f then
      spoilt cs
    else if c = '\\' then
      if escapes cs then
        let (d, rest) := takeEscape cs
        takeUrl start fuel (d :: acc) rest
      else spoilt cs
    else takeUrl start fuel (Text.shownNull c :: acc) cs

/-- Reads a name and what a following parenthesis makes of it. -/
def identLike (cs : List Char) : Token × List Char :=
  let (name, rest) := nameAt cs
  match rest with
  | '(' :: rest =>
    if Text.sameUpToCase name "url" then
      match rest.dropWhile Text.isMarkupSpace with
      | '"' :: _ | '\'' :: _ => (.function name, rest)
      | inner => takeUrl inner (inner.length + 1) [] inner
    else (.function name, rest)
  | _ => (.ident name, rest)

/-- Reads an exponent if one follows: its value, and the rest. -/
def takeExponent : List Char → Option (Int × List Char)
  | e :: cs =>
    if e = 'e' ∨ e = 'E' then
      let (sign, ds) : Int × List Char :=
        match cs with
        | '+' :: ds => (1, ds)
        | '-' :: ds => (-1, ds)
        | ds => (1, ds)
      match ds.takeWhile Char.isDigit with
      | [] => none
      | run => some (sign * Nat.ofDigitChars 10 run 0, ds.dropWhile Char.isDigit)
    else none
  | [] => none

/-- The nearest integer of 32 bits. -/
def clampInt (i : Int) : Int := max (-2147483648) (min 2147483647 i)

/-- A digit as a double. -/
def digitValue (d : Char) : Binary := .ofNat ((Text.digit? d).getD 0)

/-- The double that the digits before a point add up to, one after the other. -/
def wholeValue (ds : List Char) : Binary :=
  ds.foldl (fun x d => x * .ofNat 10 + digitValue d) .zero

/-- The double that the digits behind a point add up to, each with a tenth of the weight of the one
before it. -/
def fractionValue (ds : List Char) : Binary :=
  let tenth : Binary := .ofRatio .double false 1 10
  (ds.foldl (fun (x, weight) d => (x + digitValue d * weight, weight * tenth)) (.zero, tenth)).1

/-- The double nearest to a power of ten. Past four hundred it is infinite or zero. -/
def tenTo (x : Int) : Binary :=
  if 400 < x then .infinite false
  else if x < -400 then .zero
  else .ofRatio .double false (Nat.pow 10 x.toNat) (Nat.pow 10 (-x).toNat)

/-- Reads a number, a percentage or a dimension. -/
def numeric (cs : List Char) : Token × List Char :=
  let (signed, negative, cs) : Bool × Bool × List Char :=
    match cs with
    | '-' :: rest => (true, true, rest)
    | '+' :: rest => (true, false, rest)
    | _ => (false, false, cs)
  let whole := cs.takeWhile Char.isDigit
  let rest := cs.dropWhile Char.isDigit
  let (fraction, rest) : List Char × List Char :=
    match rest with
    | '.' :: more =>
      if (more.takeWhile Char.isDigit).isEmpty then ([], rest)
      else (more.takeWhile Char.isDigit, more.dropWhile Char.isDigit)
    | _ => ([], rest)
  let (exponent?, rest) : Option Int × List Char :=
    match takeExponent rest with
    | some (x, rest) => (some x, rest)
    | none => (none, rest)
  let magnitude := wholeValue whole + fractionValue fraction
  let signedValue := if negative then -magnitude else magnitude
  let value := match exponent? with
    | some x => signedValue * tenTo x
    | none => signedValue
  let integer? :=
    if exponent?.isNone && fraction.isEmpty then
      let n : Int := Nat.ofDigitChars 10 whole 0
      some (clampInt (if negative then -n else n))
    else none
  let n : Numeral := { signed, value := value.rounded .single, integer? }
  match rest with
  | '%' :: rest => (.percentage { n with value := (value / .ofNat 100).rounded .single }, rest)
  | _ =>
    if startsIdent rest then
      let (unit, rest) := nameAt rest
      (.dimension n unit, rest)
    else (.number n, rest)

/-- The two-character token a character starts, or the character itself. -/
def paired (c : Char) (t : Token) : List Char → Token × List Char
  | '=' :: rest => (t, rest)
  | rest => (.delim c, rest)

/-- The string a mark starts. -/
def stringAt (mark : Char) (cs : List Char) : Token × List Char :=
  let (s, good, rest) := takeString mark (cs.length + 1) cs
  (if good then .quoted (String.ofList s) else .badString (String.ofList s), rest)

/-- **The first token of a text**; `none` for a comment, which is passed over. -/
def Token.scan? (c : Char) (cs : List Char) : Option Token × List Char :=
  let give (r : Token × List Char) : Option Token × List Char := (some r.1, r.2)
  if Text.isMarkupSpace c then
    let run := (c :: cs).takeWhile Text.isMarkupSpace
    (some (.whitespace (String.ofList run)), (c :: cs).dropWhile Text.isMarkupSpace)
  else if startsNumber (c :: cs) then give (numeric (c :: cs))
  else
    match c, cs with
    | '"', _ | '\'', _ => give (stringAt c cs)
    | '#', _ =>
      if startsIdent cs then
        let (name, rest) := nameAt cs
        (some (.idHash name), rest)
      else
        match cs with
        | d :: _ =>
          if d.isDigit || d == '-' then
            let (name, rest) := nameAt cs
            (some (.hash name), rest)
          else (some (.delim '#'), cs)
        | [] => (some (.delim '#'), cs)
    | '$', _ => give (paired '$' .ends cs)
    | '*', _ => give (paired '*' .substring cs)
    | '^', _ => give (paired '^' .starts cs)
    | '|', _ => give (paired '|' .dashMatch cs)
    | '~', _ => give (paired '~' .includes cs)
    | '(', _ => (some .parenthesis, cs)
    | ')', _ => (some .closeParenthesis, cs)
    | '[', _ => (some .square, cs)
    | ']', _ => (some .closeSquare, cs)
    | '\x7b', _ => (some .curly, cs)
    | '\x7d', _ => (some .closeCurly, cs)
    | ',', _ => (some .comma, cs)
    | ':', _ => (some .colon, cs)
    | ';', _ => (some .semicolon, cs)
    | '-', '-' :: '>' :: rest => (some .commentClose, rest)
    | '<', '!' :: '-' :: '-' :: rest => (some .commentOpen, rest)
    | '/', '*' :: rest => (none, dropComment rest)
    | '@', _ =>
      if startsIdent cs then
        let (name, rest) := nameAt cs
        (some (.atKeyword name), rest)
      else (some (.delim '@'), cs)
    | _, _ => if startsIdent (c :: cs) then give (identLike (c :: cs)) else (some (.delim c), cs)

/-- The tokens of a text, at most `fuel` of them. -/
def tokensFrom : Nat → List Char → List Token
  | 0, _ => []
  | _ + 1, [] => []
  | fuel + 1, c :: cs =>
    match Token.scan? c cs with
    | (some t, rest) => t :: tokensFrom fuel rest
    | (none, rest) => tokensFrom fuel rest

/-- The tokens of a text. -/
def tokens (s : String) : List Token := tokensFrom s.toList.length s.toList

/-! ## Brackets -/

/-- A token, or what stands between brackets. -/
inductive Piece where
  | token (t : Token)
  | block (opening : Token) (inner : List Piece)
  deriving Repr, Inhabited

namespace Piece

/-- The token a piece starts with. -/
def head : Piece → Token
  | .token t => t
  | .block t _ => t

/-- Whether a piece is white space. -/
def isBlank (p : Piece) : Bool := p.head.isBlank

/-- Groups tokens up to a closing bracket, if one is waited for, or to the end. -/
def nestFrom : Nat → Option Token → List Token → List Piece × List Token
  | 0, _, ts => ([], ts)
  | _ + 1, _, [] => ([], [])
  | fuel + 1, closing, t :: ts =>
    if some t = closing then ([], ts)
    else
      match t.closer? with
      | some c =>
        let (inner, ts) := nestFrom fuel (some c) ts
        let (rest, ts) := nestFrom fuel closing ts
        (.block t inner :: rest, ts)
      | none =>
        let (rest, ts) := nestFrom fuel closing ts
        (.token t :: rest, ts)

/-- Groups the tokens of a text by their brackets. -/
def nest (ts : List Token) : List Piece := (nestFrom (ts.length + 1) none ts).1

mutual

/-- How deep the brackets of a piece are nested. -/
def depth : Piece → Nat
  | .token _ => 0
  | .block _ inner => depthAll inner + 1

/-- How deep the brackets of some pieces are nested. -/
def depthAll : List Piece → Nat
  | [] => 0
  | p :: ps => max (depth p) (depthAll ps)

end

end Piece
end Css
end ConsentWalker
