import ConsentWalker.Css.Token
/-!
# CSS — selectors

What a selector asks of an element. A compound lists tests on one element; a complex selector is a
compound together with the compounds to its left, nearest first, each behind its combinator. Lists
of complex selectors stand inside the functional pseudo-classes.

`Flaw` lists the reasons for which a selector is refused, and `Flaw.message` words them.
-/

namespace ConsentWalker
namespace Css

/-- How two compounds are related. -/
inductive Combinator where
  | descendant | child | nextSibling | laterSibling
  deriving DecidableEq, Repr

/-- How an attribute value is compared. -/
inductive Operator where
  | equal | includes | dashMatch | starts | substring | ends
  deriving DecidableEq, Repr

/-- Which case counts when values are compared. In markup elements some attributes ignore it. -/
inductive CaseRule where
  | sensitive | insensitive | insensitiveInMarkup
  deriving DecidableEq, Repr

/-- A test of an attribute: its presence, or its value. One that is meant everywhere may also stand
in a space apart. -/
structure AttributeTest where
  name : String
  everywhere : Bool
  value : Option (Operator × String × CaseRule)
  deriving DecidableEq, Repr

/-- A test of the position among siblings: `step · n + start` for some `n`. -/
structure Nth where
  step : Int
  start : Int
  fromEnd : Bool
  ofType : Bool
  deriving DecidableEq, Repr

/-- Whether a position, counted from one, is on the grid. -/
def Nth.accepts (n : Nth) (position : Nat) : Bool :=
  let d : Int := position - n.start
  -- a distance that is no integer of 32 bits is not on the grid
  if 2147483647 < d then false
  else if n.step = 0 then d == 0
  else d % n.step == 0 && 0 ≤ d / n.step

mutual

/-- A test of one element. -/
inductive Simple where
  | any
  | never
  | tag (name : String)
  | id (name : String)
  | cls (name : String)
  | attribute (test : AttributeTest)
  | nth (n : Nth)
  | root
  | empty
  /-- The element a relative selector starts from. -/
  | anchor
  | not (selectors : List Complex)
  | is (selectors : List Complex)
  | has (selectors : List Complex)

/-- A compound and the compounds to its left. -/
inductive Complex where
  | mk (subject : List Simple) (left : List Link)

/-- A combinator with the compound to its left. -/
inductive Link where
  | mk (combinator : Combinator) (compound : List Simple)

end

deriving instance Repr for Simple, Complex, Link

instance : Inhabited Complex := ⟨⟨[], []⟩⟩

/-! ## Refusals -/

/-- Why a selector is refused. -/
inductive Flaw where
  | unexpectedToken (t : Token)
  | endOfInput
  | noPseudoName (t : Token)
  | emptySelector
  | danglingCombinator
  | unsupportedPseudo (name : String)
  | unknownNamespace (name : String)
  | noAttributeName (t : Token)
  | noBarInAttribute (t : Token)
  | badAttributeName (t : Token)
  | badAttributeOperator (t : Token)
  | badAttributeValue (t : Token)
  | noClassName (t : Token)
  | badNamespacedName (t : Token)
  | misplaced
  deriving DecidableEq, Repr

/-- A value as a diagnosis lays it out: a word, a name with parts, or a name with named parts. -/
inductive Shown where
  | word (s : String)
  | parts (name : String) (items : List Shown)
  | fields (name : String) (items : List (String × Shown))

namespace Shown

mutual

/-- A laid-out value: every part on a line of its own, indented by four spaces a level. -/
def lay (indent : String) : Shown → String
  | .word s => s
  | .parts name items =>
    name ++ "(\n" ++ layParts (indent ++ "    ") items ++ indent ++ ")"
  | .fields name items =>
    name ++ " \x7b\n" ++ layFields (indent ++ "    ") items ++ indent ++ "\x7d"

/-- The lines of unnamed parts. -/
def layParts (indent : String) : List Shown → String
  | [] => ""
  | v :: rest => indent ++ lay indent v ++ ",\n" ++ layParts indent rest

/-- The lines of named parts. -/
def layFields (indent : String) : List (String × Shown) → String
  | [] => ""
  | (name, v) :: rest => indent ++ name ++ ": " ++ lay indent v ++ ",\n" ++ layFields indent rest

end

/-- A truth value. -/
def bool (b : Bool) : Shown := .word (if b then "true" else "false")

/-- A text between quotation marks. -/
def text (s : String) : Shown := .word (Text.quoted s)

end Shown

/-- Numbers in a diagnosis. -/
def diagnosisLayout : Decimal.Layout := ⟨.single, -4, 16, true, false⟩

/-- The named parts of a number. -/
def Numeral.shown (valueName : String) (n : Numeral) : List (String × Shown) :=
  [("has_sign", .bool n.signed),
   (valueName, .word (diagnosisLayout.write n.value)),
   ("int_value",
     match n.integer? with
     | some i => .parts "Some" [.word (toString i)]
     | none => .word "None")]

/-- A token as a diagnosis lays it out. -/
def Token.shown : Token → Shown
  | .ident s => .parts "Ident" [.text s]
  | .atKeyword s => .parts "AtKeyword" [.text s]
  | .hash s => .parts "Hash" [.text s]
  | .idHash s => .parts "IDHash" [.text s]
  | .quoted s => .parts "QuotedString" [.text s]
  | .badString s => .parts "BadString" [.text s]
  | .url s => .parts "UnquotedUrl" [.text s]
  | .badUrl s => .parts "BadUrl" [.text s]
  | .delim c => .parts "Delim" [.word (Text.quotedChar c)]
  | .number n => .fields "Number" (n.shown "value")
  | .percentage n => .fields "Percentage" (n.shown "unit_value")
  | .dimension n unit => .fields "Dimension" (n.shown "value" ++ [("unit", .text unit)])
  | .whitespace s => .parts "WhiteSpace" [.text s]
  | .colon => .word "Colon"
  | .semicolon => .word "Semicolon"
  | .comma => .word "Comma"
  | .includes => .word "IncludeMatch"
  | .dashMatch => .word "DashMatch"
  | .starts => .word "PrefixMatch"
  | .ends => .word "SuffixMatch"
  | .substring => .word "SubstringMatch"
  | .commentOpen => .word "CDO"
  | .commentClose => .word "CDC"
  | .function name => .parts "Function" [.text name]
  | .parenthesis => .word "ParenthesisBlock"
  | .square => .word "SquareBracketBlock"
  | .curly => .word "CurlyBracketBlock"
  | .closeParenthesis => .word "CloseParenthesis"
  | .closeSquare => .word "CloseSquareBracket"
  | .closeCurly => .word "CloseCurlyBracket"

namespace Flaw

/-- A refusal as a diagnosis lays it out. -/
def shown : Flaw → Shown
  | .unexpectedToken t => t.shown
  | .endOfInput => .word "EndOfInput"
  | .noPseudoName t => .parts "PseudoElementExpectedIdent" [t.shown]
  | .emptySelector => .word "EmptySelector"
  | .danglingCombinator => .word "DanglingCombinator"
  | .unsupportedPseudo name => .parts "UnsupportedPseudoClassOrElement" [.text name]
  | .unknownNamespace name => .parts "ExpectedNamespace" [.text name]
  | .noAttributeName t => .parts "NoQualifiedNameInAttributeSelector" [t.shown]
  | .noBarInAttribute t => .parts "ExpectedBarInAttr" [t.shown]
  | .badAttributeName t => .parts "InvalidQualNameInAttr" [t.shown]
  | .badAttributeOperator t => .parts "UnexpectedTokenInAttributeSelector" [t.shown]
  | .badAttributeValue t => .parts "BadValueInAttr" [t.shown]
  | .noClassName t => .parts "ClassNeedsIdent" [t.shown]
  | .badNamespacedName t => .parts "ExplicitNamespaceUnexpectedToken" [t.shown]
  | .misplaced => .word "InvalidState"

/-- The wording of a refusal. -/
def message : Flaw → String
  | .unexpectedToken t => "Token " ++ Text.quoted t.text ++ " was not expected"
  | .endOfInput => "Unexpected EOL"
  | .noPseudoName t =>
    "Expected identity for pseudoelement, got " ++ Text.quoted t.text ++ " instead"
  | flaw =>
    "Unexpected error occurred. Please report this to the developer\n" ++ flaw.shown.lay ""

end Flaw
end Css
end ConsentWalker
