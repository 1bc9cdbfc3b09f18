import ConsentWalker.Markup.DocumentType
import ConsentWalker.Markup.NamedReference
/-!
# Markup — tokens

The tags, comments and texts that a page is written with. `Token.scan` takes the next token of a
text. Which characters count as markup depends on the element whose content is read: a title holds
text with references, a style sheet text alone, a script its own rules about comments, and plain
text never ends.

A text token is as long as it can be, and its references are resolved. Line endings are unified
before anything else (`unified`), and a byte order mark at the very start is dropped. Inside
graphics and formulas a text may also stand between marks that keep all of it from being markup.
-/

namespace ConsentWalker
namespace Markup

/-- A start tag. -/
structure Tag where
  name : String
  attributes : List (String × String) := []
  /-- Whether a slash ends it. Graphics and formulas take that for an element without content. -/
  closed : Bool := false
  deriving DecidableEq, Repr, Inhabited

/-- A token of a page. -/
inductive Token where
  | doctype (t : DocumentType)
  | startTag (t : Tag)
  | endTag (name : String)
  | comment (text : String)
  | text (cs : List Char)
  /-- The end of the page. -/
  | finish
  deriving DecidableEq, Repr, Inhabited

/-- How the content of an element is read. -/
inductive Mode where
  | markup
  /-- Text with references up to the end tag. -/
  | referring (closer : String)
  /-- Text up to the end tag. -/
  | raw (closer : String)
  /-- Text up to the end tag of a script that is not inside a comment. -/
  | script
  /-- Text up to the end. -/
  | plain
  deriving DecidableEq, Repr, Inhabited

/-- Unifies line endings. -/
def unified : List Char → List Char
  | [] => []
  | '\r' :: '\n' :: cs => '\n' :: unified cs
  | '\r' :: cs => '\n' :: unified cs
  | c :: cs => c :: unified cs

/-- A page as it is cut into tokens. -/
def prepared (s : String) : List Char :=
  unified <| match s.toList with
    | '\ufeff' :: cs => cs
    | cs => cs

/-! ## Character references -/

/-- Code points that references use for characters of an older set. -/
def olderCodes : List (Nat × Nat) :=
  [(0x80, 0x20AC), (0x82, 0x201A), (0x83, 0x0192), (0x84, 0x201E), (0x85, 0x2026), (0x86, 0x2020),
   (0x87, 0x2021), (0x88, 0x02C6), (0x89, 0x2030), (0x8A, 0x0160), (0x8B, 0x2039), (0x8C, 0x0152),
   (0x8E, 0x017D), (0x91, 0x2018), (0x92, 0x2019), (0x93, 0x201C), (0x94, 0x201D), (0x95, 0x2022),
   (0x96, 0x2013), (0x97, 0x2014), (0x98, 0x02DC), (0x99, 0x2122), (0x9A, 0x0161), (0x9B, 0x203A),
   (0x9C, 0x0153), (0x9E, 0x017E), (0x9F, 0x0178)]

/-- The character a number stands for. -/
def numbered (n : Nat) : Char :=
  match olderCodes.lookup n with
  | some m => Char.ofNat m
  | none => Text.coded n

/-- A reference by number, after its mark and its base; `none` if no digit follows. -/
def numericReference? (isDigit : Char → Bool) (valueOf : List Char → Nat) (cs : List Char) :
    Option (List Char × List Char) :=
  match cs.takeWhile isDigit with
  | [] => none
  | digits =>
    let rest := cs.dropWhile isDigit
    some ([numbered (valueOf digits)], if rest.head? = some ';' then rest.tail else rest)

/-- A reference after its ampersand: the characters it stands for, and the rest. In a value a name
without its semicolon is no reference when more of a word follows. -/
def reference? (inValue : Bool) (cs : List Char) : Option (List Char × List Char) :=
  match cs with
  | '#' :: 'x' :: rest | '#' :: 'X' :: rest =>
    numericReference? (fun c => (Text.hexDigit? c).isSome) Text.hexNumber rest
  | '#' :: rest => numericReference? Char.isDigit (Nat.ofDigitChars 10 · 0) rest
  | c :: _ =>
    if ! c.isAlphanum then none
    else
      match NamedReference.longest? cs with
      | none => none
      | some r =>
        let rest := cs.drop r.name.length
        let open? := r.name.getLast? ≠ some ';'
        let continued := rest.head?.any fun d => d == '=' || d.isAlphanum
        if inValue && open? && continued then none else some (r.characters, rest)
  | [] => none

/-- Resolves the references of a text, at most so many characters of it. -/
def resolved (inValue : Bool) : Nat → List Char → List Char
  | 0, cs => cs
  | _ + 1, [] => []
  | fuel + 1, c :: cs =>
    if c = '&' then
      match reference? inValue cs with
      | some (characters, rest) => characters ++ resolved inValue fuel rest
      | none => c :: resolved inValue fuel cs
    else c :: resolved inValue fuel cs

/-- Resolves the references of a text. -/
def resolve (inValue : Bool) (cs : List Char) : List Char := resolved inValue cs.length cs

/-! ## Tags -/

/-- Characters that end the name of a tag. -/
def endsTagName (c : Char) : Bool := Text.isMarkupSpace c || c == '/' || c == '>'

/-- Characters that end the name of an attribute. -/
def endsAttributeName (c : Char) : Bool := endsTagName c || c == '='

/-- A name as it is kept: in lower case. -/
def keptName (cs : List Char) : String :=
  String.ofList (cs.map fun c => (Text.shownNull c).toLower)

/-- The value of an attribute, after the space that may precede it; `none` at the end. -/
def attributeValue? (cs : List Char) : Option (List Char × List Char) :=
  match cs with
  | [] => none
  | '"' :: rest => quoted '"' rest
  | '\'' :: rest => quoted '\'' rest
  | _ =>
    let stops (c : Char) : Bool := Text.isMarkupSpace c || c == '>'
    some (cs.takeWhile (! stops ·), cs.dropWhile (! stops ·))
where
  /-- A value up to its mark. -/
  quoted (mark : Char) (cs : List Char) : Option (List Char × List Char) :=
    match cs.dropWhile (· != mark) with
    | [] => none
    | _ :: rest => some (cs.takeWhile (· != mark), rest)

/-- The rest of a tag of that name with its attributes, of which a repeated one counts once, and
what follows the tag; `none` if the page ends inside the tag. -/
def tagRest? (name : String) : Nat → List (String × String) → List Char → Option (Tag × List Char)
  | 0, _, _ => none
  | fuel + 1, acc, cs =>
    match cs with
    | [] => none
    | '>' :: rest => some (⟨name, acc.reverse, false⟩, rest)
    | '/' :: '>' :: rest => some (⟨name, acc.reverse, true⟩, rest)
    | c :: rest =>
      if Text.isMarkupSpace c ∨ c = '/' then tagRest? name fuel acc rest
      else
        let key := keptName (c :: rest.takeWhile (! endsAttributeName ·))
        let after := (rest.dropWhile (! endsAttributeName ·)).dropWhile Text.isMarkupSpace
        let add (value : List Char) : List (String × String) :=
          if (acc.lookup key).isSome then acc
          else (key, String.ofList ((resolve true value).map Text.shownNull)) :: acc
        match after with
        | '=' :: more =>
          match attributeValue? (more.dropWhile Text.isMarkupSpace) with
          | none => none
          | some (value, rest) => tagRest? name fuel (add value) rest
        | _ => tagRest? name fuel (add []) after

/-- A tag whose name starts here. A tag that the page cuts off is no token. -/
def tag (make : Tag → Token) (cs : List Char) : Token × List Char :=
  let name := keptName (cs.takeWhile (! endsTagName ·))
  match tagRest? name (cs.length + 1) [] (cs.dropWhile (! endsTagName ·)) with
  | some (t, rest) => (make t, rest)
  | none => (.finish, [])

/-- An end tag, whose attributes do not count. -/
def endTagAt (cs : List Char) : Token × List Char := tag (fun t => .endTag t.name) cs

/-! ## Comments and document types -/

/-- A comment up to the next closing angle. -/
def looseComment (cs : List Char) : Token × List Char :=
  (.comment (String.ofList ((cs.takeWhile (· != '>')).map Text.shownNull)),
    (cs.dropWhile (· != '>')).drop 1)

/-- The text of a comment, and what follows it. -/
def commentBody : List Char → List Char × List Char
  | [] => ([], [])
  | '-' :: '-' :: '>' :: rest => ([], rest)
  | '-' :: '-' :: '!' :: '>' :: rest => ([], rest)
  | ['-', '-', '!'] | ['-', '-'] | ['-'] => ([], [])
  | c :: cs =>
    let (text, rest) := commentBody cs
    (Text.shownNull c :: text, rest)

/-- A comment after its opening. -/
def comment (cs : List Char) : Token × List Char :=
  let (text, rest) : List Char × List Char :=
    match cs with
    | '>' :: rest => ([], rest)
    | '-' :: '>' :: rest => ([], rest)
    | _ => commentBody cs
  (.comment (String.ofList text), rest)

namespace DocumentType

/-- The end of a document type that goes on as nothing in particular. -/
def skipped (t : DocumentType) (cs : List Char) : DocumentType × List Char :=
  (t, (cs.dropWhile (· != '>')).drop 1)

/-- A faulty document type up to its end. -/
def spoilt (t : DocumentType) (cs : List Char) : DocumentType × List Char :=
  skipped { t with faulty := true } cs

/-- An identifier up to its mark, after which reading goes on; it may not hold an angle. -/
def identifier (mark : Char) (cs : List Char) (keep : String → DocumentType)
    (more : DocumentType → List Char → DocumentType × List Char) : DocumentType × List Char :=
  let stops (c : Char) : Bool := c == mark || c == '>'
  let t := keep (String.ofList ((cs.takeWhile (! stops ·)).map Text.shownNull))
  match cs.dropWhile (! stops ·) with
  | c :: rest => if c = mark then more t rest else spoilt t (c :: rest)
  | [] => spoilt t []

/-- What follows the system identifier. -/
def afterSystem (t : DocumentType) (cs : List Char) : DocumentType × List Char :=
  match cs.dropWhile Text.isMarkupSpace with
  | [] => spoilt t []
  | rest => skipped t rest

/-- A system identifier, or what stands in its place; without one a type may only `end`. -/
def systemPart (t : DocumentType) (mayEnd : Bool) (cs : List Char) : DocumentType × List Char :=
  match cs.dropWhile Text.isMarkupSpace with
  | '"' :: rest => identifier '"' rest (fun s => { t with system? := some s }) afterSystem
  | '\'' :: rest => identifier '\'' rest (fun s => { t with system? := some s }) afterSystem
  | '>' :: rest => if mayEnd then (t, rest) else spoilt t ('>' :: rest)
  | rest => spoilt t rest

/-- A public identifier and what follows it. -/
def publicPart (t : DocumentType) (cs : List Char) : DocumentType × List Char :=
  let keep (s : String) : DocumentType := { t with public? := some s }
  match cs.dropWhile Text.isMarkupSpace with
  | '"' :: rest => identifier '"' rest keep fun t cs => systemPart t true cs
  | '\'' :: rest => identifier '\'' rest keep fun t cs => systemPart t true cs
  | rest => spoilt t rest

/-- Whether a text starts with a word in small letters, whatever its case is. -/
def startsWithWord (word : String) (cs : List Char) : Bool :=
  (cs.take word.length).map Char.toLower == word.toList

/-- **A document type after its keyword, and the rest.** -/
def read (cs : List Char) : DocumentType × List Char :=
  let stops (c : Char) : Bool := Text.isMarkupSpace c || c == '>'
  match cs.dropWhile Text.isMarkupSpace with
  | [] => spoilt {} []
  | '>' :: rest => spoilt {} ('>' :: rest)
  | cs =>
    let t : DocumentType := { name? := some (keptName (cs.takeWhile (! stops ·))) }
    match (cs.dropWhile (! stops ·)).dropWhile Text.isMarkupSpace with
    | '>' :: rest => (t, rest)
    | rest =>
      if startsWithWord "public" rest then publicPart t (rest.drop 6)
      else if startsWithWord "system" rest then systemPart t false (rest.drop 6)
      else spoilt t rest

end DocumentType

/-- The text between marks that keep it from being markup, and what follows it. -/
def keptText : List Char → List Char × List Char
  | [] => ([], [])
  | ']' :: ']' :: '>' :: rest => ([], rest)
  | c :: cs =>
    let (text, rest) := keptText cs
    (c :: text, rest)

/-- The mark that starts such a text. -/
def keptTextMark : List Char := "[CDATA[".toList

/-- What follows `<!`. -/
def declaration (embedded : Bool) (cs : List Char) : Token × List Char :=
  match cs with
  | '-' :: '-' :: rest => comment rest
  | _ =>
    if DocumentType.startsWithWord "doctype" cs then
      let (t, rest) := DocumentType.read (cs.drop 7)
      (.doctype t, rest)
    else if embedded && keptTextMark.isPrefixOf cs then
      let (text, rest) := keptText (cs.drop keptTextMark.length)
      (.text text, rest)
    else looseComment cs

/-! ## Text -/

/-- Whether a text that starts with an angle is only text. -/
def isLooseAngle : List Char → Bool
  | '/' :: [] => true
  | '/' :: _ => false
  | c :: _ => ! (c.isAlpha || c == '!' || c == '?')
  | [] => true

/-- The text up to the next tag, comment or document type. An empty end tag stands for nothing. -/
def markupText : Nat → List Char → List Char × List Char
  | 0, cs => ([], cs)
  | _ + 1, [] => ([], [])
  | fuel + 1, '<' :: '/' :: '>' :: cs => markupText fuel cs
  | fuel + 1, '<' :: cs =>
    if isLooseAngle cs then
      let (text, rest) := markupText fuel cs
      ('<' :: text, rest)
    else ([], '<' :: cs)
  | fuel + 1, '&' :: cs =>
    match reference? false cs with
    | some (characters, rest) =>
      let (text, rest) := markupText fuel rest
      (characters ++ text, rest)
    | none =>
      let (text, rest) := markupText fuel cs
      ('&' :: text, rest)
  | fuel + 1, c :: cs =>
    let (text, rest) := markupText fuel cs
    (c :: text, rest)

/-- Whether a tag of that name follows an angle and perhaps a slash. -/
def startsTagNamed (name : String) (cs : List Char) : Bool :=
  (cs.take name.length).map Char.toLower == name.toList &&
    (cs.drop name.length).head?.any endsTagName

/-- The text up to the end tag of that name. -/
def rawText (closer : String) : List Char → List Char × List Char
  | [] => ([], [])
  | '<' :: '/' :: cs =>
    if startsTagNamed closer cs then ([], '<' :: '/' :: cs)
    else
      let (text, rest) := rawText closer cs
      ('<' :: '/' :: text, rest)
  | c :: cs =>
    let (text, rest) := rawText closer cs
    (c :: text, rest)

/-- Where the reading of a script is: outside comments, in one, or in a script inside one. -/
inductive ScriptPart where
  | outside | comment | nested
  deriving DecidableEq, Repr

/-- The text of a script up to its end tag; `dashes` counts the dashes just passed in a comment. -/
def scriptText : ScriptPart → Nat → List Char → List Char × List Char
  | _, _, [] => ([], [])
  | .outside, _, '<' :: '!' :: '-' :: '-' :: cs => more "<!--".toList (scriptText .comment 2 cs)
  | .nested, _, '<' :: '/' :: cs =>
    if startsTagNamed "script" cs then more ['<', '/'] (scriptText .comment 0 cs)
    else more ['<', '/'] (scriptText .nested 0 cs)
  | part, _, '<' :: '/' :: cs =>
    if startsTagNamed "script" cs then ([], '<' :: '/' :: cs)
    else more ['<', '/'] (scriptText part 0 cs)
  | .comment, _, '<' :: cs =>
    if startsTagNamed "script" cs then more ['<'] (scriptText .nested 0 cs)
    else more ['<'] (scriptText .comment 0 cs)
  | part, dashes, c :: cs =>
    let part' := if c = '>' ∧ 2 ≤ dashes then .outside else part
    more [c] (scriptText part' (if c = '-' then dashes + 1 else 0) cs)
where
  /-- Puts characters before a text. -/
  more (cs : List Char) (r : List Char × List Char) : List Char × List Char := (cs ++ r.1, r.2)

/-- A text, or what stands behind it when it is empty. -/
def textOr (r : List Char × List Char) (behind : List Char → Token × List Char) :
    Token × List Char :=
  if r.1.isEmpty then behind r.2 else (.text r.1, r.2)

/-- The end tag here, or the end of the page. -/
def closing : List Char → Token × List Char
  | '<' :: '/' :: cs => endTagAt cs
  | _ => (.finish, [])

/-- Whether the first thing here is a line feed, and nothing about it is faulty. -/
def startsWithLineFeed : List Char → Bool
  | '\n' :: _ => true
  | '&' :: cs =>
    match reference? false cs with
    | some (['\n'], rest) => (cs.take (cs.length - rest.length)).getLast? == some ';'
    | _ => false
  | _ => false

/-- **The next token of a page, and the rest.** `embedded` says whether graphics or formulas are
read. -/
def Token.scan (mode : Mode) (embedded : Bool) (cs : List Char) : Token × List Char :=
  match mode with
  | .markup =>
    textOr (markupText cs.length cs) fun
      | '<' :: '!' :: rest => declaration embedded rest
      | '<' :: '?' :: rest => looseComment ('?' :: rest)
      | '<' :: '/' :: c :: rest =>
        if c.isAlpha then endTagAt (c :: rest)
        else looseComment (c :: rest)
      | '<' :: rest => tag .startTag rest
      | _ => (.finish, [])
  | .referring closer =>
    let (body, rest) := rawText closer cs
    textOr ((resolve false body).map Text.shownNull, rest) closing
  | .raw closer =>
    let (body, rest) := rawText closer cs
    textOr (body.map Text.shownNull, rest) closing
  | .script =>
    let (body, rest) := scriptText .outside 0 cs
    textOr (body.map Text.shownNull, rest) closing
  | .plain => textOr (cs.map Text.shownNull, []) closing

end Markup
end ConsentWalker
