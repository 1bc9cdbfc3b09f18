import ConsentWalker.Markup.Embedding
/-!
# Markup — reading pages

From a text to a tree: `readDocument` reads a whole page, `readFragment` a part of a body. Tokens
are taken one after the other, and each is put to the rules until one is done with it.
-/

namespace ConsentWalker
namespace Markup

/-- The rule for a token, in the stage of the draft. -/
def ruleFor (d : Draft) (t : Token) : Rule :=
  if d.embeds t then embedded d.stage.rule else d.stage.rule

/-- Puts a token to the rules until one is done with it, at most so often. -/
def settle : Nat → Token → Drafting Unit
  | 0, _ => return
  | fuel + 1, t => do
    match ← ruleFor (← get) t t with
    | some t => settle fuel t
    | none => return

/-- Takes up a token. Every round closes an element or goes to a later stage, which bounds them. -/
def take (t : Token) : Drafting Unit := do
  let d ← get
  match t with
  | .text [] => return
  | _ => settle (2 * d.opened.length + d.templates.length + 32) t

/-- A token without the line feed that stands right behind the tag before it. -/
def withoutLineFeed : Token → Token
  | .text ('\n' :: cs) => .text cs
  | t => t

/-- Reads tokens to the end of a text, at most so many. -/
def readTokens : Nat → List Char → Drafting Unit
  | 0, _ => return
  | fuel + 1, cs => do
    let d ← get
    let (t, rest) := Token.scan d.mode d.isEmbedding cs
    set { d with dropsLineFeed := false }
    take (if d.dropsLineFeed && startsWithLineFeed cs then withoutLineFeed t else t)
    match t with
    | .finish => return
    | _ => readTokens fuel rest

/-- The draft of a text. -/
def Draft.read (d : Draft) (s : String) : Draft :=
  let cs := prepared s
  ((readTokens (cs.length + 1) cs).run d).2

/-- **Reads a whole page.** -/
def readDocument (s : String) : Tree := (Draft.read {} s).tree

/-- The draft that a part of a body starts from. -/
def Draft.fragment : Draft :=
  { nodes := #[⟨.document, [1], none⟩, ⟨.element { name := "html" }, [], some 0⟩]
    opened := [1]
    stage := .inBody
    isFragment := true }

/-- **Reads a part of a body**: the nodes it consists of. -/
def readFragment (s : String) : List Tree :=
  match (Draft.read .fragment s).tree with
  | .node _ [root] => root.children
  | _ => []

end Markup
end ConsentWalker
