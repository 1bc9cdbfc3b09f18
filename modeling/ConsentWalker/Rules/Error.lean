import ConsentWalker.Json.Shape
import ConsentWalker.Json.Parser
/-!
# Rules — why rules cannot be read

The causes for which a part of a catalog is refused, and their wording. A catalog as a whole is
refused when its text is not JSON (`CatalogFlaw.text`) or its value is not an object
(`CatalogFlaw.shape`).
-/

namespace ConsentWalker

/-- Why a catalog as a whole cannot be read. A misfit found while reading text carries the place. -/
inductive CatalogFlaw where
  | text (flaw : Json.Flaw) (position : Json.Position)
  | shape (misfit : Json.Misfit) (position : Option Json.Position)
  deriving DecidableEq, Repr

/-- The wording of a catalog flaw. -/
def CatalogFlaw.message : CatalogFlaw → String
  | .text flaw p => flaw.message ++ p.suffix
  | .shape misfit p => misfit.message ++ (p.map Json.Position.suffix).getD ""

/-- Why rules cannot be read. -/
inductive RuleError where
  | unknownAction (tag : String)
  | unknownMatcher (tag : String)
  | missingField (node field : String)
  | invalidNode (node : String) (misfit : Json.Misfit)
  | invalidConsent (category : String)
  | catalog (flaw : CatalogFlaw)
  deriving DecidableEq, Repr

/-- The wording of a rule error. -/
def RuleError.message : RuleError → String
  | .unknownAction tag => "unknown action type `" ++ tag ++ "`"
  | .unknownMatcher tag => "unknown matcher type `" ++ tag ++ "`"
  | .missingField node field =>
    "`" ++ node ++ "` node is missing required field `" ++ field ++ "`"
  | .invalidNode node misfit => "invalid `" ++ node ++ "` node: " ++ misfit.message
  | .invalidConsent category =>
    "consent `" ++ category ++
      "` has neither matcher+toggleAction nor trueAction/falseAction"
  | .catalog flaw => "malformed catalog: " ++ flaw.message

end ConsentWalker
