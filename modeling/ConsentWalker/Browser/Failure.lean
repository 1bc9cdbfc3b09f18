import ConsentWalker.Page.Geometry
import ConsentWalker.Decimal.Written
import ConsentWalker.Text.Blank
/-!
# Browser — what a failed call means

A call into a live page can fail in the page's own scripts or on the way there. `classify` turns a
failure into a page error: a script that threw the stale marker names the element that is gone, a
lost connection means that the page is closed, and everything else keeps its text.
-/

namespace ConsentWalker
namespace Browser

/-- How a call into a live page fails. -/
inductive CallFailure where
  /-- A script threw; the thrown object may describe itself. -/
  | exception (text : String) (description : Option String)
  | timeout
  | noResponse
  | channelClosed
  | other (message : String)
  deriving DecidableEq, Repr

/-- What a page script puts before the number of an element that is gone. -/
def staleMarker : List Char := "cmpilot:stale:".toList

/-- What follows the first place where a text holds another one. -/
def afterFirst (needle : List Char) : List Char → Option (List Char)
  | [] => if needle.isEmpty then some [] else none
  | c :: cs =>
    if needle.isPrefixOf (c :: cs) then some ((c :: cs).drop needle.length)
    else afterFirst needle cs

/-- The element a thrown message says is gone: a number of 64 bits right after the first
marker. -/
def staleElement? (message : List Char) : Option Handle :=
  match afterFirst staleMarker message with
  | none => none
  | some rest =>
    let digits := rest.takeWhile Char.isDigit
    let number := Nat.ofDigitChars 10 digits 0
    if digits.isEmpty ∨ 18446744073709551615 < number then none else some ⟨number⟩

/-- The first line of a text, without its line ending. -/
def firstLine (cs : List Char) : List Char :=
  let line := cs.takeWhile (· ≠ '\n')
  if line.length = cs.length then line
  else match line.getLast? with
    | some '\r' => line.dropLast
    | _ => line

/-- Whether a string holds another one. -/
def mentions (s needle : String) : Bool := Text.occursIn needle.toList s.toList

/-- **The page error a failure of an operation stands for.** -/
def classify (failure : CallFailure) (operation : String) : PageError :=
  match failure with
  | .exception text description =>
    let message := (description.getD text).toList
    match staleElement? message with
    | some element => .stale element
    | none => .script (operation ++ ": " ++ String.ofList (firstLine message))
  | .timeout => .protocol (operation ++ " timed out")
  | .channelClosed | .noResponse => .closed
  | .other message =>
    if mentions message "Target closed" || mentions message "Session closed" then .closed
    else if mentions message "Cannot find context" ||
        mentions message "Execution context was destroyed" then
      .protocol (operation ++ ": page navigated away")
    else .protocol (operation ++ " failed: " ++ message)

/-- Why a visit fails. -/
inductive VisitError where
  | launch (reason : String)
  | profile (reason : String)
  | navigation (url reason : String)
  | navigationTimeout (url : String)
  | runtime (error : PageError)
  /-- A page was not served. -/
  | status (url : String) (code : Nat)
  deriving DecidableEq, Repr

/-- The wording of a visit error. -/
def VisitError.message : VisitError → String
  | .launch reason => "browser launch failed: " ++ reason
  | .profile reason => "could not prepare profile directory: " ++ reason
  | .navigation url reason => "navigation to " ++ url ++ " failed: " ++ reason
  | .navigationTimeout url => "navigation to " ++ url ++ " timed out"
  | .runtime error => "page runtime unavailable: " ++ error.message
  | .status url code => url ++ " answered with HTTP " ++ toString code

end Browser
end ConsentWalker
