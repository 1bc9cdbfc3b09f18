import ConsentWalker.Page.Call
import ConsentWalker.Rules.Category
import ConsentWalker.Walk.Notice
import ConsentWalker.Walk.Pace
/-!
# Walk — routines

A routine is what a walk does up to its end, one visible act after another: a call to the page, a
notice, a wait. It does not know who answers it, so that the same routine runs against a quiet page,
a page that others change meanwhile, or a page that fails.

**Only a wait lets others act**: between two waits a routine runs on without a break. A pause lets
others act without taking time.
-/

namespace ConsentWalker

/-- What a walk does, up to a value. -/
inductive Routine (α : Type) where
  | done (a : α)
  /-- Asks the page, and goes on with its answer. -/
  | call (c : Call) (next : Except PageError c.Result → Routine α)
  /-- Tells something about the walk. -/
  | note (n : Notice) (next : Routine α)
  /-- Lets time pass, in milliseconds. -/
  | sleep (time : Nat) (next : Routine α)
  /-- Lets others act. -/
  | pause (next : Routine α)
  /-- Waits for changes and goes on with the number of their records, or with nothing once there
  will be no more. -/
  | await (o : Observer) (next : Option Nat → Routine α)
  /-- Gives an observer up. -/
  | drop (o : Observer) (next : Routine α)
  /-- Reports a dialog that was handled. -/
  | report (vendor : String) (next : Routine α)

namespace Routine

variable {α β : Type}

/-- One routine after another. -/
def bind : Routine α → (α → Routine β) → Routine β
  | .done a, f => f a
  | .call c next, f => .call c fun r => (next r).bind f
  | .note n next, f => .note n (next.bind f)
  | .sleep time next, f => .sleep time (next.bind f)
  | .pause next, f => .pause (next.bind f)
  | .await o next, f => .await o fun r => (next r).bind f
  | .drop o next, f => .drop o (next.bind f)
  | .report vendor next, f => .report vendor (next.bind f)

instance : Monad Routine where
  pure := .done
  bind := bind

@[simp] theorem pure_eq (a : α) : (pure a : Routine α) = .done a := rfl

@[simp] theorem bind_eq (r : Routine α) (f : α → Routine β) : r >>= f = r.bind f := rfl

theorem bind_done (r : Routine α) : r.bind .done = r := by
  induction r with
  | done a => rfl
  | call c next ih => simp only [bind, ih]
  | note n next ih => simp only [bind, ih]
  | sleep t next ih => simp only [bind, ih]
  | pause next ih => simp only [bind, ih]
  | await o next ih => simp only [bind, ih]
  | drop o next ih => simp only [bind, ih]
  | report v next ih => simp only [bind, ih]

/-- **The order in which routines are put together does not matter.** -/
theorem bind_assoc {γ : Type} (r : Routine α) (f : α → Routine β) (g : β → Routine γ) :
    (r.bind f).bind g = r.bind fun a => (f a).bind g := by
  induction r with
  | done a => rfl
  | call c next ih => simp only [bind, ih]
  | note n next ih => simp only [bind, ih]
  | sleep t next ih => simp only [bind, ih]
  | pause next ih => simp only [bind, ih]
  | await o next ih => simp only [bind, ih]
  | drop o next ih => simp only [bind, ih]
  | report v next ih => simp only [bind, ih]

instance : LawfulMonad Routine :=
  LawfulMonad.mk' Routine bind_done (fun _ _ => rfl) bind_assoc

/-- Tells something. -/
def tell (n : Notice) : Routine Unit := .note n (.done ())

/-- Lets time pass. -/
def rest (time : Nat) : Routine Unit := .sleep time (.done ())

/-- Lets others act. -/
def stepAside : Routine Unit := .pause (.done ())

/-- Asks the page, and takes its answer as it is. -/
def attempt (c : Call) : Routine (Except PageError c.Result) := .call c .done

end Routine

/-- What every part of a walk goes by. -/
structure Setting where
  flags : Flags := {}
  pace : Pace := {}
  policy : Policy := .empty
  deriving Inhabited

/-- A question to the page, which may fail. -/
abbrev Lookup := ExceptT PageError Routine

/-- Asks the page. -/
def ask (c : Call) : Lookup c.Result := ExceptT.mk (Routine.attempt c)

/-- Tells something. -/
def tell {m : Type → Type} [MonadLiftT Routine m] (n : Notice) : m Unit :=
  liftM (Routine.tell n)

/-- Lets time pass. -/
def rest {m : Type → Type} [MonadLiftT Routine m] (time : Nat) : m Unit :=
  liftM (Routine.rest time)

/-- Lets others act. -/
def stepAside {m : Type → Type} [MonadLiftT Routine m] : m Unit := liftM Routine.stepAside

end ConsentWalker
