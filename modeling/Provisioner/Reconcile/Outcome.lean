import Provisioner.ObjectKey

/-!
# Outcomes of passes

What a pass over an object asks for once it is done.
-/

namespace Provisioner

/-- Whether to come back to an object: through the limiter of retries, or after some milliseconds,
which takes precedence. -/
structure Outcome where
  requeue : Bool := false
  requeueAfter : Option Nat := none
  deriving DecidableEq, Repr, Inhabited

namespace Outcome

/-- Nothing is left to do. -/
def done : Outcome := {}

def after (milliseconds : Nat) : Outcome := { requeueAfter := some milliseconds }

/-- The milliseconds after which a pass looks again at what is not ready yet. -/
def delay : Nat := 3000

end Outcome

end Provisioner
