import TenantCloud.Effect.World

/-!
# Attempts one after another

A round carries out a list of attempts one after another, each at its own time: `World.round` gives
their runs, and `World.afterRound` the world that the last one leaves.
-/

set_option autoImplicit false

namespace TenantCloud.World

variable {κ : Type} (attempt : κ → Attempt Unit)

/-- The runs of a round. -/
def round (w : World) : List (κ × Timestamp) → List (κ × Ran World (Result Unit))
  | [] => []
  | (k, t) :: rest =>
    let ran := { w with now := t }.run (attempt k)
    (k, ran) :: ran.state.round rest

/-- The world after a round. -/
def afterRound (w : World) : List (κ × Timestamp) → World
  | [] => w
  | (k, t) :: rest => ({ w with now := t }.run (attempt k)).state.afterRound rest

end TenantCloud.World
