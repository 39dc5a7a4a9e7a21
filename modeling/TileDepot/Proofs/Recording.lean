/-!
# Calls on record

To say how often a part of a program is called, and with what, its calls are put on record: the
program runs in a world that has a list beside it, and each call adds itself with its answer. The
program cannot read the list, so it does what it would do without.
-/

namespace TileDepot

/-- A world with the calls that were made in it, the first one first. -/
structure Recorded (κ σ : Type) where
  world : σ
  calls : List κ

variable {κ σ α : Type}

/-- A program of the world as one call, on record with its answer. -/
def recorded (call : α → κ) (p : StateM σ α) : StateM (Recorded κ σ) α := fun w =>
  ((p.run w.world).1, ⟨(p.run w.world).2, w.calls ++ [call (p.run w.world).1]⟩)

@[simp] theorem recorded_run (call : α → κ) (p : StateM σ α) (w : Recorded κ σ) :
    (recorded call p).run w =
      ((p.run w.world).1, ⟨(p.run w.world).2, w.calls ++ [call (p.run w.world).1]⟩) := rfl

end TileDepot
