import Gattlibpp.Act.Runs
import Gattlibpp.Discovery.Lookup
import Gattlibpp.Queue.Later

/-!
# What the library keeps while a call is open

Iterators and references are held across calls out. The action and the characteristic they refer
to stay as long as no tick pops and no discovery clears: only ticks do, and they are not made
from inside a call where the environment sees to that.
-/

namespace Gattlibpp

open Open

/-- The actions of `w` are still queued at `w'`, and its characteristics still stand there. -/
structure World.Retains (w w' : World) : Prop where
  actions : ∀ t, (w.action t).isSome → (w'.action t).isSome
  captured : ∀ dev r, (w.captured dev r).isSome → (w'.captured dev r).isSome

namespace World

variable {w w' w'' : World}

theorem Retains.refl (w : World) : w.Retains w := ⟨fun _ => id, fun _ _ => id⟩

theorem Retains.trans (h : w.Retains w') (h' : w'.Retains w'') : w.Retains w'' :=
  ⟨fun t ht => h'.actions t (h.actions t ht),
    fun dev r hr => h'.captured dev r (h.captured dev r hr)⟩

end World

section
variable [Gattlib] {P : Policy} {w w' : World}

end

end Gattlibpp
