import Passthrough.Proofs.Station.LoadReport
import Passthrough.Proofs.Watch.LoadRecord
import Passthrough.Proofs.Watch.Mirror

set_option autoImplicit false

/-! What happens during a load on a machine that only its sessions have used: which memory
devices can see at each moment, what the firmware finds there, and in which order
everything is acquired and released. -/

namespace Passthrough

open Files (FileTree)

def Watch.course (watch : Watch) : List Effect :=
  (effects watch.seen).reverse

/-- Everything was acquired, then the firmware was called, and then everything was released in
reverse. -/
theorem Ledger.Tells.course {ledger : Ledger} {watch : Watch}
    (tells : ledger.Tells (effects watch.seen)) (returned : ledger.stack = []) :
    ∃ (acquired : List Resource) (calls : List Call), watch.course =
      acquired.map .acquire ++ calls.map .firmware ++ acquired.reverse.map .release := by
  obtain ⟨released, calls, done, -, -⟩ := tells
  refine ⟨released, calls.reverse, ?_⟩
  simp [Watch.course, done, returned]

namespace Station

end Station

end Passthrough
