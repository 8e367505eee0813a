import Ravel.Bgp.Steps
import Ravel.Bgp.Addresses

/-! The reads configure() and configure6() make of `b.config` and `b.nodes`, seen in the
calls a run makes: each call takes its arguments from the pair current at its step, so one
run acts on one pair only while nothing is delivered.
-/

namespace Ravel.Bgp

section Step

variable {helpers : Helpers} {s s' : Server} {i : Nat} {task : Task} {fam : Family}
  {config : ClusterConfig}

end Step

end Ravel.Bgp
