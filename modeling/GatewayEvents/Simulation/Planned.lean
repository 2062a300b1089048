import GatewayEvents.Simulation.Refusals
import GatewayEvents.WatchLoop

/-! A callback that does nothing but ask by plan to be run again, for loops whose own
behaviour is to be seen. -/
namespace GatewayEvents.WatchLoop

/-- The plan under `slot` says how often an object of a given name is refused. -/
def planned [Watched K] (slot : Nat) (_ : Operation) (object : K) (_ : Nat) (plans : Plans) :
    Reply Plans Empty :=
  let name := (Watched.metadata object).displayName
  ⟨plans.refuses slot name, [], plans.spend slot name⟩

end GatewayEvents.WatchLoop
