import GatewayEvents.Handler
import GatewayEvents.Simulation.Refusals

/-! A handler that records every call it gets and refuses calls by plan. The plans of all
recorders lie side by side, each under its own slot. -/
namespace GatewayEvents.Handler

/-- A refusal says `message` if there is one, else who refused what. -/
def recorder (slot : Nat) (name : String) (plugins : List String) (message : Option String) :
    Handler Plans :=
  uniform name plugins fun call state plans =>
    { failure :=
        if plans.refuses slot call.name then some (message.getD (name ++ " refused " ++ call.name))
        else none
      notes := [.call ⟨name, call.name, call.object?, state.map Glimpse.ofState⟩]
      world := plans.spend slot call.name }

end GatewayEvents.Handler
