import NetSteward.Remote.Exchange
import NetSteward.Route.Map
/-!
# Routes as the service lists them
-/

namespace NetSteward

namespace Route

/-- The routes of a routing table, across all pages. -/
def list (vpcId tableId : Json) : Action (List Route) := do
  let answers ← Remote.listAll (.routes vpcId tableId)
  Action.ofRead (readEach ofAnswer answers)

end Route

end NetSteward
