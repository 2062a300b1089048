import GatewayEvents.Proofs.Dispatcher.Agreement

/-! The gateway state as a replay of what happened. Which handlers there are, what they answer and
how often a callback was run before steer what is told and which role is announced; the state of
the gateway follows the operations and their objects alone (`gateway_after`), so that two
dispatchers for one host which hear of the same never differ in it. -/
namespace GatewayEvents.Dispatcher

inductive Occurrence where
  | endpoint (operation : Operation) (endpoint : Endpoint)
  | node (operation : Operation) (node : Node)

def Callback.occurrence : Callback → Occurrence
  | .endpoint op e _ => .endpoint op e
  | .node op n _ => .node op n

/-- The replay on a host: remote endpoints are stored and removed; a local endpoint moves the flag
to its own host or away from it, and clears it when it goes from here; the local node sets the flag
to its label and clears it when it goes. -/
def Occurrence.effect (clusterId hostname : String) (isLocalNode : Node → String → Bool)
    (g : GatewayState) : Occurrence → GatewayState
  | .endpoint .create e | .endpoint .update e =>
    if e.isFromCluster clusterId then g.setOnGateway (e.isFromHost hostname)
    else g.upsert e.identity e
  | .endpoint .delete e =>
    if e.isFromCluster clusterId then
      if e.isFromHost hostname then g.setOnGateway false else g
    else (g.remove e.identity).2
  | .node .create n | .node .update n =>
    if isLocalNode n hostname then g.setOnGateway n.isGateway else g
  | .node .delete n => if isLocalNode n hostname then g.setOnGateway false else g

def replay (clusterId hostname : String) (isLocalNode : Node → String → Bool) (g : GatewayState)
    (occurrences : List Occurrence) : GatewayState :=
  occurrences.foldl (Occurrence.effect clusterId hostname isLocalNode) g

section Replay
variable {ω : Type} {d : Dispatcher ω}

theorem gateway_respond (callback : Callback) (s : State ω) :
    (d.respond callback s).state.gateway =
      callback.occurrence.effect d.clusterId d.hostname d.isLocalNode s.gateway := by
  cases callback with
  | endpoint op e attempt =>
    rw [respond, gateway_onEndpoint]
    cases here : d.isLocal e with
    | false =>
      have away : e.isFromCluster d.clusterId = false := here
      cases op <;> simp [Callback.occurrence, Occurrence.effect, trackRemote, away]
    | true =>
      have own : e.isFromCluster d.clusterId = true := here
      cases op with
      | create | update => simp [Callback.occurrence, Occurrence.effect, roleOf, here, own]
      | delete =>
        cases host : e.isFromHost d.hostname <;>
          simp [Callback.occurrence, Occurrence.effect, roleOf, here, own, host]
  | node op n attempt =>
    rw [respond, gateway_onNode]
    cases op <;> simp [Callback.occurrence, Occurrence.effect]

theorem gateway_after (callbacks : List Callback) (s : State ω) :
    (d.after callbacks s).gateway =
      replay d.clusterId d.hostname d.isLocalNode s.gateway
        (callbacks.map Callback.occurrence) := by
  induction callbacks generalizing s with
  | nil => rfl
  | cons callback rest ih =>
    rw [Dispatcher.after, ih, gateway_respond]
    rfl

end Replay

/-- After each callback the gateway state is the replay of the occurrences so far: neither the
handlers and their answers nor repetitions and announced roles make a difference to it. -/
theorem gateway_eq_replay {ω ω' : Type} (d : Dispatcher ω) (d' : Dispatcher ω')
    (callbacks callbacks' : List Callback) (s : State ω) (s' : State ω')
    (cluster : d'.clusterId = d.clusterId) (host : d'.hostname = d.hostname)
    (nodes : d'.isLocalNode = d.isLocalNode)
    (alike : callbacks'.map Callback.occurrence = callbacks.map Callback.occurrence)
    (start : s'.gateway = s.gateway) (n : Nat) :
    (d'.after (callbacks'.take n) s').gateway = (d.after (callbacks.take n) s).gateway ∧
      (d.after (callbacks.take n) s).gateway =
        replay d.clusterId d.hostname d.isLocalNode s.gateway
          ((callbacks.map Callback.occurrence).take n) := by
  rw [gateway_after, gateway_after, List.map_take, List.map_take, alike, cluster, host, nodes,
    start]
  exact ⟨rfl, rfl⟩

section Examples

def deaf : Dispatcher Unit where
  clusterId := "east"
  hostname := "here"
  registry := .ofHandlers "deaf" "*" []

/-- A handler refuses the transition; without handlers nobody does. The announced roles part, the
gateway states do not. -/
theorem gateway_after_refusal :
    let callbacks : List Callback := [.endpoint .create (localEndpoint "here") 0]
    let callbacks' : List Callback := [.endpoint .create (localEndpoint "here") 3]
    (pair.after callbacks (.initial 1)).announced = false ∧
      (deaf.after callbacks' (.initial ())).announced = true ∧
      (deaf.after (callbacks'.take 1) (.initial ())).gateway =
        (pair.after (callbacks.take 1) (.initial 1)).gateway ∧
      (pair.after (callbacks.take 1) (.initial 1)).gateway =
        replay "east" "here" Node.isLocal .initial
          ((callbacks.map Callback.occurrence).take 1) := by
  intro callbacks callbacks'
  refine ⟨by decide, by decide, ?_⟩
  exact gateway_eq_replay pair deaf callbacks callbacks' (.initial 1) (.initial ()) rfl rfl rfl rfl
    rfl 1

end Examples

end GatewayEvents.Dispatcher
