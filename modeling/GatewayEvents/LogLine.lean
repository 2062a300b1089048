/-! Lines of the log: who says what, how urgently, with which fields beside the text. -/
namespace GatewayEvents

inductive Level where
  | debug
  | info
  | warn
  deriving DecidableEq, Repr

inductive Component where
  | registry
  | gatewayState
  | eventLogger
  | dispatcher
  | controller
  | resolver
  | watcher
  deriving DecidableEq, Repr

structure LogLine where
  level : Level
  component : Component
  message : String
  fields : List (String × String) := []
  deriving DecidableEq, Repr

end GatewayEvents
