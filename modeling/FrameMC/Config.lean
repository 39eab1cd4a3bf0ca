/-!
# Configuration

The parts of `src/config.rs` that a connection reads.
-/

namespace FrameMC

inductive ForwardingMode where
  | none
  | legacyBungee
  | velocityModern
  deriving DecidableEq, Repr

structure BackendConfig where
  address : String
  port : UInt16
  forwardingMode : ForwardingMode
  forwardingSecret : Option String
  deriving DecidableEq

/-- `servers` is a hash map: its entries in the order it iterates in. -/
structure ProxyConfig where
  onlineMode : Bool
  sessionServerUrl : Option String
  servers : List (String × BackendConfig)
  defaultServer : String
  deriving DecidableEq

end FrameMC
