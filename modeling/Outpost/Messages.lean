import Outpost.Schema

/-!
# Messages from core to the gateways

The protobuf messages of `common/v1` and `gateway/v1` with the fields that either
side uses. Protobuf texts stay texts: an unset field is the empty string.
-/

namespace Outpost

inductive FirewallAction where
  | unspecified
  | accept
  | drop
deriving DecidableEq

structure FirewallRule where
  (source destination protocol port : String)
  action : FirewallAction
deriving DecidableEq

structure FirewallConfig where
  rules : List FirewallRule
  natEnabled : Bool
  natInterface : String
deriving DecidableEq

structure SmartRouteRule where
  (entryType value action : String)
  priority : Int
deriving DecidableEq

structure SmartRouteConfig where
  rules : List SmartRouteRule
deriving DecidableEq

structure Peer where
  publicKey : String
  allowedIps : List String
  endpoint : String
  persistentKeepalive : Nat
deriving DecidableEq

structure S2SPeer where
  (gatewayId publicKey endpoint : String)
  allowedIps : List String
  persistentKeepalive : Nat
deriving DecidableEq

structure S2STunnelConfig where
  (tunnelId interfaceName privateKey : String)
  listenPort : Int
  peers : List S2SPeer
deriving DecidableEq

structure GatewayConfig where
  peers : List Peer
  firewall : Option FirewallConfig
  s2sTunnels : List S2STunnelConfig
  smartRoutes : Option SmartRouteConfig
deriving DecidableEq

inductive PeerAction where
  | unspecified
  | add
  | modify
  | remove
deriving DecidableEq

inductive S2SAction where
  | unspecified
  | addTunnel
  | removeTunnel
  | updateRoutes
  | updatePeers
deriving DecidableEq

structure PeerUpdate where
  action : PeerAction
  peer : Peer
deriving DecidableEq

structure S2SUpdate where
  action : S2SAction
  tunnel : Option S2STunnelConfig
deriving DecidableEq

inductive CoreEvent where
  | peerUpdate (update : PeerUpdate)
  | s2sUpdate (update : S2SUpdate)
  | firewallUpdate (config : Option FirewallConfig)
  | fullResync (config : GatewayConfig)
  | smartRouteUpdate (config : Option SmartRouteConfig)
deriving DecidableEq

end Outpost
