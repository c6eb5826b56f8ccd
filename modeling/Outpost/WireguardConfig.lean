/-!
# Configuration files of WireGuard

`RenderConfig` of the `wireguard` package: the text of a `wg-quick` file. Fields that are
zero or empty have no line.
-/

namespace Outpost

structure PeerConfig where
  publicKey : String
  allowedIPs : List String
  endpoint : String
  presharedKey : String := ""
  persistentKeepalive : Int
deriving DecidableEq

structure InterfaceConfig where
  (privateKey address : String)
  listenPort : Int := 0
  dns : List String
  mtu : Int := 0
  peers : List PeerConfig
deriving DecidableEq

namespace WireguardConfig

def line (key value : String) : String := key ++ " = " ++ value ++ "\n"

def lineIf (present : Bool) (key value : String) : String := if present then line key value else ""

def renderPeerConfig (peer : PeerConfig) : String :=
  "[Peer]\n" ++ line "PublicKey" peer.publicKey ++
    lineIf (peer.presharedKey ≠ "") "PresharedKey" peer.presharedKey ++
    lineIf (peer.allowedIPs ≠ []) "AllowedIPs" (", ".intercalate peer.allowedIPs) ++
    lineIf (peer.endpoint ≠ "") "Endpoint" peer.endpoint ++
    lineIf (peer.persistentKeepalive > 0) "PersistentKeepalive" (toString peer.persistentKeepalive)

def renderConfig (iface : InterfaceConfig) : String :=
  "[Interface]\n" ++ line "PrivateKey" iface.privateKey ++
    lineIf (iface.address ≠ "") "Address" iface.address ++
    lineIf (iface.listenPort > 0) "ListenPort" (toString iface.listenPort) ++
    lineIf (iface.dns ≠ []) "DNS" (", ".intercalate iface.dns) ++
    lineIf (iface.mtu > 0) "MTU" (toString iface.mtu) ++
    String.join (iface.peers.map fun peer => "\n" ++ renderPeerConfig peer)

end WireguardConfig

end Outpost
