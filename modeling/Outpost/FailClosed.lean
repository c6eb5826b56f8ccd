import Outpost.Enforcement

/-!
# Failures while the config is computed

Only a failed ACL query keeps `buildFirewallConfigFromPool` from returning a config. The other
queries, and every row whose scan fails, are taken as if they had returned nothing.
-/

namespace Outpost

open Iptables FirewallManager

section Device

variable (faults : QueryFaults) (orders : Orders) {db : Database} {gatewayID : Uuid} {d : Device}

end Device

namespace FailClosed

end FailClosed

end Outpost
