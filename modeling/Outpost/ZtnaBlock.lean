import Outpost.Shared.KeyedRows
import Outpost.ZtnaHandler

/-!
# What a client is told about its block

`checkDeviceZTNABlock` tells a client after its report whether ZTNA blocks the device.
It evaluates the auto rules and the policies of the firewall once more, for one device,
and does not read the networks that a policy is restricted to.
-/

namespace Outpost

open TrustScore ZtnaHandler NetworkHandler

namespace ZtnaHandler

end ZtnaHandler

section Check

variable {db : Database} {d : Device} {u : User}

end Check

section Report

variable {db : Database} {d : Device} (req : PostureReport) (checkedAt evaluatedAt : Nat)

end Report

namespace ZtnaBlock

def carol : User := ⟨"c", true, false, false, "carol", ""⟩

def laptop : Device := ⟨"d", "c", "key", .v4 7, true, some "n"⟩

def policyDb (networkIDs : List Uuid) : Database :=
  { Database.ofDevice carol laptop rfl with
    gatewayNetworks := [⟨"g", "n"⟩]
    ztnaPolicies := [⟨"p", true, some ⟨none, some true, none, none, none, none⟩, "deny", networkIDs,
      0, "disks"⟩] }

def asciiEnv : HandlerEnv := ⟨some, fun _ => none, fun _ => "", false⟩

end ZtnaBlock

end Outpost
