import Mathlib.Logic.Basic

/-!
# Discovering the type of a NAT

`Discover` asks two STUN servers for its address, each from a new socket whose port the operating
system chooses.
-/

namespace Outpost.NatDiscovery

inductive NATType where
  | fullCone
  | restrictedCone
  | portRestricted
  | symmetric
  | «open»
  | unknown
deriving DecidableEq

@[ext]
structure MappedAddr where
  ip : String
  port : Nat
deriving DecidableEq

structure DiscoveryResult where
  natType : NATType
  externalIP : String := ""
  externalPort : Nat := 0

/-- The mapping of a local port towards a server, the ports of the first two sockets, and which of
the three requests are answered. -/
structure Network where
  mapping : Nat → String → MappedAddr
  port : Fin 2 → Nat
  answers : Fin 3 → Bool
  outboundIP : Option String

def Network.getMappedAddress (net : Network) (i : Fin 2) (server : String) : Option MappedAddr :=
  if net.answers i.castSucc then some (net.mapping (net.port i) server) else none

def Network.getMappedAddressFromPort (net : Network) (server : String) (localPort : Nat) :
    Option MappedAddr :=
  if net.answers 2 then some (net.mapping localPort server) else none

def discover (net : Network) (server1 server2 : String) : DiscoveryResult × Option String :=
  match net.getMappedAddress 0 server1 with
  | none => (⟨.unknown, "", 0⟩, some "stun request 1")
  | some mapped1 =>
    let result (natType : NATType) : DiscoveryResult × Option String :=
      (⟨natType, mapped1.ip, mapped1.port⟩, none)
    if net.outboundIP = some mapped1.ip then result .open
    else match net.getMappedAddress 1 server2 with
      | none => result .unknown
      | some mapped2 =>
        if mapped1.ip ≠ mapped2.ip ∨ mapped1.port ≠ mapped2.port then result .symmetric
        else match net.getMappedAddressFromPort server2 mapped1.port with
          | none => result .restrictedCone
          | some mapped3 =>
            if mapped3.port = mapped1.port then result .fullCone else result .portRestricted

/-- The mapping does not depend on the server, and ports stay apart. -/
structure Network.Cone (net : Network) : Prop where
  mapping_eq : ∀ port server server', net.mapping port server = net.mapping port server'
  apart : ∀ port port' server, (net.mapping port server).port = (net.mapping port' server).port →
    port = port'

variable {net : Network} {server1 server2 : String}

theorem natType_eq_symmetric_iff (hanswers : ∀ i : Fin 2, net.answers i.castSucc = true)
    (hnat : net.outboundIP ≠ some (net.mapping (net.port 0) server1).ip) :
    (discover net server1 server2).1.natType = .symmetric ↔
      net.mapping (net.port 0) server1 ≠ net.mapping (net.port 1) server2 := by
  rw [discover, Network.getMappedAddress, if_pos (hanswers 0)]
  dsimp only
  rw [if_neg hnat, Network.getMappedAddress, if_pos (hanswers 1)]
  generalize net.mapping (net.port 0) server1 = first, net.mapping (net.port 1) server2 = second
  dsimp only
  by_cases hdiffer : first.ip ≠ second.ip ∨ first.port ≠ second.port
  · rw [if_pos hdiffer]
    exact iff_of_true rfl fun heq => by simp [heq] at hdiffer
  · obtain ⟨hip, hport⟩ := not_or.mp hdiffer
    rw [if_neg hdiffer]
    refine iff_of_false ?_ (not_not.mpr (MappedAddr.ext (not_not.mp hip) (not_not.mp hport)))
    split
    · exact NATType.noConfusion
    · split <;> exact NATType.noConfusion

/-- Whether the two probes are mapped alike decides; a cone NAT maps them alike exactly when both
sockets had the same port. -/
theorem symmetric_iff (hanswers : ∀ i : Fin 2, net.answers i.castSucc = true)
    (hnat : net.outboundIP ≠ some (net.mapping (net.port 0) server1).ip) :
    ((discover net server1 server2).1.natType = .symmetric ↔
      net.mapping (net.port 0) server1 ≠ net.mapping (net.port 1) server2) ∧
    (net.Cone → ((discover net server1 server2).1.natType = .symmetric ↔
      net.port 0 ≠ net.port 1)) := by
  refine ⟨natType_eq_symmetric_iff hanswers hnat, ?_⟩
  intro hcone
  rw [natType_eq_symmetric_iff hanswers hnat, hcone.mapping_eq (net.port 1) server2 server1]
  apply not_congr
  constructor
  · intro heq
    exact hcone.apart _ _ server1 (congrArg MappedAddr.port heq)
  · intro heq
    rw [heq]

/-- A NAT that keeps the ports, behind which the sockets have these ports. -/
def keepsPorts (port : Fin 2 → Nat) : Network where
  mapping := fun port _ => ⟨"203.0.113.1", port⟩
  port := port
  answers := fun _ => true
  outboundIP := some "192.168.0.2"

theorem keepsPorts_cone (port : Fin 2 → Nat) : (keepsPorts port).Cone :=
  ⟨fun _ _ _ => rfl, fun _ _ _ h => h⟩

theorem reused_port_not_symmetric :
    (discover (keepsPorts fun _ => 40000) "stun1:3478" "stun2:3478").1.natType ≠ .symmetric := by
  intro h
  exact ((symmetric_iff (fun _ => rfl) (by decide)).2 (keepsPorts_cone _)).mp h rfl

theorem cone_called_symmetric : (keepsPorts fun i => 40000 + i).Cone ∧
    (discover (keepsPorts fun i => 40000 + i) "stun1:3478" "stun2:3478").1.natType = .symmetric :=
  ⟨keepsPorts_cone _, by decide⟩

end Outpost.NatDiscovery
