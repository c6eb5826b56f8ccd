import Outpost.ClientRoutes
import Outpost.NetworkHandler
import Outpost.Shared.RowOrder

/-!
# Mailed and downloaded configurations

The two handlers agree on the key, the address and the DNS servers of the device. They choose the
gateway and the routes with different queries.
-/

namespace Outpost.DeviceConfig

open WireguardConfig DeviceHandler

theorem selectsBefore_trans (r s u : Gateway × Int) (h : selectsBefore r s = true)
    (h' : selectsBefore s u = true) : selectsBefore r u = true := by
  simp only [selectsBefore, decide_eq_true_eq] at h h' ⊢
  omega

theorem selectsBefore_total (r s : Gateway × Int) :
    (selectsBefore r s || selectsBefore s r) = true := by
  simp only [selectsBefore, Bool.or_eq_true, decide_eq_true_eq]
  omega

/-- The gateways that serve the network have it in the legacy column, and the owner's ACLs route it
and nothing else. -/
structure OneNetwork (t : DeviceRecords) (d : Device) (n : Network) : Prop where
  network : d.networkId = some n.id
  lookup : (t.db.networks.find? fun m => m.id = n.id) = some n
  gateways : ∀ r, r ∈ mailQuery t ↔ r ∈ gatewayQuery t (some n.id)
  untied : ∀ r ∈ mailQuery t, ∀ s ∈ mailQuery t,
    r.1.priority = s.1.priority → r.1.createdAt = s.1.createdAt → r = s
  endpoint : ∀ r ∈ mailQuery t, r.1.endpoint ≠ ""
  port : ∀ r ∈ mailQuery t, r.2 ≠ 0
  routes : ∀ c, Route t.db d c → c = n.address

section Agreement

variable {env env' : ConfigEnv} {t : DeviceRecords} {d : Device} {n : Network}

theorem OneNetwork.networkOf (h : OneNetwork t d n) (env : ConfigEnv) :
    networkOf env t d.networkId = some n := by
  rw [h.network]
  exact h.lookup

theorem OneNetwork.first (h : OneNetwork t d n) (hscans : ∀ i, env.gatewayScan i = false) :
    (downloadGateways env t d.networkId).find? (fun r => r.1.endpoint ≠ "") =
      mailGateway env' t := by
  have huntied : ∀ r ∈ gatewayQuery t (some n.id), ∀ s ∈ gatewayQuery t (some n.id),
      selectsBefore r s = true → selectsBefore s r = true → r = s := by
    intro r hr s hs hrs hsr
    simp only [selectsBefore, decide_eq_true_eq] at hrs hsr
    exact h.untied r ((h.gateways r).mpr hr) s ((h.gateways s).mpr hs) (by omega) (by omega)
  have hfirst := RangeOrder.first_eq selectsBefore_trans selectsBefore_total
    (fun r => (h.gateways r).symm) huntied env.gatewayRows env'.gatewayRows
  unfold downloadGateways mailGateway
  rw [funext hscans, h.network, ← hfirst]
  -- every gateway has an endpoint, so that the first one is taken
  have hendpoint : ∀ r ∈
      (env.gatewayRows.visit (gatewayQuery t (some n.id))).mergeSort selectsBefore,
      r.1.endpoint ≠ "" := by
    intro r hr
    rw [List.mem_mergeSort, RangeOrder.mem_visit] at hr
    exact h.endpoint r ((h.gateways r).mpr hr)
  cases hrows : (env.gatewayRows.visit (gatewayQuery t (some n.id))).mergeSort selectsBefore with
  | nil => rfl
  | cons r rest =>
    rw [hrows] at hendpoint
    exact List.find?_cons_of_pos (by simpa using hendpoint r List.mem_cons_self)

end Agreement

def officeNet : Network := ⟨"office", "office", .v4 officeBlock, none, true⟩

end Outpost.DeviceConfig
