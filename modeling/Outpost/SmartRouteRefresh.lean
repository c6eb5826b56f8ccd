import Outpost.FirewallRefresh
import Outpost.S2SNotifier
import Outpost.SmartRouteHandler
import Outpost.Shared.RowOrder

/-!
# Keeping the smart routes in step with the database

`NotifySmartRouteUpdate` looks for the gateways of a route's networks in the rows that the request
has left.
-/

namespace Outpost

open FirewallManager PeerNotifier

namespace Database

variable (db : Database)

def HasNetwork (gatewayID networkID : Uuid) : Prop :=
  (∃ gn ∈ db.gatewayNetworks, gn.networkId = networkID ∧ gn.gatewayId = gatewayID) ∨
    ∃ g ∈ db.gateways, g.networkId = some networkID ∧ g.id = gatewayID

def Routed (gatewayID : Uuid) (r : SmartRouteRule) : Prop :=
  ∃ e ∈ db.smartRouteEntries, ∃ sr ∈ db.smartRoutes, ∃ nsr ∈ db.networkSmartRoutes,
    sr.id = e.smartRouteId ∧ sr.isActive = true ∧ nsr.smartRouteId = sr.id ∧
      db.HasNetwork gatewayID nsr.networkId ∧ e.toRule = r

theorem mem_smartQuery (gatewayID : Uuid) (r : SmartRouteRule) :
    r ∈ db.smartQuery gatewayID ↔ db.Routed gatewayID r := by
  simp only [smartQuery, List.mem_dedup, List.mem_append, List.mem_flatMap, List.mem_filterMap,
    Option.ite_none_right_eq_some, Option.some.injEq]
  constructor
  · intro h
    rcases h with ⟨e, he, sr, hsr, nsr, hnsr, gn, hgn, ⟨hid, hactive, hroute, hnet, hgw⟩, heq⟩ |
      ⟨e, he, sr, hsr, nsr, hnsr, g, hg, ⟨hid, hactive, hroute, hnet, hgw⟩, heq⟩
    · exact ⟨e, he, sr, hsr, nsr, hnsr, hid, hactive, hroute, .inl ⟨gn, hgn, hnet, hgw⟩, heq⟩
    · exact ⟨e, he, sr, hsr, nsr, hnsr, hid, hactive, hroute, .inr ⟨g, hg, hnet, hgw⟩, heq⟩
  · intro ⟨e, he, sr, hsr, nsr, hnsr, hid, hactive, hroute, hhas, heq⟩
    rcases hhas with ⟨gn, hgn, hnet, hgw⟩ | ⟨g, hg, hnet, hgw⟩
    · exact .inl ⟨e, he, sr, hsr, nsr, hnsr, gn, hgn, ⟨hid, hactive, hroute, hnet, hgw⟩, heq⟩
    · exact .inr ⟨e, he, sr, hsr, nsr, hnsr, g, hg, ⟨hid, hactive, hroute, hnet, hgw⟩, heq⟩

theorem smartQuery_nodup (gatewayID : Uuid) : (db.smartQuery gatewayID).Nodup :=
  List.nodup_dedup _

def smartRouteGateways (routeID : Uuid) : List (Option Uuid) :=
  ((db.networkSmartRoutes.filter fun nsr => nsr.smartRouteId = routeID).flatMap
    fun nsr => db.networkGateways (some nsr.networkId)).dedup

theorem mem_smartRouteGateways (routeID gatewayID : Uuid) :
    some gatewayID ∈ db.smartRouteGateways routeID ↔
      ∃ nsr ∈ db.networkSmartRoutes, nsr.smartRouteId = routeID ∧
        db.ServesNetwork nsr.networkId gatewayID := by
  simp [smartRouteGateways, mem_networkGateways, and_assoc]

end Database

namespace SmartRouteRefresh

open Iptables GatewayAgent SmartRouteHandler Runs

def byPriority (r s : SmartRouteRule) : Bool := r.priority ≤ s.priority

theorem smartRules_fetch (orders : SyncOrders) (db : Database) (gatewayID : Uuid) :
    smartRules (fetchSmartRoutesForGateway {} orders db gatewayID) =
      if db.smartQuery gatewayID = [] then none
      else some (orders.smartRows.readSorted byPriority installedSmart (db.smartQuery gatewayID)) := by
  have hperm : ((orders.smartRows.visit (db.smartQuery gatewayID)).mergeSort byPriority).Perm
      (db.smartQuery gatewayID) :=
    (List.mergeSort_perm _ _).trans (orders.smartRows.perm _)
  have hempty : (orders.smartRows.visit (db.smartQuery gatewayID)).mergeSort byPriority = [] ↔
      db.smartQuery gatewayID = [] := by
    constructor
    · intro h
      rw [h] at hperm
      exact hperm.nil_eq.symm
    · intro h
      rw [h] at hperm ⊢
      exact hperm.eq_nil
  have hrows : scanRows false (fun _ => false)
      ((orders.smartRows.visit (db.smartQuery gatewayID)).mergeSort byPriority) =
      (orders.smartRows.visit (db.smartQuery gatewayID)).mergeSort byPriority :=
    scanRows_noFaults _
  change smartRules (if scanRows false (fun _ => false)
      ((orders.smartRows.visit (db.smartQuery gatewayID)).mergeSort byPriority) = [] then none
    else some ⟨scanRows false (fun _ => false)
      ((orders.smartRows.visit (db.smartQuery gatewayID)).mergeSort byPriority)⟩) = _
  rw [hrows]
  by_cases h : db.smartQuery gatewayID = []
  · rw [if_pos (hempty.mpr h), if_pos h]
    rfl
  · rw [if_neg (mt hempty.mp h), if_neg h, smartRules, if_neg (mt hempty.mp h)]
    rfl

structure Grows (db db' : Database) : Prop where
  entries : db.smartRouteEntries ⊆ db'.smartRouteEntries
  routes : ∀ sr ∈ db.smartRoutes, sr.isActive = true →
    ∃ sr' ∈ db'.smartRoutes, sr'.id = sr.id ∧ sr'.isActive = true
  associations : db.networkSmartRoutes ⊆ db'.networkSmartRoutes
  networks : ∀ gatewayID networkID, db.HasNetwork gatewayID networkID →
    db'.HasNetwork gatewayID networkID

variable {db db' : Database}

theorem Grows.routed (h : Grows db db') {gatewayID : Uuid} {r : SmartRouteRule}
    (hr : db.Routed gatewayID r) : db'.Routed gatewayID r := by
  obtain ⟨e, he, sr, hsr, nsr, hnsr, hid, hactive, hroute, hnet, heq⟩ := hr
  obtain ⟨sr', hsr', hid', hactive'⟩ := h.routes sr hsr hactive
  exact ⟨e, h.entries he, sr', hsr', nsr, h.associations hnsr, hid'.trans hid, hactive',
    hroute.trans hid'.symm, h.networks _ _ hnet, heq⟩

theorem grows_addSmartRoute (db : Database) (sr : SmartRoute) : Grows db (db.addSmartRoute sr) where
  entries := List.Subset.refl _
  routes := fun sr' h hactive => ⟨sr', List.mem_append_left _ h, rfl, hactive⟩
  associations := List.Subset.refl _
  networks := fun _ _ h => h

theorem grows_updateSmartRoute (db : Database) (id : Uuid) (name : Option String)
    {isActive : Option Bool} (hon : isActive ≠ some false) :
    Grows db (db.updateSmartRoute id name isActive) where
  entries := List.Subset.refl _
  routes := by
    intro sr hsr hactive
    refine ⟨_, List.mem_map.mpr ⟨sr, hsr, rfl⟩, ?_⟩
    split
    · refine ⟨rfl, ?_⟩
      cases isActive with
      | none => exact hactive
      | some b =>
        cases b with
        | true => rfl
        | false => exact absurd rfl hon
    · exact ⟨rfl, hactive⟩
  associations := List.Subset.refl _
  networks := fun _ _ h => h

theorem updateSmartRoute_off_grows (db : Database) (id : Uuid) (name : Option String) :
    Grows (db.updateSmartRoute id name (some false)) db where
  entries := List.Subset.refl _
  routes := by
    intro sr hsr hactive
    obtain ⟨sr₀, hsr₀, rfl⟩ := List.mem_map.mp hsr
    refine ⟨sr₀, hsr₀, ?_⟩
    split at hactive
    · cases hactive
    · rename_i hid
      rw [if_neg hid]
      exact ⟨rfl, hactive⟩
  associations := List.Subset.refl _
  networks := fun _ _ h => h

theorem deleteSmartRoute_grows (db : Database) (id : Uuid) : Grows (db.deleteSmartRoute id) db where
  entries := List.filter_subset_self _
  routes := fun sr h hactive => ⟨sr, List.mem_of_mem_filter h, rfl, hactive⟩
  associations := List.filter_subset_self _
  networks := fun _ _ h => h

theorem grows_of_effect (h : Effect db db') : Grows db db' ∨ Grows db' db := by
  cases h with
  | added sr => exact .inl (grows_addSmartRoute db sr)
  | updated id name isActive =>
    by_cases hoff : isActive = some false
    · subst hoff
      exact .inr (updateSmartRoute_off_grows db id name)
    · exact .inl (grows_updateSmartRoute db id name hoff)
  | deleted id => exact .inr (deleteSmartRoute_grows db id)
  | entryAdded e =>
    exact .inl ⟨List.subset_append_left _ _, fun sr h hactive => ⟨sr, h, rfl, hactive⟩,
      List.Subset.refl _, fun _ _ h => h⟩
  | entryRemoved id routeID =>
    exact .inr ⟨List.filter_subset_self _, fun sr h hactive => ⟨sr, h, rfl, hactive⟩,
      List.Subset.refl _, fun _ _ h => h⟩
  | networkAdded nsr =>
    exact .inl ⟨List.Subset.refl _, fun sr h hactive => ⟨sr, h, rfl, hactive⟩,
      List.subset_append_left _ _, fun _ _ h => h⟩
  | networkRemoved nsr =>
    exact .inr ⟨List.Subset.refl _, fun sr h hactive => ⟨sr, h, rfl, hactive⟩,
      List.filter_subset_self _, fun _ _ h => h⟩

/-- The gateway has entries before if and only if it has some after, and installs the same ones. -/
structure SameChain (gatewayID : Uuid) (db db' : Database) : Prop where
  any : (∃ r, db.Routed gatewayID r) ↔ ∃ r, db'.Routed gatewayID r
  installed : ∀ r, (installedSmart r).isSome = true →
    (db.Routed gatewayID r ↔ db'.Routed gatewayID r)

theorem smartQuery_eq_nil (db : Database) (gatewayID : Uuid) :
    db.smartQuery gatewayID = [] ↔ ¬ ∃ r, db.Routed gatewayID r := by
  simp [← db.mem_smartQuery gatewayID, List.eq_nil_iff_forall_not_mem]

theorem byPriority_trans (r s t : SmartRouteRule) (hrs : byPriority r s = true)
    (hst : byPriority s t = true) : byPriority r t = true := by
  simp only [byPriority, decide_eq_true_eq] at hrs hst ⊢
  omega

theorem byPriority_total (r s : SmartRouteRule) : (byPriority r s || byPriority s r) = true := by
  simp only [byPriority, Bool.or_eq_true, decide_eq_true_eq]
  omega

theorem sameChain_iff (hgrows : Grows db db' ∨ Grows db' db) (gatewayID : Uuid)
    (orders : SyncOrders) :
    (∃ orders', smartRules (fetchSmartRoutesForGateway {} orders db gatewayID) =
        smartRules (fetchSmartRoutesForGateway {} orders' db' gatewayID)) ↔
      SameChain gatewayID db db' := by
  have hsub : db.smartQuery gatewayID ⊆ db'.smartQuery gatewayID ∨
      db'.smartQuery gatewayID ⊆ db.smartQuery gatewayID := by
    rcases hgrows with h | h
    · refine .inl fun r hr => ?_
      exact (db'.mem_smartQuery gatewayID r).mpr (h.routed ((db.mem_smartQuery gatewayID r).mp hr))
    · refine .inr fun r hr => ?_
      exact (db.mem_smartQuery gatewayID r).mpr (h.routed ((db'.mem_smartQuery gatewayID r).mp hr))
  have hnodup := db.smartQuery_nodup gatewayID
  have hnodup' := db'.smartQuery_nodup gatewayID
  simp only [smartRules_fetch]
  constructor
  · rintro ⟨orders', heq⟩
    have hnil : db.smartQuery gatewayID = [] ↔ db'.smartQuery gatewayID = [] := by
      split_ifs at heq <;> simp_all
    refine ⟨?_, ?_⟩
    · rw [smartQuery_eq_nil, smartQuery_eq_nil] at hnil
      exact not_iff_not.mp hnil
    · intro r hr
      rw [← db.mem_smartQuery, ← db'.mem_smartQuery]
      by_cases h : db.smartQuery gatewayID = []
      · rw [h, hnil.mp h]
      · rw [if_neg h, if_neg (mt hnil.mpr h)] at heq
        exact RangeOrder.readSorted_agree installedSmart hnodup hnodup' hsub
          (Option.some.inj heq).symm r hr
  · intro same
    have hnil : db.smartQuery gatewayID = [] ↔ db'.smartQuery gatewayID = [] := by
      rw [smartQuery_eq_nil, smartQuery_eq_nil]
      exact not_congr same.any
    by_cases h : db.smartQuery gatewayID = []
    · exact ⟨orders, by rw [if_pos h, if_pos (hnil.mp h)]⟩
    · obtain ⟨o', ho'⟩ := RangeOrder.exists_readSorted installedSmart byPriority_trans
        byPriority_total hnodup hnodup' (fun r hr => by
          rw [db.mem_smartQuery, db'.mem_smartQuery]
          exact same.installed r hr) orders.smartRows
      refine ⟨{ orders with smartRows := o' }, ?_⟩
      rw [if_neg h, if_neg (mt hnil.mpr h)]
      exact congrArg some ho'.symm

structure NotifierEnv where
  find : NotifyEnv := {}
  faults : Uuid → SyncFaults := fun _ => {}
  orders : Uuid → SyncOrders := fun _ => .asListed

structure NotifierEnv.Reliable (t : NotifierEnv) : Prop where
  find : t.find.Reliable
  faults : ∀ gatewayID, t.faults gatewayID = {}

def notifySmartRouteUpdate (t : NotifierEnv) (db : Database) (routeID : Uuid) : Sends :=
  (scanGateways t.find (db.smartRouteGateways routeID)).flatMap fun gatewayID =>
    [.smartRouteUpdate (fetchSmartRoutesForGateway (t.faults gatewayID) (t.orders gatewayID) db
      gatewayID)].map fun e => (gatewayID, e)

def sends (t : NotifierEnv) (db : Database) : Option Uuid → Sends
  | none => []
  | some routeID => notifySmartRouteUpdate t db routeID

/-- The gateway has a network of the route in `gateway_networks`, or in the legacy column if no row
has it there. -/
def Finds (db : Database) (gatewayID : Uuid) : Option Uuid → Prop
  | none => False
  | some routeID => ∃ nsr ∈ db.networkSmartRoutes, nsr.smartRouteId = routeID ∧
      db.ServesNetwork nsr.networkId gatewayID

section Sent

variable {t : NotifierEnv} (reliable : t.Reliable) (db : Database) (gatewayID : Uuid)
include reliable

theorem notifySmartRouteUpdate_sentTo (routeID : Uuid) :
    (notifySmartRouteUpdate t db routeID).sentTo gatewayID =
      if some gatewayID ∈ db.smartRouteGateways routeID then
        [.smartRouteUpdate (fetchSmartRoutesForGateway {} (t.orders gatewayID) db gatewayID)]
      else [] := by
  have hnodup : (scanGateways t.find (db.smartRouteGateways routeID)).Nodup := by
    unfold scanGateways
    rw [reliable.find.findQuery, reliable.find.findScan, scanRows_noFaults]
    apply List.Nodup.filterMap
    · intro a b c ha hb
      exact ha.trans hb.symm
    · exact (t.find.findRows.perm _).nodup_iff.mpr (List.nodup_dedup _)
  unfold notifySmartRouteUpdate
  rw [Sends.sentTo_flatMap gatewayID hnodup, reliable.faults]
  simp only [mem_scanGateways reliable.find]

variable {db gatewayID} {note : Option Uuid}

theorem sends_found (h : Finds db gatewayID note) :
    (sends t db note).sentTo gatewayID =
      [.smartRouteUpdate (fetchSmartRoutesForGateway {} (t.orders gatewayID) db gatewayID)] := by
  cases note with
  | none => exact False.elim h
  | some routeID =>
    rw [sends, notifySmartRouteUpdate_sentTo reliable,
      if_pos ((db.mem_smartRouteGateways routeID gatewayID).mpr h)]

theorem sends_not_found (h : ¬ Finds db gatewayID note) :
    (sends t db note).sentTo gatewayID = [] := by
  cases note with
  | none => rfl
  | some routeID =>
    rw [sends, notifySmartRouteUpdate_sentTo reliable,
      if_neg (mt (db.mem_smartRouteGateways routeID gatewayID).mp h)]

end Sent

variable {Key : Type} [DecidableEq Key]

structure State (Key : Type) where
  db : Database
  fleet : Fleet Key

inductive Step (henv : SmartRouteHandler.Env) (env : AgentEnv Key) :
    State Key → Request → State Key → Prop where
  | handled {s : State Key} {r : Request} {db : Database} {note : Option Uuid} (t : NotifierEnv) :
      t.Reliable → handle henv s.db r = .ok (db, note) →
      Step henv env s r ⟨db, s.fleet.receive env (sends t db note).sentTo⟩
  | refused {s : State Key} {r : Request} {err : HandlerError} :
      handle henv s.db r = .error err → Step henv env s r s

/-- The agent manages its chains, and `OUTPOST-SMART` is what `ApplySmartRoutes` installs for the
gateway's rows in some order by priority. -/
def Current (db : Database) (gatewayID : Uuid) (a : Agent Key) : Prop :=
  ∃ h, a.fw = some h ∧ Wired h ∧ ∃ orders, chain h smartChain =
    smartRules (fetchSmartRoutesForGateway {} orders db gatewayID)

def InStep (s : State Key) : Prop := s.fleet.All (Current s.db)

def Reached (henv : SmartRouteHandler.Env) (s : State Key) (r : Request) : Prop :=
  ∀ db note, handle henv s.db r = .ok (db, note) → ∀ gatewayID a, s.fleet.Connected gatewayID a →
    Finds db gatewayID note ∨ SameChain gatewayID s.db db

variable {env : AgentEnv Key}

theorem current_iff (reliable : env.fw.Reliable) {t : NotifierEnv} (quiet : t.Reliable)
    (hgrows : Grows db db' ∨ Grows db' db) (note : Option Uuid) {gatewayID : Uuid} {a : Agent Key}
    (ha : Current db gatewayID a) :
    Current db' gatewayID (handleEvents env ((sends t db' note).sentTo gatewayID) a) ↔
      Finds db' gatewayID note ∨ SameChain gatewayID db db' := by
  obtain ⟨h, hfw, wired, orders, hchain⟩ := ha
  by_cases hfinds : Finds db' gatewayID note
  · rw [sends_found quiet hfinds]
    refine iff_of_true ⟨_, ?_, wired_applySmartRoutes reliable wired _, t.orders gatewayID,
      (applySmartRoutes_smartRules reliable wired _).1⟩ (.inl hfinds)
    simp [handleEvents, handleEvent, handleSmartRouteUpdate, hfw]
  · rw [sends_not_found quiet hfinds, or_iff_right hfinds, ← sameChain_iff hgrows gatewayID orders]
    constructor
    · rintro ⟨h', hfw', _, orders', hchain'⟩
      obtain rfl : h = h' := Option.some.inj (hfw.symm.trans hfw')
      exact ⟨orders', hchain.symm.trans hchain'⟩
    · rintro ⟨orders', hsame⟩
      exact ⟨h, hfw, wired, orders', hchain.trans hsame⟩

theorem inStep_step {henv : SmartRouteHandler.Env} (reliable : env.fw.Reliable) {s t : State Key}
    {r : Request} (h : Step henv env s r t) (hs : InStep s) : InStep t ↔ Reached henv s r := by
  cases h with
  | @handled db note tell quiet hok =>
    have hgrows := grows_of_effect (handle_effect hok)
    unfold InStep
    rw [Fleet.all_receive]
    constructor
    · intro hall db' note' hok' gatewayID a ha
      obtain ⟨rfl, rfl⟩ := Prod.mk.inj (Except.ok.inj (hok.symm.trans hok'))
      exact (current_iff reliable quiet hgrows note (hs gatewayID a ha)).mp (hall gatewayID a ha)
    · intro hreached gatewayID a ha
      exact (current_iff reliable quiet hgrows note (hs gatewayID a ha)).mpr
        (hreached db note hok gatewayID a ha)
  | refused herr =>
    refine iff_of_true hs ?_
    intro db note hok
    rw [herr] at hok
    cases hok

open FirewallRefresh (startedHost startedHost_wired)

def textIds : SmartRouteHandler.Env := ⟨some, some⟩

theorem not_inStep_of_handled {s : State String} (hs : InStep s) {r : Request} {db : Database}
    {note : Option Uuid} (hok : handle textIds s.db r = .ok (db, note))
    (hmissed : ¬ Reached textIds s r) : ∃ t, Step textIds textKeys s r t ∧ ¬ InStep t := by
  have hstep : Step textIds textKeys s r _ := .handled {} ⟨quietNotify_reliable, fun _ => rfl⟩ hok
  exact ⟨_, hstep, mt (inStep_step textKeys_reliable hstep hs).mp hmissed⟩

end SmartRouteRefresh

end Outpost
