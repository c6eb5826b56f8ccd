import Outpost.FirewallView
import Outpost.NetworkHandler
import Outpost.GatewaySync
import Outpost.Shared.Runs

/-!
# Keeping the firewalls in step with the database

Requests one after the other on a single core; what a request pushes is applied by the connected
gateways before the next one. Each handler picks the gateways that it refreshes with a query
of its own.
-/

namespace Outpost.FirewallRefresh

open Iptables FirewallManager GatewayAgent PeerNotifier Runs

variable {Key : Type} [DecidableEq Key]

inductive Request where
  | device (r : DeviceHandler.Request)
  | createGroup (id : Uuid) (name description : String)
  | updateGroup (id : Uuid) (name description : Option String)
  | deleteGroup (id : Uuid)
  | addMember (groupID : Uuid) (userID : String)
  | removeMember (groupID userID : Uuid)
  | addACL (id groupID : Uuid) (networkID : String) (allowedIPs : Option (List String))
  | removeACL (groupID aclID : Uuid)
  | createNetwork (id : Uuid) (req : NetworkHandler.CreateRequest)
  | updateNetwork (id : Uuid) (req : NetworkHandler.UpdateRequest)
  | deleteNetwork (id : Uuid)

def handle (env : HandlerEnv) (db : Database) : Request → Except HandlerError (Database × Push)
  | .device r => (DeviceHandler.handle db r).map fun res => (res.1, res.2.elim .nothing .peer)
  | .createGroup id name description => GroupHandler.create db id name description
  | .updateGroup id name description => GroupHandler.update db id name description
  | .deleteGroup id => GroupHandler.delete db id
  | .addMember groupID userID => GroupHandler.addMember env db groupID userID
  | .removeMember groupID userID => GroupHandler.removeMember db groupID userID
  | .addACL id groupID networkID allowedIPs => GroupHandler.addACL env db id groupID networkID allowedIPs
  | .removeACL groupID aclID => GroupHandler.removeACL db groupID aclID
  | .createNetwork id req => NetworkHandler.create env db id req
  | .updateNetwork id req => NetworkHandler.update env db id req
  | .deleteNetwork id => NetworkHandler.delete env db id

def Request.statement (env : HandlerEnv) (db : Database) : Request → Database
  | .device r => r.statement db
  | .createGroup id name description => db.addGroup ⟨id, name, description, false⟩
  | .updateGroup id name description => db.updateGroup id name description
  | .deleteGroup id => db.deleteGroup id
  | .addMember groupID userID =>
    (env.parseUuid userID).elim db fun uid => db.addUserGroup ⟨uid, groupID⟩
  | .removeMember groupID userID => db.removeUserGroup ⟨userID, groupID⟩
  | .addACL id groupID networkID allowedIPs =>
    match env.parseUuid networkID, (allowedIPs.getD ["0.0.0.0/0"]).mapM env.castCidr with
    | some nid, some cidrs => db.addNetworkAcl ⟨id, nid, groupID, cidrs⟩
    | _, _ => db
  | .removeACL groupID aclID => db.removeNetworkAcl aclID groupID
  | .createNetwork id req =>
    match env.castCidr req.address, NetworkHandler.castOptional env req.tunnelCidr with
    | some address, some tunnelCidr => db.addNetwork ⟨id, req.name, address, tunnelCidr, true⟩
    | _, _ => db
  | .updateNetwork id req =>
    match NetworkHandler.castOptional env req.address,
      NetworkHandler.castOptional env req.tunnelCidr with
    | some address, some tunnelCidr => db.updateNetwork id req.name address tunnelCidr req.isActive
    | _, _ => db
  | .deleteNetwork id => db.deleteNetwork id

variable {db db' : Database} {r : Request} {push : Push} {n : NotifyEnv}
  {gatewayID userID groupID : Uuid} {rows : List UserGroup}

theorem handle_statement {env : HandlerEnv} (h : handle env db r = .ok (db', push)) :
    db' = r.statement env db := by
  cases r with
  | device r =>
    simp only [handle] at h
    cases hr : DeviceHandler.handle db r with
    | error err =>
      rw [hr] at h
      cases h
    | ok res =>
      rw [hr] at h
      obtain ⟨_, _, _, hdb, _⟩ := DeviceHandler.handle_inv hr
      exact (Prod.mk.inj (Except.ok.inj h)).1.symm.trans hdb
  | createGroup id name description => exact (Prod.mk.inj (GroupHandler.create_spec h)).1
  | updateGroup id name description => exact (Prod.mk.inj (GroupHandler.update_spec h)).1
  | deleteGroup id => exact (Prod.mk.inj (GroupHandler.delete_spec h)).1
  | addMember groupID userID =>
    obtain ⟨uid, hparse, hres⟩ := GroupHandler.addMember_spec h
    rw [(Prod.mk.inj hres).1, Request.statement, hparse]
    rfl
  | removeMember groupID userID => exact (Prod.mk.inj (GroupHandler.removeMember_spec h)).1
  | addACL id groupID networkID allowedIPs =>
    obtain ⟨nid, cidrs, hparse, hcast, hres⟩ := GroupHandler.addACL_spec h
    rw [(Prod.mk.inj hres).1]
    simp only [Request.statement, hparse, hcast]
  | removeACL groupID aclID => exact (Prod.mk.inj (GroupHandler.removeACL_spec h)).1
  | createNetwork id req =>
    obtain ⟨address, tunnelCidr, haddress, htunnel, hres⟩ := NetworkHandler.create_spec h
    rw [(Prod.mk.inj hres).1]
    simp only [Request.statement, haddress, htunnel]
  | updateNetwork id req =>
    obtain ⟨address, tunnelCidr, haddress, htunnel, hres⟩ := NetworkHandler.update_spec h
    rw [(Prod.mk.inj hres).1]
    simp only [Request.statement, haddress, htunnel]
  | deleteNetwork id => exact (Prod.mk.inj (NetworkHandler.delete_spec h)).1

structure State (Key : Type) where
  db : Database
  connected : Uuid → Option (Agent Key)

section Steps

variable (henv : HandlerEnv) (env : AgentEnv Key)

inductive Step : State Key → Request → State Key → Prop where
  | handled {s : State Key} {r : Request} {db : Database} {push : Push} (n : NotifyEnv) :
      n.Reliable → handle henv s.db r = .ok (db, push) →
      Step s r ⟨db, fun gatewayID => (s.connected gatewayID).map
        (handleEvents env (eventsFor gatewayID (push.calls n db)))⟩
  | refused {s : State Key} {r : Request} {err : HandlerError} :
      handle henv s.db r = .error err → Step s r s

end Steps

/-- Every connected gateway manages its chains, and its `OUTPOST-FWD` is up to date. -/
def InStep (s : State Key) : Prop :=
  ∀ gatewayID a, s.connected gatewayID = some a →
    ∃ h rules, a.fw = some h ∧ Wired h ∧ chain h outpostChain = some rules ∧
      UpToDate s.db gatewayID rules

def Finds (db : Database) (gatewayID : Uuid) : Push → Prop
  | .nothing => False
  | .peer note => some gatewayID ∈ db.peerGateways note.pubkey
  | .user userID => some gatewayID ∈ db.userGateways userID
  | .group groupID => some gatewayID ∈ db.groupGateways groupID
  | .gateways gatewayIDs => gatewayID ∈ gatewayIDs

theorem calls_eq (n : NotifyEnv) (db : Database) (push : Push) :
    ∃ (updates : List PeerUpdate) (gatewayIDs : List Uuid), push.calls n db =
        updates.map .broadcastPeerUpdate ++ refreshFirewallForGateways n db gatewayIDs ∧
      (n.Reliable → ∀ gatewayID, gatewayID ∈ gatewayIDs ↔ Finds db gatewayID push) := by
  cases push with
  | nothing => exact ⟨[], [], rfl, by simp [Finds]⟩
  | peer note =>
    cases note with
    | peerAdd pubkey ips =>
      exact ⟨[addition pubkey ips], _, rfl,
        fun reliable gatewayID => mem_scanGateways reliable _ gatewayID⟩
    | peerRemove pubkey =>
      exact ⟨[removal pubkey], _, rfl,
        fun reliable gatewayID => mem_scanGateways reliable _ gatewayID⟩
  | gateways gatewayIDs => exact ⟨[], gatewayIDs, rfl, fun _ _ => Iff.rfl⟩
  | _ =>
    exact ⟨[], _, rfl, fun reliable gatewayID => mem_scanGateways reliable _ gatewayID⟩

theorem calls_spec (reliable : n.Reliable) (db : Database) (push : Push) :
    FreshCalls db (push.calls n db) ∧
      ∀ gatewayID, SendsTo gatewayID (push.calls n db) ↔ Finds db gatewayID push := by
  obtain ⟨updates, gatewayIDs, heq, hfinds⟩ := calls_eq n db push
  rw [heq]
  constructor
  · intro gatewayID config hin
    apply freshCalls_refresh reliable db gatewayIDs
    simpa using hin
  · intro gatewayID
    rw [← hfinds reliable, ← sendsTo_refresh reliable db]
    simp [SendsTo]

theorem inStep_handled {env : AgentEnv Key} (reliable : env.fw.Reliable) {s : State Key}
    (hs : InStep s) (quiet : n.Reliable) (db : Database) (push : Push) :
    InStep ⟨db, fun gatewayID => (s.connected gatewayID).map
        (handleEvents env (eventsFor gatewayID (push.calls n db)))⟩ ↔
      ∀ gatewayID, (s.connected gatewayID).isSome = true →
        Finds db gatewayID push ∨ SameView gatewayID s.db db := by
  obtain ⟨fresh, hsends⟩ := calls_spec quiet db push
  constructor
  · intro ht gatewayID hconn
    obtain ⟨a, ha⟩ := Option.isSome_iff_exists.mp hconn
    obtain ⟨h, rules, hfw, wired, hchain, hup⟩ := hs gatewayID a ha
    obtain ⟨h', rules', hfw', _, hchain', hiff⟩ :=
      push_upToDate reliable fresh hfw wired hchain hup
    obtain ⟨h₁, rules₁, hfw₁, _, hchain₁, hup₁⟩ := ht gatewayID _ (by simp only [ha]; rfl)
    obtain rfl : h' = h₁ := Option.some.inj (hfw'.symm.trans hfw₁)
    obtain rfl : rules' = rules₁ := Option.some.inj (hchain'.symm.trans hchain₁)
    rw [← hsends]
    exact hiff.mp hup₁
  · intro hreached gatewayID a ha
    obtain ⟨a₀, ha₀, rfl⟩ := Option.map_eq_some_iff.mp ha
    obtain ⟨h, rules, hfw, wired, hchain, hup⟩ := hs gatewayID a₀ ha₀
    obtain ⟨h', rules', hfw', wired', hchain', hiff⟩ :=
      push_upToDate reliable fresh hfw wired hchain hup
    refine ⟨h', rules', hfw', wired', hchain', hiff.mpr ?_⟩
    rw [hsends]
    exact hreached gatewayID (Option.isSome_iff_exists.mpr ⟨a₀, ha₀⟩)

theorem sameView_groups (gatewayID : Uuid) (db : Database) (groups : List Group) :
    SameView gatewayID db { db with groups := groups } :=
  ⟨fun _ => Iff.rfl, fun _ _ => Iff.rfl⟩

theorem sameView_userGroups
    (hothers : ∀ ug : UserGroup, ug.userId ≠ userID → (ug ∈ rows ↔ ug ∈ db.userGroups))
    (hnone : ∀ d ∈ db.devices, Database.Keyed d → d.userId = userID → ¬ db.Attached gatewayID d) :
    SameView gatewayID db { db with userGroups := rows } := by
  refine ⟨fun _ => Iff.rfl, fun src dst => ?_⟩
  apply exists_congr
  intro d
  apply and_congr_right
  intro hl
  apply and_congr_right
  intro _
  apply and_congr_right
  intro hatt
  have huser : d.userId ≠ userID := fun h => hnone d hl.1 hl.2.1 h hatt
  have hacl : ∀ n a, db.OwnerAcl d n a ↔
      ({ db with userGroups := rows } : Database).OwnerAcl d n a := by
    intro n a
    apply and_congr_right
    intro _
    apply and_congr_right
    intro _
    constructor
    · rintro ⟨ug, hug, hu, hg⟩
      exact ⟨ug, (hothers ug (hu ▸ huser)).mpr hug, hu, hg⟩
    · rintro ⟨ug, hug, hu, hg⟩
      exact ⟨ug, (hothers ug (hu ▸ huser)).mp hug, hu, hg⟩
  have hgrants : ∀ n, db.Grants d n ↔ ({ db with userGroups := rows } : Database).Grants d n := by
    intro n
    unfold Database.Grants
    simp only [hacl]
    exact Iff.rfl
  simp only [hgrants]
  exact Iff.rfl

theorem user_refreshed {db : Database} {gatewayID userID : Uuid} {rows : List UserGroup}
    (hothers : ∀ ug : UserGroup, ug.userId ≠ userID → (ug ∈ rows ↔ ug ∈ db.userGroups)) :
    Finds { db with userGroups := rows } gatewayID (.user userID) ∨
      SameView gatewayID db { db with userGroups := rows } := by
  by_cases hfound : some gatewayID ∈ db.userGateways userID
  · exact Or.inl hfound
  · apply Or.inr (sameView_userGroups hothers _)
    intro d hd hkey huser hatt
    exact hfound (huser ▸ db.mem_userGateways hd hkey hatt)

theorem addMember_refreshed {henv : HandlerEnv} {userID : String}
    (h : GroupHandler.addMember henv db groupID userID = .ok (db', push)) (gatewayID : Uuid) :
    Finds db' gatewayID push ∨ SameView gatewayID db db' := by
  obtain ⟨uid, _, hres⟩ := GroupHandler.addMember_spec h
  obtain ⟨rfl, rfl⟩ := Prod.mk.inj hres
  apply user_refreshed
  intro ug hne
  have hnew : ug ≠ ⟨uid, groupID⟩ := fun heq => hne (congrArg UserGroup.userId heq)
  split
  · exact Iff.rfl
  · simp [hnew]

theorem removeMember_refreshed (h : GroupHandler.removeMember db groupID userID = .ok (db', push))
    (gatewayID : Uuid) : Finds db' gatewayID push ∨ SameView gatewayID db db' := by
  obtain ⟨rfl, rfl⟩ := Prod.mk.inj (GroupHandler.removeMember_spec h)
  apply user_refreshed
  intro ug hne
  have hother : ug ≠ ⟨userID, groupID⟩ := fun heq => hne (congrArg UserGroup.userId heq)
  simp [hother]

/-- The gateways that a request refreshes, read off the rows before it. -/
def Notifies (henv : HandlerEnv) (db : Database) (gatewayID : Uuid) : Request → Prop
  | .device (.approve id) => ∃ d ∈ db.devices, d.id = id ∧ d.wireguardPubkey ≠ "" ∧
      db.Attached gatewayID d
  | .device (.revoke id) => ∃ d ∈ db.devices, d.id = id ∧ d.wireguardPubkey ≠ "" ∧
      db.Attached gatewayID d
  | .addACL _ groupID networkID _ => ∃ nid, (henv.parseUuid networkID = some nid ∨
      ∃ a ∈ db.networkAcls, a.groupId = groupID ∧ a.networkId = nid) ∧
        db.ServesNetwork nid gatewayID
  | .removeACL groupID aclID => ∃ a ∈ db.networkAcls, a.groupId = groupID ∧ a.id ≠ aclID ∧
      db.ServesNetwork a.networkId gatewayID
  | .deleteNetwork id => henv.fullJoin = true ∧ gatewayID ∈ db.networkDeleteGateways id
  | _ => False

section Notifies

variable {henv : HandlerEnv} {db db' : Database} {push : Push} {gatewayID : Uuid}

theorem finds_setApproved (db : Database) (gatewayID id : Uuid) (value : Bool) {d : Device}
    (hd : d ∈ db.devices) (hid : d.id = id) :
    some gatewayID ∈ (db.setApproved id value).peerGateways d.wireguardPubkey ↔
      db.Attached gatewayID d := by
  rw [mem_peerGateways]
  constructor
  · rintro ⟨e, he, hkey, gn, hgn, hgw, hnet⟩
    obtain ⟨f, hf, rfl⟩ := List.mem_map.mp he
    rw [Device.setApproved_wireguardPubkey] at hkey
    obtain rfl := db.device_eq_of_pubkey hf hd hkey
    rw [Device.setApproved_networkId] at hnet
    exact ⟨gn, hgn, hgw, hnet⟩
  · rintro ⟨gn, hgn, hgw, hnet⟩
    exact ⟨d.setApproved id value, List.mem_map_of_mem hd, by simp, gn, hgn, hgw, by simpa using hnet⟩

theorem finds_device {r : DeviceHandler.Request}
    (h : handle henv db (.device r) = .ok (db', push)) :
    Finds db' gatewayID push ↔ Notifies henv db gatewayID (.device r) := by
  simp only [handle] at h
  cases hr : DeviceHandler.handle db r with
  | error err =>
    rw [hr] at h
    cases h
  | ok res =>
    obtain ⟨db₁, note⟩ := res
    rw [hr] at h
    obtain ⟨rfl, rfl⟩ := Prod.mk.inj (Except.ok.inj h)
    obtain ⟨d, hd, hid, rfl, rfl⟩ := DeviceHandler.handle_inv hr
    have happroval : ∀ value, (Finds (db.setApproved r.deviceID value) gatewayID
        ((if d.wireguardPubkey ≠ "" then some (r.debt d) else none).elim .nothing .peer) ↔
        ∃ e ∈ db.devices, e.id = r.deviceID ∧ e.wireguardPubkey ≠ "" ∧
          db.Attached gatewayID e) := by
      intro value
      have hdebt : (r.debt d).pubkey = d.wireguardPubkey := by cases r <;> rfl
      by_cases hkey : d.wireguardPubkey = ""
      · rw [if_neg (not_not.mpr hkey)]
        constructor
        · exact False.elim
        · rintro ⟨e, he, heid, hne, _⟩
          obtain rfl := db.device_eq_of_id he hd (heid.trans hid.symm)
          exact absurd hkey hne
      · rw [if_pos hkey]
        change some gatewayID ∈ Database.peerGateways _ (r.debt d).pubkey ↔ _
        rw [hdebt, finds_setApproved db gatewayID r.deviceID value hd hid]
        constructor
        · exact fun hatt => ⟨d, hd, hid, hkey, hatt⟩
        · rintro ⟨e, he, heid, _, hatt⟩
          obtain rfl := db.device_eq_of_id he hd (heid.trans hid.symm)
          exact hatt
    cases r with
    | approve id => exact happroval true
    | revoke id => exact happroval false
    | delete id claims =>
      refine ⟨fun hfound => ?_, False.elim⟩
      by_cases hkey : d.wireguardPubkey = ""
      · rw [if_neg (not_not.mpr hkey)] at hfound
        exact hfound
      · -- the row that leads to the gateways is gone
        rw [if_pos hkey] at hfound
        obtain ⟨e, he, heq, _⟩ := (mem_peerGateways _ _ gatewayID).mp hfound
        obtain ⟨he, hne⟩ := List.mem_filter.mp he
        obtain rfl := db.device_eq_of_pubkey he hd heq
        exact absurd (show _ = id from hid) (by simpa using hne)

theorem mem_groupGateways (db : Database) (gatewayID groupID : Uuid) :
    some gatewayID ∈ db.groupGateways groupID ↔
      ∃ a ∈ db.networkAcls, a.groupId = groupID ∧ db.ServesNetwork a.networkId gatewayID := by
  simp [Database.groupGateways, db.mem_networkGateways, and_assoc]

theorem finds_addACL {id groupID : Uuid} {networkID : String} {allowedIPs : Option (List String)}
    (h : GroupHandler.addACL henv db id groupID networkID allowedIPs = .ok (db', push)) :
    Finds db' gatewayID push ↔
      Notifies henv db gatewayID (.addACL id groupID networkID allowedIPs) := by
  obtain ⟨nid, cidrs, hparse, _, hres⟩ := GroupHandler.addACL_spec h
  obtain ⟨rfl, rfl⟩ := Prod.mk.inj hres
  change some gatewayID ∈ Database.groupGateways _ groupID ↔ _
  rw [mem_groupGateways]
  simp only [Notifies, hparse, Database.addNetworkAcl, List.mem_append,
    List.mem_singleton, Option.some.injEq]
  constructor
  · rintro ⟨a, ha | rfl, hgroup, hserves⟩
    · exact ⟨a.networkId, .inr ⟨a, ha, hgroup, rfl⟩, hserves⟩
    · exact ⟨nid, .inl rfl, hserves⟩
  · rintro ⟨n, rfl | ⟨a, ha, hgroup, rfl⟩, hserves⟩
    · exact ⟨_, .inr rfl, rfl, hserves⟩
    · exact ⟨a, .inl ha, hgroup, hserves⟩

theorem finds_removeACL {groupID aclID : Uuid}
    (h : GroupHandler.removeACL db groupID aclID = .ok (db', push)) :
    Finds db' gatewayID push ↔ Notifies henv db gatewayID (.removeACL groupID aclID) := by
  obtain ⟨rfl, rfl⟩ := Prod.mk.inj (GroupHandler.removeACL_spec h)
  change some gatewayID ∈ Database.groupGateways _ groupID ↔ _
  rw [mem_groupGateways]
  simp only [Database.removeNetworkAcl, List.mem_filter, decide_eq_true_eq]
  constructor
  · rintro ⟨a, ⟨ha, hkept⟩, hgroup, hserves⟩
    exact ⟨a, ha, hgroup, fun hid => hkept ⟨hid, hgroup⟩, hserves⟩
  · rintro ⟨a, ha, hgroup, hid, hserves⟩
    exact ⟨a, ⟨ha, fun hboth => hid hboth.1⟩, hgroup, hserves⟩

theorem finds_deleteNetwork {id : Uuid} (h : NetworkHandler.delete henv db id = .ok (db', push)) :
    Finds db' gatewayID push ↔ Notifies henv db gatewayID (.deleteNetwork id) := by
  obtain ⟨rfl, rfl⟩ := Prod.mk.inj (NetworkHandler.delete_spec h)
  unfold Notifies
  cases henv.fullJoin with
  | false => simp [Finds]
  | true =>
    simp only [if_true, true_and]
    split
    · rename_i hnil
      simp [Finds, hnil]
    · exact Iff.rfl

end Notifies

/-- Groups made or renamed and changes of members are always followed up. Any other request must
refresh every connected gateway whose view it changes. -/
def Reached (henv : HandlerEnv) (s : State Key) : Request → Prop
  | .createGroup _ _ _ => True
  | .updateGroup _ _ _ => True
  | .addMember _ _ => True
  | .removeMember _ _ => True
  | r => (handle henv s.db r).isOk = true →
      ∀ gatewayID, (s.connected gatewayID).isSome = true →
        Notifies henv s.db gatewayID r ∨ SameView gatewayID s.db (r.statement henv s.db)

section Exact

variable {henv : HandlerEnv} {s t : State Key} {r : Request}

omit [DecidableEq Key] in
theorem reached_iff {db : Database} {push : Push} (h : handle henv s.db r = .ok (db, push)) :
    (∀ gatewayID, (s.connected gatewayID).isSome = true →
      Finds db gatewayID push ∨ SameView gatewayID s.db db) ↔ Reached henv s r := by
  have hok : (handle henv s.db r).isOk = true := by rw [h]; rfl
  have hdb := handle_statement h
  -- a request whose query on the new rows agrees with the reading of the old ones
  have hread : (∀ gatewayID, Finds db gatewayID push ↔ Notifies henv s.db gatewayID r) →
      ((∀ gatewayID, (s.connected gatewayID).isSome = true →
        Finds db gatewayID push ∨ SameView gatewayID s.db db) ↔
      ((handle henv s.db r).isOk = true → ∀ gatewayID, (s.connected gatewayID).isSome = true →
        Notifies henv s.db gatewayID r ∨ SameView gatewayID s.db (r.statement henv s.db))) := by
    intro hfinds
    rw [← hdb]
    simp [hfinds, hok]
  cases r with
  | device r => exact hread fun gatewayID => finds_device h
  | deleteGroup id =>
    obtain rfl := (Prod.mk.inj (GroupHandler.delete_spec h)).2
    exact hread fun gatewayID => Iff.rfl
  | addMember groupID userID =>
    exact iff_of_true (fun gatewayID _ => addMember_refreshed h gatewayID) trivial
  | removeMember groupID userID =>
    exact iff_of_true (fun gatewayID _ => removeMember_refreshed h gatewayID) trivial
  | addACL id groupID networkID allowedIPs => exact hread fun gatewayID => finds_addACL h
  | removeACL groupID aclID => exact hread fun gatewayID => finds_removeACL h
  | createNetwork id req =>
    obtain ⟨_, _, _, _, hres⟩ := NetworkHandler.create_spec h
    obtain rfl := (Prod.mk.inj hres).2
    exact hread fun gatewayID => Iff.rfl
  | updateNetwork id req =>
    obtain ⟨_, _, _, _, hres⟩ := NetworkHandler.update_spec h
    obtain rfl := (Prod.mk.inj hres).2
    exact hread fun gatewayID => Iff.rfl
  | deleteNetwork id => exact hread fun gatewayID => finds_deleteNetwork h
  | _ =>
    exact iff_of_true (fun gatewayID _ => .inr (hdb ▸ sameView_groups gatewayID _ _)) trivial

omit [DecidableEq Key] in
theorem reached_refused {err : HandlerError} (h : handle henv s.db r = .error err) :
    Reached henv s r := by
  have hnone : (handle henv s.db r).isOk = true →
      ∀ gatewayID, (s.connected gatewayID).isSome = true →
        Notifies henv s.db gatewayID r ∨ SameView gatewayID s.db (r.statement henv s.db) := by
    rw [h]
    exact fun hok => Bool.noConfusion hok
  cases r <;> first | exact trivial | exact hnone

theorem inStep_step {env : AgentEnv Key} (reliable : env.fw.Reliable)
    (h : Step henv env s r t) (hs : InStep s) : InStep t ↔ Reached henv s r := by
  cases h with
  | handled n quiet hhandle =>
    rw [inStep_handled reliable hs quiet, reached_iff hhandle]
  | refused hhandle => exact iff_of_true hs (reached_refused hhandle)

end Exact

def plainHandlers : HandlerEnv := ⟨some, fun _ => none, fun _ => "", false⟩

def startedHost : Host := (init textKeys.fw bareHost).2

theorem startedHost_wired : Wired startedHost :=
  (wired_init textKeys_reliable rfl bareHost_refs).2

end Outpost.FirewallRefresh
