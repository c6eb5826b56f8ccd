import Outpost.GatewayFleet
import Outpost.ScimHandler
import Outpost.Shared.Runs

/-!
# Users that are switched off and on again

The admin API, SCIM and the approval of devices change who may be a peer. A handler's database
step and what it starts afterwards are separate steps; a state with nothing in flight is
quiescent.
-/

namespace Outpost.UserAccess

open GatewayAgent PeerNotifier Runs

variable {Key : Type} [DecidableEq Key]

inductive Request where
  | update (id : Uuid) (req : UserHandler.UpdateRequest)
  | activate (id : Uuid)
  | scim (r : Scim.Request)
  | approve (id : Uuid)

inductive Note where
  | user (note : UserHandler.Note)
  | device (note : DeviceHandler.Notification)
deriving DecidableEq

def Note.calls (n : NotifyEnv) (db : Database) : Note → List HubCall
  | .user note => note.calls db n
  | .device note => note.calls n db

def settle (db : Database) : Except HandlerError (Database × List Note) → Database × List Note
  | .ok res => res
  | .error _ => (db, [])

def handle (senv : Scim.Env) (db : Database) : Request → Database × List Note
  | .update id req =>
    settle db ((UserHandler.update db id req).map fun res => (res.1, res.2.map .user))
  | .activate id =>
    settle db ((UserHandler.activate db id).map fun res => (res.1, res.2.map .user))
  | .scim r => ((Scim.handle senv db r).1, [])
  | .approve id =>
    settle db ((DeviceHandler.approve db id).map fun res => (res.1, res.2.toList.map .device))

structure Core where
  db : Database
  inFlight : List Note
  lapsed : Uuid → Prop

structure State (Key : Type) where
  core : Core
  fleet : Fleet Key

def Inactive (db : Database) (userID : Uuid) : Prop :=
  ∃ u ∈ db.users, u.id = userID ∧ u.isActive = false

def Core.request (senv : Scim.Env) (c : Core) (r : Request) : Core where
  db := (handle senv c.db r).1
  inFlight := c.inFlight ++ (handle senv c.db r).2
  lapsed := fun userID => c.lapsed userID ∨ Inactive (handle senv c.db r).1 userID

inductive Label where
  | request (r : Request)
  | notify (note : Note)
  | link (l : Link)

section Steps

variable (senv : Scim.Env) (env : AgentEnv Key)

inductive Step : State Key → Label → State Key → Prop where
  | request {s : State Key} {r : Request} :
      Step s (.request r) ⟨s.core.request senv r, s.fleet⟩
  | notify {s : State Key} {note : Note} (n : NotifyEnv) :
      n.Reliable → note ∈ s.core.inFlight →
      Step s (.notify note) ⟨{ s.core with inFlight := s.core.inFlight.erase note },
        s.fleet.deliver env (note.calls n s.core.db)⟩
  | link {s : State Key} {l : Link} {fleet : Fleet Key} :
      Fleet.Links env s.core.db s.fleet l fleet → Step s (.link l) ⟨s.core, fleet⟩

end Steps

section Effect

variable {senv : Scim.Env} {db db' : Database} {d e : Device}

theorem ownerActive_congr (h : d.userId = e.userId) : db.OwnerActive d ↔ db.OwnerActive e := by
  unfold Database.OwnerActive
  rw [h]

theorem not_inactive (h : db.OwnerActive d) : ¬ Inactive db d.userId := by
  obtain ⟨u, hu, hid, hactive⟩ := h
  intro ⟨w, hw, hwid, hinactive⟩
  obtain rfl := db.user_eq_of_id hu hw (hid.trans hwid.symm)
  rw [hactive] at hinactive
  cases hinactive

/-- Devices keep their key and owner, and one that is listed now was listed before or is being
added. -/
structure Effect (db db' : Database) (notes : List Note) : Prop where
  rows : ∀ d' ∈ db'.devices, ∃ d ∈ db.devices,
    d.wireguardPubkey = d'.wireguardPubkey ∧ d.userId = d'.userId
  listed : ∀ gatewayID d', db'.Listed gatewayID d' →
    db.Listed gatewayID d' ∨
      ∃ allowedIPs, .device (.peerAdd d'.wireguardPubkey allowedIPs) ∈ notes

theorem effect_updateUser (id : Uuid) (f : UserFields) (notes : List Note) :
    Effect db (db.updateUser id f) notes where
  rows := fun d hd => ⟨d, hd, rfl, rfl⟩
  listed := fun _ _ hl => .inl hl

theorem effect_scim {id : Uuid} (h : Scim.Updated id db db') : Effect db db' [] := by
  obtain ⟨updates, -, rfl⟩ := h
  -- each update touches the users table only
  have hframe : (updates.foldl (fun db f => db.updateUser id f) db).devices = db.devices ∧
      ∀ gatewayID d, (updates.foldl (fun db f => db.updateUser id f) db).Listed gatewayID d ↔
        db.Listed gatewayID d := by
    induction updates generalizing db with
    | nil => exact ⟨rfl, fun _ _ => Iff.rfl⟩
    | cons f updates ih => exact ih
  exact ⟨fun d hd => ⟨d, hframe.1 ▸ hd, rfl, rfl⟩,
    fun gatewayID d hl => .inl ((hframe.2 gatewayID d).mp hl)⟩

theorem effect_approve {id : Uuid} (d : Device) (hd : db.deviceByID id = some d) :
    Effect db (db.setApproved id true)
      ((if d.wireguardPubkey ≠ "" then
        some (.peerAdd d.wireguardPubkey [host d.assignedIp ++ "/32"])
      else none : Option DeviceHandler.Notification).toList.map .device) where
  rows := by
    intro d' hd'
    obtain ⟨e, he, rfl⟩ := List.mem_map.mp hd'
    exact ⟨e, he, by simp, by simp⟩
  listed := by
    intro gatewayID d' hl
    obtain ⟨hin, hkey, hatt⟩ := hl
    obtain ⟨e, he, rfl⟩ := List.mem_map.mp hin
    by_cases hid : e.id = id
    · -- the approved row itself: its addition is in flight
      have hdid : d.id = id := by simpa using List.find?_some hd
      obtain rfl := db.device_eq_of_id he (List.mem_of_find?_eq_some hd) (hid.trans hdid.symm)
      right
      have hne : e.wireguardPubkey ≠ "" := by simpa using hkey.2
      exact ⟨[host e.assignedIp ++ "/32"], by simp [hne]⟩
    · left
      have hsame : e.setApproved id true = e := by simp [Device.setApproved, hid]
      rw [hsame] at hkey hatt ⊢
      exact ⟨he, hkey, hatt⟩

theorem effect_handle (r : Request) : Effect db (handle senv db r).1 (handle senv db r).2 := by
  have hrefused : Effect db db [] := ⟨fun d hd => ⟨d, hd, rfl, rfl⟩, fun _ _ hl => .inl hl⟩
  cases r with
  | update id req =>
    simp only [handle]
    cases h : UserHandler.update db id req with
    | error err => exact hrefused
    | ok res =>
      obtain rfl := UserHandler.update_spec h
      exact effect_updateUser id req.fields _
  | activate id =>
    simp only [handle]
    cases h : UserHandler.activate db id with
    | error err => exact hrefused
    | ok res =>
      obtain rfl := UserHandler.activate_spec h
      exact effect_updateUser id _ _
  | scim r => exact effect_scim (Scim.updated_handle r)
  | approve id =>
    simp only [handle, DeviceHandler.approve]
    cases h : db.deviceByID id with
    | none => exact hrefused
    | some d => exact effect_approve d h

def Request.isScim : Request → Bool
  | .scim _ => true
  | _ => false

theorem removePeers_mem_handle {r : Request} (hscim : r.isScim = false) (hd : d ∈ db.devices)
    (hactive : db.OwnerActive d) (hoff : ¬ (handle senv db r).1.OwnerActive d) :
    .user (.removePeers d.userId) ∈ (handle senv db r).2 := by
  cases r with
  | update id req =>
    simp only [handle] at hoff ⊢
    cases h : UserHandler.update db id req with
    | error err =>
      rw [h] at hoff
      exact absurd hactive hoff
    | ok res =>
      obtain rfl := UserHandler.update_spec h
      rw [h] at hoff
      change ¬ (db.updateUser id req.fields).OwnerActive d at hoff
      rw [db.ownerActive_updateUser id req.fields d hd] at hoff
      split at hoff
      · rename_i hid
        have hfalse : req.isActive = some false := by
          cases hreq : req.isActive with
          | none => exact absurd (.inr ⟨hreq, hactive⟩) hoff
          | some v =>
            cases v with
            | false => rfl
            | true => exact absurd (.inl hreq) hoff
        simp [settle, Except.map, UserHandler.UpdateRequest.notes, hfalse, hid]
      · exact absurd hactive hoff
  | activate id =>
    simp only [handle] at hoff
    cases h : UserHandler.activate db id with
    | error err =>
      rw [h] at hoff
      exact absurd hactive hoff
    | ok res =>
      obtain rfl := UserHandler.activate_spec h
      rw [h] at hoff
      change ¬ (db.updateUser id { isActive := some true }).OwnerActive d at hoff
      rw [db.ownerActive_updateUser id _ d hd] at hoff
      split at hoff
      · exact absurd (.inl rfl) hoff
      · exact absurd hactive hoff
  | scim r => cases hscim
  | approve id =>
    exfalso
    apply hoff
    simp only [handle, DeviceHandler.approve]
    cases db.deviceByID id with
    | _ => exact hactive

end Effect

section Notes

variable (env : AgentEnv Key) (db : Database)

def Note.Finds : Note → Uuid → Prop
  | .user (.removePeers userID), gatewayID => ∃ d ∈ db.devices,
      (d.userId = userID ∧ d.wireguardPubkey ≠ "") ∧ some gatewayID ∈ db.peerGateways d.wireguardPubkey
  | .user (.refresh userID), gatewayID => some gatewayID ∈ db.userGateways userID
  | .device note, gatewayID => some gatewayID ∈ db.peerGateways note.pubkey

def Note.Names : Note → String → Prop
  | .user (.removePeers userID), pubkey => ∃ d ∈ db.devices,
      (d.userId = userID ∧ d.wireguardPubkey ≠ "") ∧ pubkey = d.wireguardPubkey
  | .user (.refresh _), _ => False
  | .device (.peerAdd _ _), _ => False
  | .device (.peerRemove pk), pubkey => pubkey = pk

def Note.Drops (note : Note) (k : Key) : Prop :=
  ∃ pubkey, (note.Names db pubkey ∨ ∃ gatewayID, note.Finds db gatewayID ∧
    ∃ d ∈ db.devices, db.ZtnaBlocked gatewayID d ∧ d.wireguardPubkey = pubkey) ∧
    env.wg.parseKey pubkey = some k

def Note.Adds (note : Note) (k : Key) : Prop :=
  ∃ pubkey allowedIPs, note = .device (.peerAdd pubkey allowedIPs) ∧
    env.wg.parseKey pubkey = some k

variable {env db} {n : NotifyEnv} (reliable : n.Reliable)
include reliable

theorem removal_mem_removeUserPeers (userID : Uuid) (pubkey : String) :
    .broadcastPeerUpdate (removal pubkey) ∈ UserHandler.removeUserPeers db n userID ↔
      (Note.user (.removePeers userID)).Names db pubkey ∨
        ∃ gatewayID, (Note.user (.removePeers userID)).Finds db gatewayID ∧
          ∃ d ∈ db.devices, db.ZtnaBlocked gatewayID d ∧ d.wireguardPubkey = pubkey := by
  simp only [UserHandler.removeUserPeers, List.mem_flatMap, List.mem_map, List.mem_filter,
    decide_eq_true_eq, removal_mem_notifyPeerRemove reliable, Note.Names, Note.Finds]
  constructor
  · rintro ⟨_, ⟨d, ⟨hd, howned⟩, rfl⟩, hname | ⟨gatewayID, hg, hblocked⟩⟩
    · exact .inl ⟨d, hd, howned, hname⟩
    · exact .inr ⟨gatewayID, ⟨d, hd, howned, hg⟩, hblocked⟩
  · intro h
    rcases h with ⟨d, hd, howned, hname⟩ | ⟨gatewayID, ⟨d, hd, howned, hg⟩, hblocked⟩
    · exact ⟨_, ⟨d, ⟨hd, howned⟩, rfl⟩, .inl hname⟩
    · exact ⟨_, ⟨d, ⟨hd, howned⟩, rfl⟩, .inr ⟨gatewayID, hg, hblocked⟩⟩

theorem hasPeer_note {a : Agent Key} (managed : a.wg.isSome = true) (gatewayID : Uuid) (note : Note)
    (k : Key) :
    HasPeer (handleEvents env (eventsFor gatewayID (note.calls n db)) a) k ↔
      (note.Adds env k ∨ HasPeer a k) ∧ ¬ note.Drops env db k := by
  have hpush : ∀ {calls : List HubCall}, (∀ call ∈ calls, IsPush call) →
      (∀ pubkey, .broadcastPeerUpdate (removal pubkey) ∈ calls ↔
        (note.Names db pubkey ∨ ∃ gatewayID, note.Finds db gatewayID ∧
          ∃ d ∈ db.devices, db.ZtnaBlocked gatewayID d ∧ d.wireguardPubkey = pubkey)) →
      ∀ b : Agent Key, HasPeer (handleEvents env (eventsFor gatewayID calls) b) k ↔
        HasPeer b k ∧ ¬ note.Drops env db k := by
    intro calls hcalls hmem b
    rw [hasPeer_push gatewayID hcalls]
    apply and_congr_right
    intro _
    simp only [hmem, Note.Drops, not_exists, not_and, ne_eq]
  have hnothing (h : ∀ pk ips, note ≠ .device (.peerAdd pk ips)) : ¬ note.Adds env k := by
    rintro ⟨pk, ips, heq, _⟩
    exact h pk ips heq
  cases note with
  | user note =>
    rw [or_iff_right (hnothing (by simp))]
    apply hpush (UserHandler.calls_isPush n note)
    intro pubkey
    cases note with
    | removePeers userID => exact removal_mem_removeUserPeers reliable userID pubkey
    | refresh userID =>
      simp only [Note.Names, false_or]
      exact removal_mem_found reliable _ _ pubkey
  | device note =>
    cases note with
    | peerRemove pk =>
      rw [or_iff_right (hnothing (by simp))]
      exact hpush (notifyPeerRemove_isPush n db pk) (removal_mem_notifyPeerRemove reliable db pk) a
    | peerAdd pk ips =>
      -- the addition comes first, the refresh of the gateways after it
      change HasPeer (handleEvents env (eventsFor gatewayID (refreshFirewallForGateways n db
        (findGatewaysForPeer n db pk))) (handleEvent env a (.peerUpdate (addition pk ips)))) k ↔ _
      rw [hpush (refresh_isPush n db _) (by
        intro pubkey
        simp only [Note.Names, false_or]
        exact removal_mem_found reliable _ _ pubkey)]
      apply and_congr_left
      intro _
      rw [addition, hasPeer_add managed]
      simp [Note.Adds]

end Notes

section Access

variable (env : AgentEnv Key)

def Served (a : Agent Key) (d : Device) : Prop :=
  ∃ k, env.wg.parseKey d.wireguardPubkey = some k ∧ HasPeer a k

def Barred (db : Database) (d : Device) : Prop :=
  d ∈ db.devices ∧ d.wireguardPubkey ≠ "" ∧ ¬ db.OwnerActive d

def Core.Regained (c : Core) (gatewayID : Uuid) (d : Device) : Prop :=
  c.db.Listed gatewayID d ∧ c.lapsed d.userId ∧ c.db.OwnerActive d

def Core.Removing (c : Core) (d : Device) : Prop := .user (.removePeers d.userId) ∈ c.inFlight

def Adding (inFlight : List Note) (d : Device) : Prop :=
  ∃ allowedIPs, .device (.peerAdd d.wireguardPubkey allowedIPs) ∈ inFlight

def NoBarredPeer (s : State Key) : Prop :=
  s.fleet.All fun _ a => ∀ d, Barred s.core.db d → ¬ Served env a d

def RegainedServed (s : State Key) : Prop :=
  s.fleet.All fun gatewayID a => ∀ d, s.core.Regained gatewayID d → Served env a d

structure Fine (c : Core) (gatewayID : Uuid) (a : Agent Key) : Prop where
  managed : a.wg.isSome = true
  removed : ∀ d, Barred c.db d → Served env a d → c.Removing d
  restored : ∀ d, c.Regained gatewayID d → Served env a d ∨ Adding c.inFlight d

def Sound (s : State Key) : Prop := s.fleet.All (Fine env s.core)

/-- SCIM switches off only owners without a peer. An owner who is switched on has every served
device among the peers already. -/
def RequestCooperates (senv : Scim.Env) (c : Core) (r : Request) (gatewayID : Uuid)
    (a : Agent Key) : Prop :=
  (r.isScim = true → ∀ d ∈ c.db.devices, d.wireguardPubkey ≠ "" → c.db.OwnerActive d →
    ¬ (handle senv c.db r).1.OwnerActive d → Served env a d → c.Removing d) ∧
  ∀ d, c.db.Listed gatewayID d → ¬ c.db.OwnerActive d → (handle senv c.db r).1.OwnerActive d →
    Served env a d ∨ Adding c.inFlight d

/-- What is added belongs to an active owner, or its removal is still to come; what is dropped, not
to one who came back. -/
def NoteCooperates (c : Core) (note : Note) (gatewayID : Uuid) (a : Agent Key) : Prop :=
  (∀ d, Barred c.db d → ∀ k, env.wg.parseKey d.wireguardPubkey = some k → note.Adds env k →
    note.Drops env c.db k ∨ c.Removing d) ∧
  ∀ d, c.Regained gatewayID d →
    (∃ k, env.wg.parseKey d.wireguardPubkey = some k ∧ (note.Adds env k ∨ HasPeer a k) ∧
      ¬ note.Drops env c.db k) ∨ Adding (c.inFlight.erase note) d

/-- A stream opens only when neither the resync nor the machine has a device of an inactive owner,
and the keys of owners who came back can be read. -/
def ResyncCooperates (c : Core) (gatewayID : Uuid) (a : Agent Key) : Prop :=
  (∀ d, Barred c.db d → ∀ k, env.wg.parseKey d.wireguardPubkey = some k →
    Offered env c.db gatewayID k ∨ HasPeer a k → c.Removing d) ∧
  ∀ d, c.Regained gatewayID d →
    (env.wg.parseKey d.wireguardPubkey).isSome = true ∨ Adding c.inFlight d

def Cooperates (senv : Scim.Env) (s : State Key) : Label → Prop
  | .request r => s.fleet.All (RequestCooperates env senv s.core r)
  | .notify note => s.fleet.All (NoteCooperates env s.core note)
  | .link l => s.fleet.Kept (ResyncCooperates env s.core) l

variable {env} {senv : Scim.Env} {c : Core} {gatewayID : Uuid} {a : Agent Key}

omit [DecidableEq Key] in
theorem Served.congr {d e : Device} (h : d.wireguardPubkey = e.wireguardPubkey)
    (hs : Served env a d) : Served env a e := by
  unfold Served at hs ⊢
  rwa [← h]

omit [DecidableEq Key] in
theorem fine_request (hf : Fine env c gatewayID a) {r : Request}
    (hcoop : RequestCooperates env senv c r gatewayID a) :
    Fine env (c.request senv r) gatewayID a where
  managed := hf.managed
  removed := by
    intro d' hbarred hserved
    obtain ⟨hd', hkey, hoff⟩ := hbarred
    obtain ⟨d, hd, hpub, huser⟩ := (effect_handle r).rows d' hd'
    have hserved' : Served env a d := hserved.congr hpub.symm
    have hkey' : d.wireguardPubkey ≠ "" := hpub ▸ hkey
    have hoff' : ¬ (handle senv c.db r).1.OwnerActive d := fun h => hoff ((ownerActive_congr huser).mp h)
    change .user (.removePeers d'.userId) ∈ c.inFlight ++ (handle senv c.db r).2
    rw [← huser]
    by_cases hactive : c.db.OwnerActive d
    · -- the request switches the owner off
      cases hscim : r.isScim with
      | false =>
        exact List.mem_append_right _ (removePeers_mem_handle hscim hd hactive hoff')
      | true =>
        exact List.mem_append_left _ (hcoop.1 hscim d hd hkey' hactive hoff' hserved')
    · exact List.mem_append_left _ (hf.removed d ⟨hd, hkey', hactive⟩ hserved')
  restored := by
    intro d hregained
    obtain ⟨hl, hlapsed, hon⟩ := hregained
    have hgrows : Adding c.inFlight d → Adding (c.request senv r).inFlight d := by
      intro ⟨ips, hin⟩
      exact ⟨ips, List.mem_append_left _ hin⟩
    rcases (effect_handle r).listed gatewayID d hl with hl' | ⟨ips, hin⟩
    · by_cases hactive : c.db.OwnerActive d
      · have hlapsed' : c.lapsed d.userId := hlapsed.resolve_right (not_inactive hon)
        exact (hf.restored d ⟨hl', hlapsed', hactive⟩).imp_right hgrows
      · exact (hcoop.2 d hl' hactive hon).imp_right hgrows
    · exact .inr ⟨ips, List.mem_append_right _ hin⟩

theorem fine_notify (hf : Fine env c gatewayID a) {n : NotifyEnv} (reliable : n.Reliable)
    {note : Note} (hcoop : NoteCooperates env c note gatewayID a) :
    Fine env { c with inFlight := c.inFlight.erase note } gatewayID
      (handleEvents env (eventsFor gatewayID (note.calls n c.db)) a) where
  managed := by rw [managed_handleEvents, hf.managed]
  removed := by
    intro d hbarred hserved
    obtain ⟨k, hk, hpeer⟩ := hserved
    obtain ⟨hbefore, hkept⟩ := (hasPeer_note reliable hf.managed gatewayID note k).mp hpeer
    have hremoving : c.Removing d := by
      rcases hbefore with hadds | hpeer'
      · exact (hcoop.1 d hbarred k hk hadds).resolve_left hkept
      · exact hf.removed d hbarred ⟨k, hk, hpeer'⟩
    -- the note that has run is not the one that removes this owner's peers
    have hother : Note.user (.removePeers d.userId) ≠ note := by
      rintro rfl
      exact hkept ⟨_, .inl ⟨d, hbarred.1, ⟨rfl, hbarred.2.1⟩, rfl⟩, hk⟩
    exact (List.mem_erase_of_ne hother).mpr hremoving
  restored := by
    intro d hregained
    rcases hcoop.2 d hregained with ⟨k, hk, hafter⟩ | hadding
    · exact .inl ⟨k, hk, (hasPeer_note reliable hf.managed gatewayID note k).mpr hafter⟩
    · exact .inr hadding

theorem fine_resync_iff (managed : a.wg.isSome = true) {orders : SyncOrders} {cfg : GatewayConfig}
    (hcfg : syncOpening {} orders c.db gatewayID = some cfg) :
    Fine env c gatewayID (handleEvent env a (.fullResync cfg)) ↔
      ResyncCooperates env c gatewayID a := by
  constructor
  · intro hf
    constructor
    · intro d hbarred k hk hbrought
      exact hf.removed d hbarred ⟨k, hk, (hasPeer_resync managed hcfg k).mpr hbrought⟩
    · intro d hregained
      apply (hf.restored d hregained).imp_left
      intro ⟨k, hk, _⟩
      rw [hk]
      rfl
  · intro hcoop
    refine ⟨by rw [managed_handleEvent, managed], ?_, ?_⟩
    · intro d hbarred ⟨k, hk, hpeer⟩
      exact hcoop.1 d hbarred k hk ((hasPeer_resync managed hcfg k).mp hpeer)
    · intro d hregained
      apply (hcoop.2 d hregained).imp_left
      intro hsome
      obtain ⟨k, hk⟩ := Option.isSome_iff_exists.mp hsome
      exact ⟨k, hk, (hasPeer_resync managed hcfg k).mpr (.inl (.inl ⟨d, hregained.1, hk⟩))⟩

theorem sound_step {s t : State Key} {l : Label}
    (h : Guarded (Step senv env) (Cooperates env senv) s l t) (hs : Sound env s) : Sound env t := by
  obtain ⟨hstep, hcoop⟩ := h
  cases hstep with
  | request => exact fun g a hc => fine_request (hs g a hc) (hcoop g a hc)
  | notify n reliable _ =>
    refine (Fleet.all_deliver _).mpr ?_
    exact fun g a hc => fine_notify (hs g a hc) reliable (hcoop g a hc)
  | link hl =>
    refine (hs.links_iff ?_ hl).mpr hcoop
    exact fun g a orders cfg managed hcfg => fine_resync_iff managed hcfg

/-- A run of cooperating steps leads, whenever nothing is in flight, to a state in which no inactive
owner has a peer and every owner who came back has all of theirs. -/
theorem inactive_owners_lose_peers {s t : State Key} {labels : List Label}
    (managed : s.fleet.All fun _ a => a.wg.isSome = true)
    (start : NoBarredPeer env s)
    (fresh : ∀ d ∈ s.core.db.devices, s.core.lapsed d.userId → ¬ s.core.db.OwnerActive d)
    (run : Run (Guarded (Step senv env) (Cooperates env senv)) s labels t)
    (quiet : t.core.inFlight = []) :
    NoBarredPeer env t ∧ RegainedServed env t := by
  have hs : Sound env s := by
    intro g a hc
    refine ⟨managed g a hc, ?_, ?_⟩
    · intro d hbarred hserved
      exact absurd hserved (start g a hc d hbarred)
    · intro d ⟨hl, hlapsed, hactive⟩
      exact absurd hactive (fresh d hl.1 hlapsed)
  have ht : Sound env t := run.invariant (fun _ _ _ h => sound_step h) hs
  constructor
  · intro g a hc d hbarred hserved
    have hin := (ht g a hc).removed d hbarred hserved
    rw [Core.Removing, quiet] at hin
    cases hin
  · intro g a hc d hregained
    rcases (ht g a hc).restored d hregained with hserved | ⟨ips, hin⟩
    · exact hserved
    · rw [quiet] at hin
      cases hin

end Access

def office (db : Database) (notes : List Note) (lapsed : Uuid → Prop) (a : Agent String) :
    State String :=
  ⟨⟨db, notes, lapsed⟩, .one "gw" a⟩

def offDb : Database := servedDb.updateUser "alice" { isActive := some false }

def plainScim : Scim.Env := ⟨fun _ => .error "unsupported emails value"⟩

def deactivation : Request := .update "alice" ⟨none, some false, none⟩

def told (note : Note) (db : Database) (a : Agent String) : Agent String :=
  handleEvents textKeys (eventsFor "gw" (note.calls quietNotify db)) a

variable {db : Database} {notes : List Note} {lapsed : Uuid → Prop} {a : Agent String}

theorem notify_step {note : Note} (hin : note ∈ notes) :
    Step plainScim textKeys (office db notes lapsed a) (.notify note)
      (office db (notes.erase note) lapsed (told note db a)) := by
  have hstep : Step plainScim textKeys (office db notes lapsed a) _ _ :=
    .notify quietNotify quietNotify_reliable hin
  rw [show (office db notes lapsed a).fleet = .one "gw" a from rfl, Fleet.deliver_one] at hstep
  exact hstep

theorem hasPeer_told (hconfig : db.trustScoreConfig = none) (hpolicies : db.ztnaPolicies = [])
    (managed : a.wg.isSome = true) (note : Note) :
    HasPeer (told note db a) "k" ↔
      (note.Adds textKeys "k" ∨ HasPeer a "k") ∧ ¬ note.Names db "k" := by
  rw [told, hasPeer_note quietNotify_reliable managed]
  apply and_congr_right
  intro _
  apply not_congr
  constructor
  · rintro ⟨pubkey, hname | ⟨g, _, d, _, hblocked, _⟩, hkey⟩
    · obtain ⟨_, rfl⟩ : ¬ pubkey = "" ∧ pubkey = "k" := by simpa [textKeys] using hkey
      exact hname
    · exact absurd hblocked (Database.not_ztnaBlocked hconfig hpolicies g d)
  · intro hname
    exact ⟨"k", .inl hname, rfl⟩

def removePeersNote : Note := .user (.removePeers "alice")

def refreshNote : Note := .user (.refresh "alice")

def approvalNote : Note := .device (.peerAdd "k" [host (laptop "k").assignedIp ++ "/32"])

def start : State String := office servedDb [] (fun _ => False) peeredAgent

def onceOff (userID : Uuid) : Prop := False ∨ Inactive offDb userID

def strippedAgent : Agent String := told refreshNote offDb (told removePeersNote offDb peeredAgent)

theorem deactivation_step :
    Step plainScim textKeys start (.request deactivation)
      (office offDb [removePeersNote, refreshNote] onceOff peeredAgent) :=
  .request

theorem strippedAgent_managed : strippedAgent.wg.isSome = true := by
  rfl

theorem strippedAgent_peer : ¬ HasPeer strippedAgent "k" := by
  have hmanaged : (told removePeersNote offDb peeredAgent).wg.isSome = true := by
    rfl
  unfold strippedAgent
  rw [hasPeer_told rfl rfl hmanaged, hasPeer_told rfl rfl rfl]
  rintro ⟨hadds | ⟨_, hnamed⟩, _⟩
  · obtain ⟨pk, ips, heq, _⟩ := hadds
    cases heq
  · exact hnamed ⟨laptop "k", .head _, ⟨rfl, by decide⟩, rfl⟩

theorem deactivation_run :
    Run (Step plainScim textKeys) start
      [.request deactivation, .notify removePeersNote, .notify refreshNote]
      (office offDb [] onceOff strippedAgent) :=
  .cons deactivation_step
    (.cons (notify_step List.mem_cons_self) (.single (notify_step List.mem_cons_self)))

theorem barred_laptop : Barred offDb (laptop "k") :=
  ⟨.head _, by decide, by decide⟩

theorem barred_peer (hbarred : Barred db (laptop "k")) (hpeer : HasPeer a "k") :
    ¬ NoBarredPeer textKeys (office db notes lapsed a) := by
  intro h
  exact h "gw" a (Fleet.connected_one "gw" a) (laptop "k") hbarred ⟨"k", rfl, hpeer⟩

/-- SCIM switches the owner off and leaves the peer; a resync or an approval brings it back; and an
owner who is activated again has no peer. -/
theorem inactive_keeps_peer_active_has_none :
    (NoBarredPeer textKeys start ∧ start.core.inFlight = []) ∧
    (∃ t, Run (Step plainScim textKeys) start [.request (.scim (.delete "alice"))] t ∧
      t.core.inFlight = [] ∧ ¬ NoBarredPeer textKeys t) ∧
    (∃ t, Run (Step plainScim textKeys) start ([.request deactivation, .notify removePeersNote,
        .notify refreshNote] ++ [.link (.resync "gw")]) t ∧
      t.core.inFlight = [] ∧ ¬ NoBarredPeer textKeys t) ∧
    (∃ t, Run (Step plainScim textKeys) start ([.request deactivation, .notify removePeersNote,
        .notify refreshNote] ++ [.request (.approve "laptop"), .notify approvalNote]) t ∧
      t.core.inFlight = [] ∧ ¬ NoBarredPeer textKeys t) ∧
    ∃ t, Run (Step plainScim textKeys) start ([.request deactivation, .notify removePeersNote,
        .notify refreshNote] ++ [.request (.activate "alice")]) t ∧
      t.core.inFlight = [] ∧ ¬ RegainedServed textKeys t := by
  refine ⟨⟨?_, rfl⟩, ?_, ?_, ?_, ?_⟩
  · intro g a _ d hbarred
    obtain rfl := List.mem_singleton.mp hbarred.1
    exact absurd (by decide) hbarred.2.2
  · exact ⟨office offDb [] onceOff peeredAgent, .single .request, rfl,
      barred_peer barred_laptop peeredAgent_peer⟩
  · have hcfg := syncOpening_noFaults .asListed offDb "gw"
    have hoffered : Offered textKeys offDb "gw" "k" := .inl ⟨laptop "k", servedDb_listed, rfl⟩
    have hback := (hasPeer_resync strippedAgent_managed hcfg "k").mpr (.inl hoffered)
    have hstep : Step plainScim textKeys (office offDb [] onceOff strippedAgent)
        (.link (.resync "gw")) _ :=
      .link (.resync .asListed ⟨officeGateway, .head _, rfl, rfl⟩ rfl
        strippedAgent_managed hcfg)
    rw [show (office offDb [] onceOff strippedAgent).fleet = .one "gw" strippedAgent from rfl,
      Fleet.resync_one] at hstep
    exact ⟨_, deactivation_run.trans (.single hstep), rfl, barred_peer barred_laptop hback⟩
  · have hstep : Step plainScim textKeys (office offDb [] onceOff strippedAgent)
        (.request (.approve "laptop")) (office (offDb.setApproved "laptop" true) [approvalNote] _
          strippedAgent) := .request
    have hback : HasPeer (told approvalNote (offDb.setApproved "laptop" true) strippedAgent) "k" :=
      (hasPeer_told rfl rfl strippedAgent_managed approvalNote).mpr
        ⟨.inl ⟨_, _, rfl, rfl⟩, fun h => h⟩
    exact ⟨_, deactivation_run.trans (.cons hstep (.single (notify_step List.mem_cons_self))), rfl,
      barred_peer ⟨.head _, by decide, by decide⟩ hback⟩
  · have hstep : Step plainScim textKeys (office offDb [] onceOff strippedAgent)
        (.request (.activate "alice")) (office (offDb.updateUser "alice" { isActive := some true }) []
          _ strippedAgent) := .request
    refine ⟨_, deactivation_run.trans (.single hstep), rfl, ?_⟩
    intro h
    have hoff : Inactive offDb "alice" := ⟨_, .head _, rfl, rfl⟩
    obtain ⟨k, hk, hpeer⟩ := h "gw" strippedAgent (Fleet.connected_one _ _) (laptop "k")
      ⟨servedDb_listed, .inl (.inr hoff), by decide⟩
    obtain rfl : "k" = k := Option.some.inj hk
    exact strippedAgent_peer hpeer

/-- The laptop's owner is switched off by an administrator, and the gateway hears of it. -/
theorem deactivation_removes_peer :
    ∃ t, Run (Guarded (Step plainScim textKeys) (Cooperates textKeys plainScim)) start
        [.request deactivation, .notify removePeersNote, .notify refreshNote] t ∧
      t.core.inFlight = [] ∧ Barred t.core.db (laptop "k") ∧
      NoBarredPeer textKeys t ∧ RegainedServed textKeys t := by
  have howner : ∀ d ∈ servedDb.devices, servedDb.OwnerActive d := by
    intro d hd
    obtain rfl := List.mem_singleton.mp hd
    decide
  have hquiet (notes : List Note) (b : Agent String) (note : UserHandler.Note) :
      Cooperates textKeys plainScim (office offDb notes onceOff b) (.notify (.user note)) := by
    intro g c _
    constructor
    · rintro d _ k _ ⟨_, _, heq, _⟩
      cases heq
    · intro d ⟨hl, _, hactive⟩
      obtain rfl := List.mem_singleton.mp hl.1
      exact absurd hactive barred_laptop.2.2
  have hrequest : Cooperates textKeys plainScim start (.request deactivation) := by
    intro g b _
    refine ⟨fun hscim => absurd hscim (by decide), ?_⟩
    intro d hl hoff
    exact absurd (howner d hl.1) hoff
  have hrun : Run (Guarded (Step plainScim textKeys) (Cooperates textKeys plainScim)) start
      [.request deactivation, .notify removePeersNote, .notify refreshNote]
      (office offDb [] onceOff strippedAgent) :=
    .cons ⟨deactivation_step, hrequest⟩
      (.cons ⟨notify_step List.mem_cons_self, hquiet _ _ _⟩
        (.single ⟨notify_step List.mem_cons_self, hquiet _ _ _⟩))
  exact ⟨_, hrun, rfl, barred_laptop, inactive_owners_lose_peers
    ((Fleet.all_one "gw" peeredAgent).mpr rfl) (fun g b _ d hb => absurd (howner d hb.1) hb.2.2)
    (fun _ _ h => False.elim h) hrun rfl⟩

end Outpost.UserAccess
