import Outpost.Enrollment
import Outpost.GatewayFleet

/-!
# Peer updates and the peer query

A device handler tells all gateways of one device, by key and address; a gateway that opens its
stream gets the rows of `fetchPeers` instead.
-/

namespace Outpost.PeerTables

open GatewayAgent PeerNotifier WireGuard DeviceHandler

variable {Key : Type} [DecidableEq Key]

inductive Request where
  | enroll (env : EnrollEnv) (req : EnrollRequest) (claims : Option Claims)
  | device (r : DeviceHandler.Request)

def handle (db : Database) : Request → Except HandlerError (Database × Option Notification)
  | .enroll env req claims => Enrollment.enroll env db req claims
  | .device r => DeviceHandler.handle db r

/-- The rows that a request gives access, where `db'` holds the rows after it. -/
def Request.Adds (db db' : Database) : Request → Device → Prop
  | .enroll _ _ _, d => d ∈ db'.devices ∧ d ∉ db.devices
  | .device (.approve id), d => d ∈ db'.devices ∧ d.id = id ∧ d.wireguardPubkey ≠ ""
  | .device (.revoke _), _ => False
  | .device (.delete _ _), _ => False

def Request.Removes (db : Database) : Request → Device → Prop
  | .enroll _ _ _, _ => False
  | .device (.approve _), _ => False
  | .device (.revoke id), d => d ∈ db.devices ∧ d.id = id ∧ d.wireguardPubkey ≠ ""
  | .device (.delete id _), d => d ∈ db.devices ∧ d.id = id ∧ d.wireguardPubkey ≠ ""

/-- Only devices with a key in `touched` change their place in the peer query. -/
structure Frame (db db' : Database) (touched : String → Prop) : Prop where
  s2s : ∀ gatewayID pubkey, db'.S2SKey gatewayID pubkey ↔ db.S2SKey gatewayID pubkey
  listed : ∀ gatewayID e, ¬ touched e.wireguardPubkey →
    (db'.Listed gatewayID e ↔ db.Listed gatewayID e)

inductive Effect (db db' : Database) (r : Request) : Option Notification → Prop where
  | quiet : (∀ e, ¬ r.Adds db db' e) → (∀ e, ¬ r.Removes db e) →
      Frame db db' (fun _ => False) → Effect db db' r none
  | added (d : Device) : d ∈ db'.devices → (∀ e, r.Adds db db' e ↔ e = d) →
      (∀ e, ¬ r.Removes db e) → Frame db db' (· = d.wireguardPubkey) →
      Effect db db' r (some (.peerAdd d.wireguardPubkey [host d.assignedIp ++ "/32"]))
  | removed (d : Device) : (∀ e, ¬ r.Adds db db' e) → (∀ e, r.Removes db e ↔ e = d) →
      Frame db db' (· = d.wireguardPubkey) →
      (∀ gatewayID e, db'.Listed gatewayID e → e.wireguardPubkey ≠ d.wireguardPubkey) →
      Effect db db' r (some (.peerRemove d.wireguardPubkey))

section Effect

variable {db : Database}
variable {d : Device} {db' : Database} {note : Option Notification} {id : Uuid}
  {r : DeviceHandler.Request}

theorem frame_insertDevice (hd : db.Insertable d) :
    Frame db (db.insertDevice d hd) (· = d.wireguardPubkey) where
  s2s := fun _ _ => Iff.rfl
  listed := by
    intro gatewayID e hother
    have hmem : e ∈ (db.insertDevice d hd).devices ↔ e ∈ db.devices := by
      constructor
      · intro he
        rcases List.mem_append.mp he with he | he
        · exact he
        · obtain rfl := List.mem_singleton.mp he
          exact absurd rfl hother
      · exact List.mem_append_left _
    exact and_congr_left' hmem

theorem effect_enroll {env : EnrollEnv} {req : EnrollRequest} {claims : Option Claims}
    (h : Enrollment.enroll env db req claims = .ok (db', note)) :
    Effect db db' (.enroll env req claims) note := by
  rcases Enrollment.enroll_spec h with hsame | ⟨d, hd, _, _, _, hnew⟩
  · obtain ⟨rfl, rfl⟩ := Prod.mk.inj hsame
    exact .quiet (fun e he => he.2 he.1) (fun _ he => he) ⟨fun _ _ => Iff.rfl, fun _ _ _ => Iff.rfl⟩
  · obtain ⟨rfl, rfl⟩ := Prod.mk.inj hnew
    refine .added d (List.mem_append_right _ (List.mem_singleton_self d)) ?_ (fun _ he => he)
      (frame_insertDevice hd)
    intro e
    constructor
    · intro he
      rcases List.mem_append.mp he.1 with hold | hnew
      · exact absurd hold he.2
      · exact List.mem_singleton.mp hnew
    · rintro rfl
      exact ⟨List.mem_append_right _ (List.mem_singleton_self e), fun hin => hd.id e hin rfl⟩

theorem frame_statement (r : DeviceHandler.Request) (hd : d ∈ db.devices) (hid : d.id = r.deviceID)
    :
    Frame db (r.statement db) (· = d.wireguardPubkey) where
  s2s := by
    intro gatewayID pubkey
    cases r <;> exact Iff.rfl
  listed := by
    intro gatewayID e hother
    have hmem : e ∈ (r.statement db).devices ↔ e ∈ db.devices := by
      by_cases heid : e.id = r.deviceID
      · constructor
        · intro he
          -- the row itself, which keeps its key
          exfalso
          apply hother
          cases r with
          | delete id claims =>
            have hne := (List.mem_filter.mp he).2
            simp only [decide_not, Bool.not_eq_eq_eq_not, Bool.not_true,
              decide_eq_false_iff_not] at hne
            exact absurd heid hne
          | _ =>
            obtain ⟨f, hf, rfl⟩ := List.mem_map.mp he
            rw [Device.setApproved_id] at heid
            rw [db.device_eq_of_id hf hd (heid.trans hid.symm), Device.setApproved_wireguardPubkey]
        · intro he
          exact absurd (congrArg _ (db.device_eq_of_id he hd (heid.trans hid.symm))) hother
      · exact mem_statement heid
    have hatt : (r.statement db).Attached gatewayID e ∨ (r.statement db).LegacyAttached gatewayID e ↔
        db.Attached gatewayID e ∨ db.LegacyAttached gatewayID e := by
      cases r <;> exact Iff.rfl
    unfold Database.Listed
    rw [hmem, hatt]

theorem frame_keyless (r : DeviceHandler.Request) (hd : d ∈ db.devices) (hid : d.id = r.deviceID)
    (hkey : d.wireguardPubkey = "") :
    Frame db (r.statement db) (fun _ => False) where
  s2s := (frame_statement r hd hid).s2s
  listed := by
    intro gatewayID e _
    by_cases he : e.wireguardPubkey = d.wireguardPubkey
    · have hempty : e.wireguardPubkey = "" := he.trans hkey
      constructor
      · intro hl
        exact absurd hempty hl.2.1.2
      · intro hl
        exact absurd hempty hl.2.1.2
    · exact (frame_statement r hd hid).listed gatewayID e he

theorem mem_setApproved {value : Bool} {e : Device} (hd : d ∈ db.devices) (hid : d.id = id)
    (he : e ∈ (db.setApproved id value).devices) (heid : e.id = id) :
    e = d.setApproved id value := by
  obtain ⟨f, hf, rfl⟩ := List.mem_map.mp he
  rw [Device.setApproved_id] at heid
  rw [db.device_eq_of_id hf hd (heid.trans hid.symm)]

theorem effect_approve (hd : d ∈ db.devices) (hid : d.id = id) (hkey : d.wireguardPubkey ≠ "") :
    Effect db (db.setApproved id true) (.device (.approve id))
      (some (.peerAdd d.wireguardPubkey [host d.assignedIp ++ "/32"])) := by
  have hrow : d.setApproved id true ∈ (db.setApproved id true).devices := List.mem_map_of_mem hd
  have hadds : ∀ e, Request.Adds db (db.setApproved id true) (.device (.approve id)) e ↔
      e = d.setApproved id true := by
    intro e
    constructor
    · intro he
      exact mem_setApproved hd hid he.1 he.2.1
    · rintro rfl
      exact ⟨hrow, by rw [Device.setApproved_id, hid],
        by rw [Device.setApproved_wireguardPubkey]; exact hkey⟩
  have hframe := frame_statement (.approve id) hd hid
  rw [← Device.setApproved_wireguardPubkey id true d] at hframe ⊢
  rw [← Device.setApproved_assignedIp id true d]
  exact .added _ hrow hadds (fun _ he => he) hframe

theorem effect_removal (hremoval : r.isRemoval = true) (hd : d ∈ db.devices)
    (hid : d.id = r.deviceID) (hkey : d.wireguardPubkey ≠ "") :
    Effect db (r.statement db) (.device r) (some (.peerRemove d.wireguardPubkey)) := by
  have hsame : ∀ id, d.id = id → ∀ e,
      (e ∈ db.devices ∧ e.id = id ∧ e.wireguardPubkey ≠ "") ↔ e = d := by
    intro id hid e
    constructor
    · intro he
      exact db.device_eq_of_id he.1 hd (he.2.1.trans hid.symm)
    · rintro rfl
      exact ⟨hd, hid, hkey⟩
  cases r with
  | approve id => cases hremoval
  | revoke id =>
    refine .removed d (fun _ he => he) (hsame id hid) (frame_statement (.revoke id) hd hid) ?_
    intro gatewayID e hl heq
    -- the row with this key is the revoked one
    obtain ⟨f, hf, rfl⟩ := List.mem_map.mp hl.1
    rw [Device.setApproved_wireguardPubkey] at heq
    obtain rfl := db.device_eq_of_pubkey hf hd heq
    have happroved := hl.2.1.1
    change f.id = id at hid
    simp [Device.setApproved, hid] at happroved
  | delete id claims =>
    refine .removed d (fun _ he => he) (hsame id hid) (frame_statement (.delete id claims) hd hid) ?_
    intro gatewayID e hl heq
    obtain ⟨he, hne⟩ := List.mem_filter.mp hl.1
    obtain rfl := db.device_eq_of_pubkey he hd heq
    change e.id = id at hid
    simp [hid] at hne

theorem effect_keyless (hd : d ∈ db.devices) (hid : d.id = r.deviceID)
    (hkey : d.wireguardPubkey = "") : Effect db (r.statement db) (.device r) none := by
  refine .quiet ?_ ?_ (frame_keyless r hd hid hkey)
  · intro e he
    cases r with
    | approve id =>
      obtain rfl := mem_setApproved hd hid he.1 he.2.1
      exact he.2.2 (by rw [Device.setApproved_wireguardPubkey, hkey])
    | revoke id => exact he
    | delete id claims => exact he
  · intro e he
    have hrow : ∀ id, d.id = id → ¬ (e ∈ db.devices ∧ e.id = id ∧ e.wireguardPubkey ≠ "") := by
      intro id hid ⟨hin, heid, hne⟩
      obtain rfl := db.device_eq_of_id hin hd (heid.trans hid.symm)
      exact hne hkey
    cases r with
    | approve id => exact he
    | revoke id => exact hrow id hid he
    | delete id claims => exact hrow id hid he

theorem effect_handle {r : Request} (h : handle db r = .ok (db', note)) : Effect db db' r note := by
  cases r with
  | enroll env req claims => exact effect_enroll h
  | device r =>
    obtain ⟨d, hd, hid, rfl, rfl⟩ := handle_inv h
    by_cases hkey : d.wireguardPubkey = ""
    · rw [if_neg (not_not_intro hkey)]
      exact effect_keyless hd hid hkey
    · rw [if_pos hkey]
      cases r with
      | approve id => exact effect_approve hd hid hkey
      | _ => exact effect_removal rfl hd hid hkey

end Effect

section Tables

variable (env : AgentEnv Key) (db : Database)

/-- A gateway that has the network of the device with this key blocks a device with key
`k`. -/
def Evicts (pubkey : String) (k : Key) : Prop :=
  ∃ gatewayID, some gatewayID ∈ db.peerGateways pubkey ∧
    ∃ d ∈ db.devices, db.ZtnaBlocked gatewayID d ∧ env.wg.parseKey d.wireguardPubkey = some k

variable {env db} {n : NotifyEnv} (reliable : n.Reliable) (gatewayID : Uuid) {a : Agent Key}

include reliable in
theorem netsAt_peerAdd (managed : a.wg.isSome = true) {pubkey : String} {key : Key}
    (hkey : env.wg.parseKey pubkey = some key) (allowedIPs : List String) (k : Key)
    (nets : Finset Cidr) :
    netsAt (handleEvents env (eventsFor gatewayID (notifyPeerAdd n db pubkey allowedIPs)) a) k =
        some nets ↔
      (if k = key then some (allowedNets allowedIPs)
        else (netsAt a k).map (· \ allowedNets allowedIPs)) = some nets ∧
      ¬ Evicts env db pubkey k := by
  change netsAt (handleEvents env (eventsFor gatewayID (refreshFirewallForGateways n db
    (findGatewaysForPeer n db pubkey)))
      (handleEvent env a (.peerUpdate (addition pubkey allowedIPs)))) k = some nets ↔ _
  rw [netsAt_push gatewayID (refresh_isPush n db _), addition, netsAt_add managed hkey]
  apply and_congr_right
  intro _
  unfold findGatewaysForPeer
  simp only [removal_mem_found reliable]
  exact no_blocked_pubkey_iff

include reliable in
theorem netsAt_peerRemove (pubkey : String) (k : Key) (nets : Finset Cidr) :
    netsAt (handleEvents env (eventsFor gatewayID (notifyPeerRemove n db pubkey)) a) k =
        some nets ↔
      netsAt a k = some nets ∧ env.wg.parseKey pubkey ≠ some k ∧ ¬ Evicts env db pubkey k := by
  rw [netsAt_push gatewayID (notifyPeerRemove_isPush n db pubkey)]
  apply and_congr_right
  intro _
  simp only [removal_mem_notifyPeerRemove reliable, or_imp, forall_and, forall_eq]
  exact and_congr_right fun _ => no_blocked_pubkey_iff

end Tables

section Agreement

variable (env : AgentEnv Key) (db : Database) (gatewayID : Uuid)

def S2SPeerKey (k : Key) : Prop :=
  ∃ pubkey, db.S2SKey gatewayID pubkey ∧ env.wg.parseKey pubkey = some k

/-- Apart from the keys of site-to-site peers, the interface has the keys of the query with their
prefixes. -/
def Agrees (a : Agent Key) : Prop :=
  ∀ orders peers, fetchPeers {} orders db gatewayID = some peers →
    (∀ p ∈ peers, (env.wg.parseKey p.publicKey).isSome = true) ∧
    ∀ k, ¬ S2SPeerKey env db gatewayID k → ∀ nets, netsAt a k = some nets ↔
      ∃ p ∈ peers, env.wg.parseKey p.publicKey = some k ∧ allowedNets p.allowedIps = nets

def deviceNets (d : Device) : Finset Cidr := allowedNets [host d.assignedIp ++ "/32"]

def ListedKey (k : Key) (d : Device) : Prop :=
  db.Listed gatewayID d ∧ env.wg.parseKey d.wireguardPubkey = some k

/-- The gateway serves the added device, lists one prefix under the key, which no other listed
device has, and no listed device is evicted. -/
def SuitsAddition (d : Device) : Prop :=
  ∀ k, ¬ S2SPeerKey env db gatewayID k →
    (Evicts env db d.wireguardPubkey k → ∀ e, ¬ ListedKey env db gatewayID k e) ∧
    (¬ Evicts env db d.wireguardPubkey k →
      (env.wg.parseKey d.wireguardPubkey = some k → (∃ e, ListedKey env db gatewayID k e) ∧
        ∀ e, ListedKey env db gatewayID k e → deviceNets e = deviceNets d) ∧
      (env.wg.parseKey d.wireguardPubkey ≠ some k →
        ∀ e, ListedKey env db gatewayID k e → Disjoint (deviceNets e) (deviceNets d)))

def SuitsRemoval (d : Device) : Prop :=
  ∀ k, ¬ S2SPeerKey env db gatewayID k →
    env.wg.parseKey d.wireguardPubkey = some k ∨ Evicts env db d.wireguardPubkey k →
      ∀ e, ¬ ListedKey env db gatewayID k e

def Suits (db' : Database) (r : Request) : Prop :=
  (∀ d, r.Adds db db' d → SuitsAddition env db' gatewayID d) ∧
    ∀ d, r.Removes db d → SuitsRemoval env db' gatewayID d

variable {env db gatewayID} {db' : Database} {a : Agent Key}

omit [DecidableEq Key] in
theorem agrees_iff :
    Agrees env db gatewayID a ↔
      (∀ d, db.Listed gatewayID d → (env.wg.parseKey d.wireguardPubkey).isSome = true) ∧
      ∀ k, ¬ S2SPeerKey env db gatewayID k → ∀ nets, netsAt a k = some nets ↔
        ∃ d, ListedKey env db gatewayID k d ∧ deviceNets d = nets := by
  have hrows : ∀ (orders : SyncOrders) (P : Peer → Prop),
      (∃ p ∈ devicePeers orders db gatewayID, P p) ↔ ∃ d, db.Listed gatewayID d ∧ P d.toPeer := by
    intro orders P
    simp only [mem_devicePeers]
    constructor
    · rintro ⟨_, ⟨d, hl, rfl⟩, hP⟩
      exact ⟨d, hl, hP⟩
    · rintro ⟨d, hl, hP⟩
      exact ⟨_, ⟨d, hl, rfl⟩, hP⟩
  have htable : ∀ (orders : SyncOrders) (k : Key) (nets : Finset Cidr),
      (∃ p ∈ devicePeers orders db gatewayID,
        env.wg.parseKey p.publicKey = some k ∧ allowedNets p.allowedIps = nets) ↔
      ∃ d, ListedKey env db gatewayID k d ∧ deviceNets d = nets := by
    intro orders k nets
    rw [hrows orders]
    exact exists_congr fun d => and_assoc.symm
  constructor
  · intro h
    obtain ⟨hparses, hk⟩ := h .asListed _ (fetchPeers_noFaults .asListed db gatewayID)
    constructor
    · intro d hl
      exact hparses d.toPeer ((mem_devicePeers _ db gatewayID _).mpr ⟨d, hl, rfl⟩)
    · intro k hs2s nets
      rw [hk k hs2s, htable]
  · intro h orders peers hpeers
    obtain rfl := Option.some.inj hpeers
    constructor
    · intro p hp
      obtain ⟨d, hl, rfl⟩ := (mem_devicePeers orders db gatewayID p).mp hp
      exact h.1 d hl
    · intro k hs2s nets
      rw [h.2 k hs2s, ← htable orders]
      rfl

section Frame

variable {touched : String → Prop} (hframe : Frame db db' touched)
include hframe

omit [DecidableEq Key] in
theorem Frame.s2sPeerKey (k : Key) : S2SPeerKey env db' gatewayID k ↔ S2SPeerKey env db gatewayID k := by
  unfold S2SPeerKey
  simp only [hframe.s2s]

omit [DecidableEq Key] in
theorem Frame.listedKey {k : Key} {e : Device} (h : ¬ touched e.wireguardPubkey) :
    ListedKey env db' gatewayID k e ↔ ListedKey env db gatewayID k e :=
  and_congr_left' (hframe.listed gatewayID e h)

end Frame

variable {n : NotifyEnv}

section Rows

variable {α β : Type} {rows : α → Prop} {f : α → β}

theorem single_rows_iff {b : β} :
    (∀ x, b = x ↔ ∃ e, rows e ∧ f e = x) ↔ (∃ e, rows e) ∧ ∀ e, rows e → f e = b := by
  constructor
  · intro h
    constructor
    · obtain ⟨e, he, _⟩ := (h b).mp rfl
      exact ⟨e, he⟩
    · intro e he
      exact ((h (f e)).mpr ⟨e, he, rfl⟩).symm
  · intro ⟨⟨e, he⟩, hall⟩ x
    constructor
    · intro hx
      exact ⟨e, he, (hall e he).trans hx⟩
    · intro ⟨e', he', hx⟩
      exact (hall e' he').symm.trans hx

theorem mapped_rows_iff {o : Option β} {g : β → β} (hidem : ∀ x, g (g x) = g x)
    (h : ∀ x, o = some x ↔ ∃ e, rows e ∧ f e = x) :
    (∀ x, o.map g = some x ↔ ∃ e, rows e ∧ f e = x) ↔ ∀ e, rows e → g (f e) = f e := by
  constructor
  · intro hmap e he
    obtain ⟨x, _, hx⟩ := Option.map_eq_some_iff.mp ((hmap (f e)).mpr ⟨e, he, rfl⟩)
    rw [← hx, hidem]
  · intro hfix x
    rw [Option.map_eq_some_iff]
    constructor
    · intro ⟨y, hy, hx⟩
      obtain ⟨e, he, rfl⟩ := (h y).mp hy
      exact ⟨e, he, (hfix e he).symm.trans hx⟩
    · intro ⟨e, he, hx⟩
      exact ⟨f e, (h (f e)).mpr ⟨e, he, rfl⟩, (hfix e he).trans hx⟩

end Rows

theorem agrees_addition_iff {d : Device} (hframe : Frame db db' (· = d.wireguardPubkey))
    (managed : a.wg.isSome = true) (agrees : Agrees env db gatewayID a) (reliable : n.Reliable)
    (succeeds : (env.wg.parseKey d.wireguardPubkey).isSome = true) :
    Agrees env db' gatewayID (handleEvents env (eventsFor gatewayID
        (notifyPeerAdd n db' d.wireguardPubkey [host d.assignedIp ++ "/32"])) a) ↔
      SuitsAddition env db' gatewayID d := by
  obtain ⟨hparses, htable⟩ := agrees_iff.mp agrees
  obtain ⟨key, hkey⟩ := Option.isSome_iff_exists.mp succeeds
  have hparses' : ∀ e, db'.Listed gatewayID e →
      (env.wg.parseKey e.wireguardPubkey).isSome = true := by
    intro e hl
    by_cases he : e.wireguardPubkey = d.wireguardPubkey
    · rw [he]
      exact succeeds
    · exact hparses e ((hframe.listed gatewayID e he).mp hl)
  rw [agrees_iff, and_iff_right hparses']
  simp only [netsAt_peerAdd reliable gatewayID managed hkey]
  apply forall_congr'
  intro k
  apply imp_congr_right
  intro hs2s
  by_cases hevicts : Evicts env db' d.wireguardPubkey k
  · simp [hevicts]
  by_cases hk : k = key
  · subst hk
    simp only [hevicts, hkey, if_true, Option.some.injEq, not_false_iff, and_true, false_imp_iff,
      true_imp_iff, true_and, ne_eq, not_true]
    exact single_rows_iff
  · have hne : env.wg.parseKey d.wireguardPubkey ≠ some k := by
      rw [hkey]
      exact fun heq => hk (Option.some.inj heq).symm
    -- a device under another key has another text, so its place is as before
    have hrows : ∀ e, ListedKey env db' gatewayID k e ↔ ListedKey env db gatewayID k e := by
      intro e
      by_cases he : e.wireguardPubkey = d.wireguardPubkey
      · unfold ListedKey
        rw [he]
        exact iff_of_false (fun h => hne h.2) (fun h => hne h.2)
      · exact hframe.listedKey he
    have hold := htable k ((hframe.s2sPeerKey k).not.mp hs2s)
    simp only [← hrows] at hold
    simp only [hevicts, hk, hne, if_false, not_false_iff, and_true, false_imp_iff, true_imp_iff,
      true_and, ne_eq]
    rw [mapped_rows_iff (fun x => sdiff_idem) hold]
    simp [deviceNets]

theorem agrees_removal_iff {d : Device} (hframe : Frame db db' (· = d.wireguardPubkey))
    (hgone : ∀ gatewayID e, db'.Listed gatewayID e → e.wireguardPubkey ≠ d.wireguardPubkey)
    (agrees : Agrees env db gatewayID a) (reliable : n.Reliable) :
    Agrees env db' gatewayID (handleEvents env (eventsFor gatewayID
        (notifyPeerRemove n db' d.wireguardPubkey)) a) ↔
      SuitsRemoval env db' gatewayID d := by
  obtain ⟨hparses, htable⟩ := agrees_iff.mp agrees
  rw [agrees_iff]
  simp only [netsAt_peerRemove reliable gatewayID]
  constructor
  · intro h k hs2s hdropped e he
    obtain ⟨_, hother, hstays⟩ := (h.2 k hs2s (deviceNets e)).mpr ⟨e, he, rfl⟩
    rcases hdropped with hsame | hevicts
    · exact hother hsame
    · exact hstays hevicts
  · intro h
    constructor
    · intro e hl
      exact hparses e ((hframe.listed gatewayID e (hgone gatewayID e hl)).mp hl)
    · intro k hs2s nets
      have hs2s' : ¬ S2SPeerKey env db gatewayID k := (hframe.s2sPeerKey k).not.mp hs2s
      rw [htable k hs2s']
      constructor
      · intro ⟨⟨e, he, hnets⟩, hother, _⟩
        refine ⟨e, (hframe.listedKey ?_).mpr he, hnets⟩
        intro heq
        exact hother (heq ▸ he.2)
      · intro ⟨e, he, hnets⟩
        have hkept := fun hdropped => h k hs2s hdropped e he
        exact ⟨⟨e, (hframe.listedKey (hgone gatewayID e he.1)).mp he, hnets⟩,
          fun hsame => hkept (.inl hsame), fun hevicts => hkept (.inr hevicts)⟩

omit [DecidableEq Key] in
theorem agrees_quiet_iff (hframe : Frame db db' (fun _ => False)) :
    Agrees env db' gatewayID a ↔ Agrees env db gatewayID a := by
  rw [agrees_iff, agrees_iff]
  simp only [hframe.s2sPeerKey, hframe.listedKey (not_false), hframe.listed _ _ (not_false)]

/-- After a request that is handled alone, a gateway whose table agreed with the query agrees with
it again exactly when the request suits the gateway. -/
theorem peer_updates_agree_iff {r : Request} {note : Option Notification}
    (accepted : handle db r = .ok (db', note)) (managed : a.wg.isSome = true)
    (agrees : Agrees env db gatewayID a) (reliable : n.Reliable)
    (succeeds : ∀ x ∈ note, (env.wg.parseKey x.pubkey).isSome = true) :
    Agrees env db' gatewayID (handleEvents env (eventsFor gatewayID
        (note.elim [] fun x => x.calls n db')) a) ↔
      Suits env db gatewayID db' r := by
  unfold Suits
  cases effect_handle accepted with
  | quiet hadds hremoves hframe =>
    refine iff_of_true ((agrees_quiet_iff hframe).mpr agrees) ⟨?_, ?_⟩
    · intro d hd
      exact absurd hd (hadds d)
    · intro d hd
      exact absurd hd (hremoves d)
  | added d _ hadds hremoves hframe =>
    simp only [hadds, forall_eq, hremoves, false_imp_iff, implies_true, and_true]
    exact agrees_addition_iff hframe managed agrees reliable (succeeds _ rfl)
  | removed d hadds hremoves hframe hgone =>
    simp only [hadds, false_imp_iff, implies_true, true_and, hremoves, forall_eq]
    exact agrees_removal_iff hframe hgone agrees reliable

end Agreement

def waitingDb : Database := servedDb.setApproved "laptop" false

def approval : Notification := .peerAdd "k" [host (laptop "k").assignedIp ++ "/32"]

def approvedAgent (db : Database) (gatewayID : Uuid) (a : Agent String) : Agent String :=
  handleEvents textKeys (eventsFor gatewayID (approval.calls quietNotify db)) a

def listedAgent : Agent String :=
  handleEvent textKeys freshAgent
    (.peerUpdate (addition "k" [host (laptop "k").assignedIp ++ "/32"]))

theorem agrees_fresh {db : Database} {gatewayID : Uuid} (h : ∀ d, ¬ db.Listed gatewayID d) :
    Agrees textKeys db gatewayID freshAgent := by
  refine agrees_iff.mpr ⟨fun d hl => absurd hl (h d), ?_⟩
  intro k _ nets
  constructor
  · intro hnets
    cases hnets
  · intro ⟨d, hd, _⟩
    exact absurd hd.1 (h d)

theorem waitingDb_unlisted (gatewayID : Uuid) (d : Device) : ¬ waitingDb.Listed gatewayID d := by
  intro hl
  obtain rfl := List.mem_singleton.mp hl.1
  exact absurd hl.2.1.1 (by decide)

theorem laptop_of_key {d : Device} {k : String} (hd : d ∈ servedDb.devices)
    (hk : textKeys.wg.parseKey d.wireguardPubkey = some k) : d = laptop "k" ∧ k = "k" := by
  obtain rfl := List.mem_singleton.mp hd
  exact ⟨rfl, (Option.some.inj hk).symm⟩

theorem listedAgent_agrees (config : Option TrustScoreConfig) :
    Agrees textKeys (ruledDb config) "gw" listedAgent := by
  refine agrees_iff.mpr ⟨?_, ?_⟩
  · intro d hl
    obtain rfl := List.mem_singleton.mp hl.1
    rfl
  · intro k _ nets
    have hkey : textKeys.wg.parseKey "k" = some "k" := rfl
    rw [listedAgent, addition, netsAt_add rfl hkey]
    by_cases hk : k = "k"
    · subst hk
      rw [if_pos rfl, Option.some.injEq]
      constructor
      · intro hnets
        exact ⟨laptop "k", ⟨servedDb_listed, rfl⟩, hnets⟩
      · intro ⟨d, hd, hnets⟩
        obtain ⟨rfl, _⟩ := laptop_of_key hd.1.1 hd.2
        exact hnets
    · rw [if_neg hk]
      constructor
      · intro hnets
        cases hnets
      · intro ⟨d, hd, _⟩
        exact absurd (laptop_of_key hd.1.1 hd.2).2 hk

/-- A gateway elsewhere gets the approved laptop as a peer; and the office gateway loses it when it
is approved again while ZTNA blocks it. -/
theorem stranger_gains_server_loses_peer :
    (∃ db', handle waitingDb (.device (.approve "laptop")) = .ok (db', some approval) ∧
      Agrees textKeys waitingDb "annex" freshAgent ∧ (∀ d, ¬ db'.Listed "annex" d) ∧
      HasPeer (approvedAgent db' "annex" freshAgent) "k" ∧
      ¬ Agrees textKeys db' "annex" (approvedAgent db' "annex" freshAgent)) ∧
    ∃ db', handle (ruledDb (some ⟨false, true⟩)) (.device (.approve "laptop")) =
        .ok (db', some approval) ∧
      Agrees textKeys (ruledDb (some ⟨false, true⟩)) "gw" listedAgent ∧
      db'.Listed "gw" (laptop "k") ∧ ¬ HasPeer (approvedAgent db' "gw" listedAgent) "k" ∧
      ¬ Agrees textKeys db' "gw" (approvedAgent db' "gw" listedAgent) := by
  constructor
  · have hnone : ∀ d, ¬ (waitingDb.setApproved "laptop" true).Listed "annex" d := by
      intro d hl
      rcases hl.2.2 with ⟨gn, hgn, hgw, _⟩ | ⟨g, hg, hgw, _⟩
      · obtain rfl := List.mem_singleton.mp hgn
        exact absurd hgw (by decide)
      · obtain rfl := List.mem_singleton.mp hg
        exact absurd hgw (by decide)
    have hfree : ¬ Evicted textKeys.wg (waitingDb.setApproved "laptop" true) "k" := by
      rintro ⟨g, _, d, _, hblocked, _⟩
      exact Database.not_ztnaBlocked rfl rfl g d hblocked
    have hpeer : HasPeer (approvedAgent (waitingDb.setApproved "laptop" true) "annex" freshAgent) "k" :=
      (hasPeer_notifyPeerAdd quietNotify_reliable _ "annex" rfl _ rfl).mpr hfree
    refine ⟨_, rfl, agrees_fresh (waitingDb_unlisted "annex"), hnone, hpeer, ?_⟩
    intro h
    obtain ⟨nets, hnets⟩ := (hasPeer_iff_netsAt _ _).mp hpeer
    have hs2s : ¬ S2SPeerKey textKeys (waitingDb.setApproved "laptop" true) "annex" "k" := by
      rintro ⟨_, ⟨row, hrow, _⟩, _⟩
      cases hrow
    obtain ⟨d, hd, _⟩ := ((agrees_iff.mp h).2 "k" hs2s nets).mp hnets
    exact hnone d hd.1
  · have hblocked : (ruledDb (some ⟨false, true⟩)).ZtnaBlocked "gw" (laptop "k") :=
      (ruledDb_blocked _).mpr rfl
    have hgone : ¬ HasPeer (approvedAgent (ruledDb (some ⟨false, true⟩)) "gw" listedAgent) "k" := by
      intro hpeer
      refine (hasPeer_notifyPeerAdd quietNotify_reliable _ "gw" rfl _ rfl).mp hpeer ?_
      exact ⟨"gw", (mem_peerGateways _ "k" "gw").mpr ⟨laptop "k", .head _, rfl,
        officeDb_attached "k" []⟩, laptop "k", .head _, hblocked, rfl⟩
    refine ⟨ruledDb (some ⟨false, true⟩), rfl, listedAgent_agrees _, servedDb_listed, hgone, ?_⟩
    intro h
    have hs2s : ¬ S2SPeerKey textKeys (ruledDb (some ⟨false, true⟩)) "gw" "k" := by
      rintro ⟨_, ⟨row, hrow, _⟩, _⟩
      cases hrow
    exact hgone ((hasPeer_iff_netsAt _ _).mpr ⟨_, ((agrees_iff.mp h).2 "k" hs2s _).mpr
      ⟨laptop "k", ⟨servedDb_listed, rfl⟩, rfl⟩⟩)

/-- The gateway of the office agrees with the query after the laptop's approval. -/
theorem approval_agrees_at_office :
    ∃ db', handle waitingDb (.device (.approve "laptop")) = .ok (db', some approval) ∧
      db'.Listed "gw" (laptop "k") ∧
      Agrees textKeys db' "gw" (approvedAgent db' "gw" freshAgent) := by
  refine ⟨servedDb, rfl, servedDb_listed, ?_⟩
  have accepted : handle waitingDb (.device (.approve "laptop")) = .ok (servedDb, some approval) := rfl
  refine (peer_updates_agree_iff accepted rfl (agrees_fresh (waitingDb_unlisted "gw"))
    quietNotify_reliable ?_).mpr ⟨?_, fun d hd => hd.elim⟩
  · intro x hx
    obtain rfl := Option.some.inj hx
    rfl
  · intro d hadds k _
    obtain rfl := List.mem_singleton.mp hadds.1
    refine ⟨?_, fun _ => ⟨?_, ?_⟩⟩
    · rintro ⟨g, _, e, _, hblocked, _⟩
      exact absurd hblocked (Database.not_ztnaBlocked rfl rfl g e)
    · intro hk
      refine ⟨⟨laptop "k", servedDb_listed, hk⟩, ?_⟩
      intro e he
      rw [(laptop_of_key he.1.1 he.2).1]
    · intro hk e he
      obtain ⟨rfl, rfl⟩ := laptop_of_key he.1.1 he.2
      exact absurd rfl hk

end Outpost.PeerTables
