import Outpost.FirewallConfigStructure
import Outpost.Shared.KeyedRows
import Outpost.Shared.Schedules
import Outpost.Tokens
import Outpost.TrustScore

/-!
# What gateways report

Each SQL statement is one action; while `failing` is set statements fail, which the handlers log and
survive. What `Sync` sends before it listens is left out.
-/

namespace Outpost.GatewayReports

open Interleaving Runs

structure PeerStatsRow where
  (gatewayId deviceId : Uuid)
  (rxBytes txBytes : Int)
  lastHandshake : Option Int
  endpoint : String
  recordedAt : Int
deriving DecidableEq

structure FlowRecord where
  (gatewayId deviceId userId : Uuid)
  (srcIp dstIp : Addr)
  protocol : String
  (dstPort bytesSent bytesRecv recordedAt : Int)
deriving DecidableEq

structure TunnelHealth where
  (tunnelId gatewayId remoteGatewayId : Uuid)
  isHealthy : Bool
  (latencyMs consecutiveFailures lastCheckAt : Int)
  lastHealthyAt : Option Int
deriving DecidableEq

def TunnelHealth.key (row : TunnelHealth) : Uuid × Uuid × Uuid :=
  (row.tunnelId, row.gatewayId, row.remoteGatewayId)

structure GatewayColumns where
  tokenHash : String
  lastSeen : Option Int
  healthStatus : String
  consecutiveFailures : Int
deriving DecidableEq

/-- `lastHandshake` is the column of `devices`. Times are nanoseconds. -/
structure World where
  db : Database
  gatewayColumns : Uuid → GatewayColumns
  lastHandshake : Uuid → Option Int
  peerStats : List PeerStatsRow
  flowRecords : List FlowRecord
  tunnelHealth : List TunnelHealth
  now : Int
  failing : Bool
  health_unique : (tunnelHealth.map TunnelHealth.key).Nodup

structure PeerStats where
  (publicKey endpoint : String)
  (rxBytes txBytes : Int)
  lastHandshake : Option Int
deriving DecidableEq

structure HealthReport where
  (tunnelID remoteGatewayID : String)
  isHealthy : Bool
  latencyMs : Int

inductive GatewayEvent where
  | stats (peers : List PeerStats)
  | s2sHealth (report : HealthReport)
  | status
  | unset

structure Env where
  hashToken : String → String
  castUuid : String → Option Uuid
  gatewayRows : RangeOrder Gateway

def exec (f : World → Option World) : Prog World Bool :=
  .modify fun w =>
    if w.failing then (w, false)
    else match f w with
      | none => (w, false)
      | some w' => (w', true)

def flowRecord (gatewayID : Uuid) (now : Int) (ps : PeerStats) (d : Device) : FlowRecord :=
  ⟨gatewayID, d.id, d.userId, d.assignedIp, .v4 0, "wg", 0, ps.txBytes, ps.rxBytes, now⟩

namespace World

variable (w : World) (gatewayID : Uuid)

def devicesOf (pubkey : String) : List Device :=
  w.db.devices.filter fun d => d.wireguardPubkey = pubkey ∧ w.db.Attached gatewayID d

def setHandshake (pubkey : String) (t : Int) : World :=
  { w with lastHandshake := fun id =>
      if ∃ d ∈ w.devicesOf gatewayID pubkey, d.id = id then some t else w.lastHandshake id }

def insertPeerStats (ps : PeerStats) (lastHandshake : Option Int) : World :=
  { w with peerStats := w.peerStats ++ (w.devicesOf gatewayID ps.publicKey).map fun d =>
      ⟨gatewayID, d.id, ps.rxBytes, ps.txBytes, lastHandshake, ps.endpoint, w.now⟩ }

def insertFlowRecords (ps : PeerStats) : World :=
  { w with flowRecords := w.flowRecords ++
      (w.devicesOf gatewayID ps.publicKey).map (flowRecord gatewayID w.now ps) }

def upsertHealth (row : TunnelHealth) (update : TunnelHealth → TunnelHealth)
    (same : ∀ r, (update r).key = r.key) : World :=
  { w with
    tunnelHealth := KeyedRows.upsert TunnelHealth.key row update w.tunnelHealth
    health_unique := KeyedRows.nodup_upsert w.health_unique same }

def beat : World :=
  { w with gatewayColumns := fun id =>
      if (∃ g ∈ w.db.gateways, g.id = gatewayID) ∧ id = gatewayID then
        { w.gatewayColumns id with
          lastSeen := some w.now, healthStatus := "healthy", consecutiveFailures := 0 }
      else w.gatewayColumns id }

/-- The foreign keys of `s2s_tunnel_health`. -/
def HealthKnown (tunnelID remoteGatewayID : Uuid) : Prop :=
  (∃ t ∈ w.db.s2sTunnels, t.id = tunnelID) ∧ (∃ g ∈ w.db.gateways, g.id = gatewayID) ∧
    ∃ g ∈ w.db.gateways, g.id = remoteGatewayID

instance decidableHealthKnown (tunnelID remoteGatewayID : Uuid) :
    Decidable (w.HealthKnown gatewayID tunnelID remoteGatewayID) := by
  unfold HealthKnown
  infer_instance

end World

def healthySet (now latencyMs : Int) (r : TunnelHealth) : TunnelHealth :=
  { r with
    isHealthy := true, latencyMs := latencyMs, consecutiveFailures := 0, lastCheckAt := now
    lastHealthyAt := some now }

def unhealthySet (now : Int) (r : TunnelHealth) : TunnelHealth :=
  { r with
    isHealthy := false, latencyMs := 0, consecutiveFailures := r.consecutiveFailures + 1
    lastCheckAt := now }

/-- The two statements of `handleS2SHealth`. A column that overflows fails the statement. -/
def upsertReport (env : Env) (gatewayID : Uuid) (report : HealthReport) (w : World) :
    Option World := do
  let tunnelID ← env.castUuid report.tunnelID
  let remoteID ← env.castUuid report.remoteGatewayID
  guard (w.HealthKnown gatewayID tunnelID remoteID)
  if report.isHealthy then
    guard (TrustScore.fitsInt4 report.latencyMs)
    return w.upsertHealth
      ⟨tunnelID, gatewayID, remoteID, true, report.latencyMs, 0, w.now, some w.now⟩
      (healthySet w.now report.latencyMs) fun _ => rfl
  else
    guard (∀ r ∈ w.tunnelHealth, r.key = (tunnelID, gatewayID, remoteID) →
      TrustScore.fitsInt4 (r.consecutiveFailures + 1))
    return w.upsertHealth ⟨tunnelID, gatewayID, remoteID, false, 0, 1, w.now, none⟩
      (unhealthySet w.now) fun _ => rfl

section Handlers

variable (env : Env) (gatewayID : Uuid)

def zeroTime : Int := -62135596800 * 10 ^ 9

def handshakeOf (ps : PeerStats) : Option Int := ps.lastHandshake.filter fun t => t ≠ zeroTime

def recordHandshake (ps : PeerStats) : Prog World Unit :=
  match handshakeOf ps with
  | some t => do let _ ← exec fun w => some (w.setHandshake gatewayID ps.publicKey t)
  | none => return

def handlePeer (ps : PeerStats) : Prog World Unit := do
  recordHandshake gatewayID ps
  let _ ← exec fun w => some (w.insertPeerStats gatewayID ps (handshakeOf ps))
  let _ ← exec fun w => some (w.insertFlowRecords gatewayID ps)

def handlePeerStats : List PeerStats → Prog World Unit
  | [] => return
  | ps :: peers => do
    handlePeer gatewayID ps
    handlePeerStats peers

def handleS2SHealth (report : HealthReport) : Prog World Unit := do
  let _ ← exec (upsertReport env gatewayID report)

def handleEvent : GatewayEvent → Prog World Unit
  | .stats peers => handlePeerStats gatewayID peers
  | .s2sHealth report => handleS2SHealth env gatewayID report
  | .status => return
  | .unset => return

def handleEvents : List GatewayEvent → Prog World Unit
  | [] => return
  | e :: events => do
    handleEvent env gatewayID e
    handleEvents events

end Handlers

/-- The values of `authorization` in the metadata of the call, if it has metadata. -/
abbrev Metadata := Option (List String)

def trimBearer (value : String) : String := (bearer value).getD value

inductive Code where
  | unauthenticated
  | permissionDenied

structure StatusError where
  code : Code
  message : String

section Calls

variable (env : Env)

def authenticateStream (md : Metadata) (w : World) : Except String Uuid :=
  match md with
  | none => .error "no metadata"
  | some [] => .error "no authorization header"
  | some (value :: _) =>
    if trimBearer value = "" then .error "empty token"
    else if w.failing then .error "token lookup"
    else match (env.gatewayRows.visit (w.db.gateways.filter fun g => g.isActive ∧
        (w.gatewayColumns g.id).tokenHash = env.hashToken (trimBearer value))).head? with
      | none => .error "token lookup"
      | some g => .ok g.id

def invalidToken : StatusError := ⟨.unauthenticated, "invalid gateway token"⟩

def sync (md : Metadata) (events : List GatewayEvent) : Prog World (Except StatusError Unit) := do
  match ← Prog.read (authenticateStream env md) with
  | .error _ => return .error invalidToken
  | .ok gatewayID =>
    handleEvents env gatewayID events
    return .ok ()

def heartbeat (md : Metadata) (requestedID : String) : Prog World (Except StatusError Unit) := do
  match ← Prog.read (authenticateStream env md) with
  | .error _ => return .error invalidToken
  | .ok gatewayID =>
    if requestedID ≠ "" ∧ requestedID ≠ gatewayID then
      return .error ⟨.permissionDenied, "gateway_id does not match authenticated gateway"⟩
    else
      let _ ← exec fun w => some (w.beat gatewayID)
      return .ok ()

inductive Call where
  | sync (md : Metadata) (events : List GatewayEvent)
  | heartbeat (md : Metadata) (gatewayID : String)

def Call.metadata : Call → Metadata
  | .sync md _ => md
  | .heartbeat md _ => md

def serve : Call → Prog World (Except StatusError Unit)
  | .sync md events => sync env md events
  | .heartbeat md gatewayID => heartbeat env md gatewayID

end Calls

structure Framed (gatewayID : Uuid) (w w' : World) : Prop where
  db : w'.db = w.db
  lastHandshake : ∀ id, w'.lastHandshake id ≠ w.lastHandshake id →
    ∃ d ∈ w.db.devices, d.id = id ∧ w.db.Attached gatewayID d
  peerStats : ∃ new, w'.peerStats = w.peerStats ++ new ∧ ∀ row ∈ new, row.gatewayId = gatewayID ∧
    ∃ d ∈ w.db.devices, d.id = row.deviceId ∧ w.db.Attached gatewayID d
  flowRecords : ∃ new, w'.flowRecords = w.flowRecords ++ new ∧
    ∀ row ∈ new, row.gatewayId = gatewayID ∧
      ∃ d ∈ w.db.devices, d.id = row.deviceId ∧ d.userId = row.userId ∧ w.db.Attached gatewayID d
  tunnelHealth : ∀ row, row.gatewayId ≠ gatewayID → (row ∈ w'.tunnelHealth ↔ row ∈ w.tunnelHealth)
  otherGateways : ∀ id, id ≠ gatewayID → w'.gatewayColumns id = w.gatewayColumns id
  token : ∀ id, (w'.gatewayColumns id).tokenHash = (w.gatewayColumns id).tokenHash

namespace Framed

variable {gatewayID : Uuid} {w w' w'' : World}

theorem refl (w : World) : Framed gatewayID w w :=
  ⟨rfl, fun _ h => absurd rfl h, ⟨[], by simp⟩, ⟨[], by simp⟩, fun _ _ => Iff.rfl, fun _ _ => rfl,
    fun _ => rfl⟩

theorem trans (h : Framed gatewayID w w') (h' : Framed gatewayID w' w'') :
    Framed gatewayID w w'' where
  db := h'.db.trans h.db
  lastHandshake := by
    intro id hne
    by_cases heq : w'.lastHandshake id = w.lastHandshake id
    · rw [← heq] at hne
      rw [← h.db]
      exact h'.lastHandshake id hne
    · exact h.lastHandshake id heq
  peerStats := by
    obtain ⟨new, hnew, hrows⟩ := h.peerStats
    obtain ⟨new', hnew', hrows'⟩ := h'.peerStats
    rw [h.db] at hrows'
    refine ⟨new ++ new', by rw [hnew', hnew, List.append_assoc], ?_⟩
    intro row hrow
    rcases List.mem_append.mp hrow with hrow | hrow
    · exact hrows row hrow
    · exact hrows' row hrow
  flowRecords := by
    obtain ⟨new, hnew, hrows⟩ := h.flowRecords
    obtain ⟨new', hnew', hrows'⟩ := h'.flowRecords
    rw [h.db] at hrows'
    refine ⟨new ++ new', by rw [hnew', hnew, List.append_assoc], ?_⟩
    intro row hrow
    rcases List.mem_append.mp hrow with hrow | hrow
    · exact hrows row hrow
    · exact hrows' row hrow
  tunnelHealth := fun row hrow => (h'.tunnelHealth row hrow).trans (h.tunnelHealth row hrow)
  otherGateways := fun id hid => (h'.otherGateways id hid).trans (h.otherGateways id hid)
  token := fun id => (h'.token id).trans (h.token id)

end Framed

section Statements

variable {gatewayID : Uuid} {w : World}

theorem mem_devicesOf {pubkey : String} {d : Device} : d ∈ w.devicesOf gatewayID pubkey ↔
    d ∈ w.db.devices ∧ d.wireguardPubkey = pubkey ∧ w.db.Attached gatewayID d := by
  unfold World.devicesOf
  rw [List.mem_filter, decide_eq_true_eq]

theorem framed_setHandshake (pubkey : String) (t : Int) :
    Framed gatewayID w (w.setHandshake gatewayID pubkey t) :=
  { Framed.refl w with
    lastHandshake := by
      intro id hne
      by_cases hd : ∃ d ∈ w.devicesOf gatewayID pubkey, d.id = id
      · obtain ⟨d, hd, rfl⟩ := hd
        obtain ⟨hin, _, hattached⟩ := mem_devicesOf.mp hd
        exact ⟨d, hin, rfl, hattached⟩
      · exact absurd (if_neg hd) hne }

theorem framed_insertPeerStats (ps : PeerStats) (lastHandshake : Option Int) :
    Framed gatewayID w (w.insertPeerStats gatewayID ps lastHandshake) :=
  { Framed.refl w with
    peerStats := by
      refine ⟨_, rfl, ?_⟩
      intro row hrow
      obtain ⟨d, hd, rfl⟩ := List.mem_map.mp hrow
      obtain ⟨hin, _, hattached⟩ := mem_devicesOf.mp hd
      exact ⟨rfl, d, hin, rfl, hattached⟩ }

theorem framed_insertFlowRecords (ps : PeerStats) :
    Framed gatewayID w (w.insertFlowRecords gatewayID ps) :=
  { Framed.refl w with
    flowRecords := by
      refine ⟨_, rfl, ?_⟩
      intro row hrow
      obtain ⟨d, hd, rfl⟩ := List.mem_map.mp hrow
      obtain ⟨hin, _, hattached⟩ := mem_devicesOf.mp hd
      exact ⟨rfl, d, hin, rfl, rfl, hattached⟩ }

theorem framed_beat : Framed gatewayID w (w.beat gatewayID) :=
  { Framed.refl w with
    otherGateways := fun id hid => if_neg fun h => hid h.2
    token := by
      intro id
      simp only [World.beat]
      split
      · rfl
      · rfl }

theorem framed_upsertHealth {row : TunnelHealth} {update : TunnelHealth → TunnelHealth}
    (same : ∀ r, (update r).key = r.key) (hrow : row.gatewayId = gatewayID) :
    Framed gatewayID w (w.upsertHealth row update same) :=
  { Framed.refl w with
    tunnelHealth := by
      intro r hr
      have hkey : ∀ r' : TunnelHealth, r'.key = row.key → r'.gatewayId = gatewayID := by
        intro r' hr'
        exact (congrArg (fun k => k.2.1) hr').trans hrow
      show r ∈ KeyedRows.upsert _ _ _ _ ↔ _
      rw [KeyedRows.mem_upsert]
      constructor
      · intro h
        rcases h with ⟨hin, _⟩ | ⟨old, _, hold, rfl⟩ | ⟨_, rfl⟩
        · exact hin
        · exact absurd (hkey _ ((same old).trans hold)) hr
        · exact absurd hrow hr
      · intro hin
        exact .inl ⟨hin, fun heq => hr (hkey r heq)⟩ }

theorem framed_upsertReport {env : Env} {report : HealthReport} {w' : World}
    (h : upsertReport env gatewayID report w = some w') : Framed gatewayID w w' := by
  simp only [upsertReport, Option.bind_eq_bind, Option.bind_eq_some_iff] at h
  obtain ⟨tunnelID, _, remoteID, _, _, _, h⟩ := h
  split at h
  · obtain ⟨_, _, h⟩ := Option.bind_eq_some_iff.mp h
    obtain rfl := Option.some.inj h
    exact framed_upsertHealth _ rfl
  · obtain ⟨_, _, h⟩ := Option.bind_eq_some_iff.mp h
    obtain rfl := Option.some.inj h
    exact framed_upsertHealth _ rfl

end Statements

section Programs

open Prog

variable {env : Env} {gatewayID : Uuid}

def Does (env : Env) (c : Call) (seen : List World) (w w' : World) : Prop :=
  w' = w ∨ ∃ w₀ rest gatewayID, seen = w₀ :: rest ∧
    authenticateStream env c.metadata w₀ = .ok gatewayID ∧ Framed gatewayID w w'

theorem keeps_exec {seen : List World} {f : World → Option World}
    (h : ∀ w w', f w = some w' → Framed gatewayID w w') :
    Keeps (fun _ => Framed gatewayID) (fun _ _ => True) seen (exec f) := by
  refine keeps_modify (fun w => ?_) fun _ => trivial
  split
  · exact Framed.refl w
  · cases hf : f w with
    | none => exact Framed.refl w
    | some w' => exact h w w' hf

theorem keeps_exec_some {seen : List World} {f : World → World}
    (h : ∀ w, Framed gatewayID w (f w)) :
    Keeps (fun _ => Framed gatewayID) (fun _ _ => True) seen (exec fun w => some (f w)) := by
  refine keeps_exec ?_
  intro w w' hw
  obtain rfl := Option.some.inj hw
  exact h w

theorem keeps_recordHandshake (seen : List World) (ps : PeerStats) :
    Keeps (fun _ => Framed gatewayID) (fun _ _ => True) seen (recordHandshake gatewayID ps) := by
  unfold recordHandshake
  cases handshakeOf ps with
  | none => exact keeps_pure trivial
  | some t =>
    exact keeps_seq (keeps_exec_some fun _ => framed_setHandshake _ _) fun _ _ _ =>
      keeps_pure trivial

theorem keeps_handlePeer (seen : List World) (ps : PeerStats) :
    Keeps (fun _ => Framed gatewayID) (fun _ _ => True) seen (handlePeer gatewayID ps) := by
  refine keeps_seq (keeps_recordHandshake seen ps) fun later _ _ => ?_
  refine keeps_seq (keeps_exec_some fun _ => framed_insertPeerStats _ _) fun later _ _ => ?_
  exact keeps_seq (keeps_exec_some fun _ => framed_insertFlowRecords _) fun _ _ _ =>
    keeps_pure trivial

theorem keeps_handlePeerStats (seen : List World) (peers : List PeerStats) :
    Keeps (fun _ => Framed gatewayID) (fun _ _ => True) seen (handlePeerStats gatewayID peers) := by
  induction peers generalizing seen with
  | nil => exact keeps_pure trivial
  | cons ps peers ih => exact keeps_seq (keeps_handlePeer seen ps) fun later _ _ => ih later

theorem keeps_handleEvent (seen : List World) (e : GatewayEvent) :
    Keeps (fun _ => Framed gatewayID) (fun _ _ => True) seen (handleEvent env gatewayID e) := by
  cases e with
  | stats peers => exact keeps_handlePeerStats seen peers
  | s2sHealth report =>
    exact keeps_seq (keeps_exec fun _ _ => framed_upsertReport) fun _ _ _ => keeps_pure trivial
  | status => exact keeps_pure trivial
  | unset => exact keeps_pure trivial

theorem keeps_handleEvents (seen : List World) (events : List GatewayEvent) :
    Keeps (fun _ => Framed gatewayID) (fun _ _ => True) seen
      (handleEvents env gatewayID events) := by
  induction events generalizing seen with
  | nil => exact keeps_pure trivial
  | cons e events ih => exact keeps_seq (keeps_handleEvent seen e) fun later _ _ => ih later

theorem keeps_authenticated {c : Call} {f : Uuid → Prog World (Except StatusError Unit)}
    {e : StatusError}
    (h : ∀ gatewayID seen, Keeps (fun _ => Framed gatewayID) (fun _ _ => True) seen (f gatewayID)) :
    Keeps (Does env c) (fun _ _ => True) [] (do
      match ← Prog.read (authenticateStream env c.metadata) with
      | .error _ => return .error e
      | .ok gatewayID => f gatewayID) := by
  have hread : Keeps (Does env c)
      (fun later res => ∃ w, later = [w] ∧ res = authenticateStream env c.metadata w) []
      (Prog.read (authenticateStream env c.metadata)) :=
    keeps_read (fun _ => .inl rfl) fun w => ⟨w, rfl, rfl⟩
  refine keeps_bind hread ?_
  intro later res _ hres
  obtain ⟨w, rfl, hres⟩ := hres
  cases res with
  | error _ => exact keeps_pure trivial
  | ok gatewayID =>
    refine keeps_imp_later (h gatewayID [w]) ?_
    intro later s s' hlater hframed
    obtain ⟨rest, rfl⟩ := hlater
    exact .inr ⟨w, rest, gatewayID, rfl, hres.symm, hframed⟩

theorem keeps_serve (c : Call) : Keeps (Does env c) (fun _ _ => True) [] (serve env c) := by
  cases c with
  | sync md events =>
    refine keeps_authenticated (c := .sync md events) ?_
    intro gatewayID seen
    exact keeps_seq (keeps_handleEvents seen events) fun _ _ _ => keeps_pure trivial
  | heartbeat md requestedID =>
    refine keeps_authenticated (c := .heartbeat md requestedID) ?_
    intro gatewayID seen
    split
    · exact keeps_pure trivial
    · exact keeps_seq (keeps_exec_some fun _ => framed_beat) fun _ _ _ => keeps_pure trivial

end Programs

abbrev Core := Pool World Call (Except StatusError Unit)

abbrev Happening := Event World Call (Except StatusError Unit)

def Other (w w' : World) : Prop := ∃ now failing, w' = { w with now := now, failing := failing }

def MadeBy (env : Env) (gatewayID : Uuid) (events : List Happening) : Prop :=
  ∀ n c w rest, .start n c ∈ events → seen n events = w :: rest →
    ∀ id, authenticateStream env c.metadata w = .ok id → id = gatewayID

theorem MadeBy.of_append {env : Env} {gatewayID : Uuid} {past : List Happening} {e : Happening}
    (h : MadeBy env gatewayID (past ++ [e])) : MadeBy env gatewayID past := by
  intro n c w rest hstart hseen
  refine h n c w (rest ++ seen n [e]) (List.mem_append_left _ hstart) ?_
  rw [seen_append, hseen]
  rfl

/-- Whatever the calls of a gateway carry, only that gateway's own data changes. -/
theorem gateway_touches_own_data (env : Env) (gatewayID : Uuid) {p q : Core}
    {events : List Happening} (hunused : ∀ n, p.threads n = .unused)
    (hrun : Run (Step (serve env) Other) p events q) (hmade : MadeBy env gatewayID events) :
    Framed gatewayID p.shared q.shared := by
  have hboth := hrun.history
    (I := fun past s => (∀ n, Accounted (Does env) (fun _ _ _ => True) past n (s.threads n)) ∧
      (MadeBy env gatewayID past → Framed gatewayID p.shared s.shared)) ?_ ?_
  · exact hboth.2 hmade
  · intro past s e t hstep ⟨hthreads, hframed⟩
    refine ⟨accounted_step keeps_serve hstep hthreads, ?_⟩
    intro hmade
    have hframed := hframed hmade.of_append
    rcases shared_step hstep hthreads with hsame | hother | ⟨n, c, hstart, hdoes⟩
    · rw [hsame]
      exact hframed
    · obtain ⟨now, failing, hother⟩ := hother
      rw [hother]
      exact hframed.trans { Framed.refl s.shared with }
    · rcases hdoes with hsame | ⟨w, rest, id, hseen, hid, hdoes⟩
      · rw [hsame]
        exact hframed
      · obtain rfl := hmade.of_append n c w rest hstart hseen id hid
        exact hframed.trans hdoes
  · refine ⟨?_, fun _ => Framed.refl _⟩
    intro n
    rw [hunused n]
    rfl

def sampleEnv : Env := ⟨id, some, .asListed⟩

def carol : User := ⟨"c", true, false, false, "carol", ""⟩

def laptop : Device := ⟨"d", "c", "key", .v4 7, true, some "n"⟩

def office : World where
  db := { Database.ofDevice carol laptop rfl with
    gateways := [⟨"gw", none, "gateway key", "", true, 0, 0, "office"⟩]
    gatewayNetworks := [⟨"gw", "n"⟩] }
  gatewayColumns := fun _ => ⟨"token", none, "unknown", 3⟩
  lastHandshake := fun _ => none
  peerStats := []
  flowRecords := []
  tunnelHealth := []
  now := 10
  failing := false
  health_unique := List.nodup_nil

def officeCore : Core := ⟨office, fun _ => .unused⟩

def officeReport : Call :=
  .sync (some ["Bearer token"]) [.stats [⟨"key", "", 100, 20, some 5⟩,
    ⟨"other key", "", 1, 1, none⟩]]

theorem office_reports : ∃ events q, Run (Step (serve sampleEnv) Other) officeCore events q ∧
    q.shared.lastHandshake "d" = some 5 ∧
    q.shared.flowRecords = [⟨"gw", "d", "c", .v4 7, .v4 0, "wg", 0, 20, 100, 10⟩] ∧
    Framed "gw" officeCore.shared q.shared := by
  have hrun : Run (Step (serve sampleEnv) Other) officeCore _ _ :=
    Pool.run_play_step [.start 0 officeReport, .finish 0] officeCore ⟨trivial, trivial, trivial⟩
  refine ⟨_, _, hrun, rfl, rfl, gateway_touches_own_data sampleEnv "gw" (fun _ => rfl) hrun ?_⟩
  intro n c w rest hstart hseen id hid
  have hstart := Pool.start_mem_of_play hstart
  simp only [List.mem_cons, List.not_mem_nil, or_false, reduceCtorEq] at hstart
  obtain ⟨rfl, rfl⟩ := hstart
  cases hseen
  exact (Except.ok.inj hid).symm

/-- A heartbeat, or one of the two statements of `monitorGatewayHealthTick`, at its `now()`. -/
inductive HealthUpdate where
  | heartbeat (now : Int)
  | increment (now : Int)
  | mark

namespace GatewayColumns

variable (row : GatewayColumns)

def overdue (now : Int) : Bool :=
  row.lastSeen.any (· < now - 90 * 10 ^ 9) && row.healthStatus ≠ "unhealthy"

def update : HealthUpdate → GatewayColumns
  | .heartbeat now =>
    { row with lastSeen := some now, healthStatus := "healthy", consecutiveFailures := 0 }
  | .increment now =>
    if row.overdue now then { row with consecutiveFailures := row.consecutiveFailures + 1 } else row
  | .mark =>
    if 3 ≤ row.consecutiveFailures ∧ row.healthStatus ≠ "unhealthy" then
      { row with healthStatus := "unhealthy" }
    else row

/-- The row, with no failure at first, after the updates of `past`, whose head is the latest. -/
def after : List HealthUpdate → GatewayColumns
  | [] => { row with consecutiveFailures := 0 }
  | u :: past => (after past).update u

/-- The ticks since the last heartbeat that found the gateway overdue. -/
def missedTicks : List HealthUpdate → Int
  | [] | .heartbeat _ :: _ => 0
  | .increment now :: past => missedTicks past + if (row.after past).overdue now then 1 else 0
  | .mark :: past => missedTicks past

variable (past : List HealthUpdate)

theorem failures_eq : (row.after past).consecutiveFailures = row.missedTicks past := by
  induction past with
  | nil => rfl
  | cons u past ih =>
    cases u with
    | heartbeat now => rfl
    | increment now =>
      rw [after, update, missedTicks, ← ih]
      split_ifs <;> simp
    | mark =>
      rw [after, update, missedTicks, ← ih]
      split_ifs <;> rfl

theorem failures_of_marked {row : GatewayColumns} {u : HealthUpdate}
    (h : row.healthStatus ≠ "unhealthy") (hu : (row.update u).healthStatus = "unhealthy") :
    3 ≤ row.consecutiveFailures := by
  cases u with
  | heartbeat now => simp [update] at hu
  | increment now => grind [update]
  | mark => grind [update]

theorem after_silent (h : row.lastSeen = none) (hpast : ∀ now, .heartbeat now ∉ past) :
    row.after past = { row with consecutiveFailures := 0 } := by
  induction past with
  | nil => rfl
  | cons u past ih =>
    rw [after, ih fun now hin => hpast now (.tail _ hin)]
    cases u with
    | heartbeat now => exact absurd (.head _) (hpast now)
    | increment now => simp [update, overdue, h]
    | mark => simp [update]

theorem health_follows_ticks :
    (row.after past).consecutiveFailures = row.missedTicks past ∧
    (∀ u, (row.after past).healthStatus ≠ "unhealthy" →
      (row.after (u :: past)).healthStatus = "unhealthy" → 3 ≤ row.missedTicks past) ∧
    (∀ now, (row.after (.heartbeat now :: past)).healthStatus = "healthy") ∧
    (row.lastSeen = none → (∀ now, .heartbeat now ∉ past) →
      (row.after past).healthStatus = row.healthStatus) := by
  refine ⟨row.failures_eq past, fun u hbefore hafter => ?_, fun _ => rfl, ?_⟩
  · rw [← failures_eq]
    exact failures_of_marked hbefore hafter
  · intro hnone hpast
    rw [row.after_silent past hnone hpast]

end GatewayColumns

end Outpost.GatewayReports
