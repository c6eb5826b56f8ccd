import Mathlib.Algebra.Order.BigOperators.Group.List
import Outpost.GatewayReports
import Outpost.Shared.Grouping

/-!
# Bandwidth accounting

The agent reports WireGuard's counters every half a minute, the core records each report as a flow,
and the analytics queries add the flows up. Sums are exact here.
-/

namespace Outpost

open Interleaving GatewayReports Grouping

structure WgPeerStats where
  publicKey : String
  endpoint : Option String
  (receiveBytes transmitBytes lastHandshakeTime : Int)

def peerStatsOf (p : WgPeerStats) : PeerStats where
  publicKey := p.publicKey
  endpoint := p.endpoint.getD ""
  rxBytes := p.receiveBytes
  txBytes := p.transmitBytes
  lastHandshake := if p.lastHandshakeTime = zeroTime then none else some p.lastHandshakeTime

def statsReport (peers : List WgPeerStats) : List PeerStats := peers.map peerStatsOf

namespace Analytics

def inRange (start stop : Int) (r : FlowRecord) : Bool := start ≤ r.recordedAt ∧ r.recordedAt < stop

def bytesRecv (records : List FlowRecord) : Int := (records.map FlowRecord.bytesRecv).sum

def bytesSent (records : List FlowRecord) : Int := (records.map FlowRecord.bytesSent).sum

structure UserBandwidth where
  userID : Uuid
  username : String
  (rxBytes txBytes total : Int)
deriving DecidableEq

def topUsers (order : RangeOrder UserBandwidth) (users : List User) (records : List FlowRecord)
    (start stop : Int) (limit : Nat) : List UserBandwidth :=
  ((order.visit ((groupBy FlowRecord.userId (records.filter (inRange start stop))).map fun g =>
    { userID := g.1
      username := ((users.find? fun u => u.id = g.1).map User.username).getD g.1
      rxBytes := bytesRecv g.2
      txBytes := bytesSent g.2
      total := (g.2.map fun r => r.bytesSent + r.bytesRecv).sum })).mergeSort
        fun a b => b.total ≤ a.total).take limit

structure BandwidthBucket where
  (bucket rxBytes txBytes : Int)
deriving DecidableEq

def bucketOf (seconds : Int) (r : FlowRecord) : Int := r.recordedAt / (seconds * 10 ^ 9) * seconds

def bandwidthOverTime (records : List FlowRecord) (start stop bucketSize : Int) :
    List BandwidthBucket :=
  let seconds := if bucketSize / 10 ^ 9 < 1 then 3600 else bucketSize / 10 ^ 9
  ((groupBy (bucketOf seconds) (records.filter (inRange start stop))).map fun g =>
    ⟨g.1, bytesRecv g.2, bytesSent g.2⟩).mergeSort fun a b => a.bucket ≤ b.bucket

structure Summary where
  (totalRxBytes totalTxBytes : Int)
  (totalFlows uniqueUsers uniqueDevices : Nat)
deriving DecidableEq

def summary (records : List FlowRecord) (start stop : Int) : Summary where
  totalRxBytes := bytesRecv (records.filter (inRange start stop))
  totalTxBytes := bytesSent (records.filter (inRange start stop))
  totalFlows := (records.filter (inRange start stop)).length
  uniqueUsers := ((records.filter (inRange start stop)).map FlowRecord.userId).dedup.length
  uniqueDevices := ((records.filter (inRange start stop)).map FlowRecord.deviceId).dedup.length

section Totals

variable {records : List FlowRecord} {start stop : Int}

theorem sum_bandwidthOverTime (records : List FlowRecord) (start stop bucketSize : Int) :
    ((bandwidthOverTime records start stop bucketSize).map BandwidthBucket.rxBytes).sum =
        (summary records start stop).totalRxBytes ∧
      ((bandwidthOverTime records start stop bucketSize).map BandwidthBucket.txBytes).sum =
        (summary records start stop).totalTxBytes := by
  unfold bandwidthOverTime
  constructor
  · rw [((List.mergeSort_perm _ _).map BandwidthBucket.rxBytes).sum_eq, List.map_map]
    exact sum_groupBy FlowRecord.bytesRecv
  · rw [((List.mergeSort_perm _ _).map BandwidthBucket.txBytes).sum_eq, List.map_map]
    exact sum_groupBy FlowRecord.bytesSent

theorem topUsers_of_user {userID : Uuid} (order : RangeOrder UserBandwidth) (users : List User)
    {limit : Nat} (hlimit : 1 ≤ limit) (hne : records.filter (inRange start stop) ≠ [])
    (huser : ∀ r ∈ records, r.userId = userID) :
    (topUsers order users records start stop limit).map (fun u => (u.rxBytes, u.txBytes)) =
      [((summary records start stop).totalRxBytes, (summary records start stop).totalTxBytes)] := by
  have hgroups := groupBy_of_const hne
    fun r hr => huser r (List.mem_of_mem_filter hr)
  unfold topUsers
  rw [hgroups, List.map_singleton, List.perm_singleton.mp (order.perm _), List.mergeSort_singleton,
    List.take_of_length_le (by simpa using hlimit)]
  rfl

end Totals

end Analytics

namespace Bandwidth

variable (gatewayID : Uuid)

def receive (w : World) (report : Int × List WgPeerStats) : World :=
  ((handlePeerStats gatewayID (statsReport report.2)).alone { w with now := report.1 }).1

def receiveAll (w : World) (reports : List (Int × List WgPeerStats)) : World :=
  reports.foldl (receive gatewayID) w

def countersOf (pubkey : String) (reports : List (Int × List WgPeerStats)) : List (Int × Int) :=
  reports.flatMap fun report => (report.2.filter fun p => p.publicKey = pubkey).map fun p =>
    (p.receiveBytes, p.transmitBytes)

structure Cumulative (counters : List (Int × Int)) : Prop where
  nonneg : ∀ c ∈ counters, 0 ≤ c.1 ∧ 0 ≤ c.2
  mono : counters.Pairwise fun a b => a.1 ≤ b.1 ∧ a.2 ≤ b.2

section Records

variable {w : World}

omit gatewayID in
theorem alone_exec {f : World → World} (h : w.failing = false) :
    (exec fun w => some (f w)).alone w = (f w, true) := by
  simp [exec, h]

def flowsOf (gatewayID : Uuid) (w : World) (ps : PeerStats) : List FlowRecord :=
  (w.devicesOf gatewayID ps.publicKey).map (flowRecord gatewayID w.now ps)

structure Same (w w' : World) : Prop where
  db : w'.db = w.db
  now : w'.now = w.now
  failing : w'.failing = w.failing

theorem flowsOf_same {w' : World} (h : Same w w') (ps : PeerStats) :
    flowsOf gatewayID w' ps = flowsOf gatewayID w ps := by
  simp only [flowsOf, World.devicesOf, h.db, h.now]

theorem recordHandshake_alone (hok : w.failing = false) (ps : PeerStats) :
    Same w ((recordHandshake gatewayID ps).alone w).1 ∧
      ((recordHandshake gatewayID ps).alone w).1.flowRecords = w.flowRecords := by
  unfold recordHandshake
  cases handshakeOf ps with
  | none => exact ⟨⟨rfl, rfl, rfl⟩, rfl⟩
  | some t =>
    simp only [Prog.alone_bind, alone_exec hok]
    exact ⟨⟨rfl, rfl, rfl⟩, rfl⟩

theorem handlePeer_alone (hok : w.failing = false) (ps : PeerStats) :
    Same w ((handlePeer gatewayID ps).alone w).1 ∧
      ((handlePeer gatewayID ps).alone w).1.flowRecords =
        w.flowRecords ++ flowsOf gatewayID w ps := by
  obtain ⟨hsame, hflows⟩ := recordHandshake_alone gatewayID hok ps
  have hok' := hsame.failing.trans hok
  simp only [handlePeer, Prog.alone_bind]
  rw [alone_exec hok', alone_exec
    (show World.failing (World.insertPeerStats _ _ _ _) = false from hok')]
  refine ⟨⟨hsame.db, hsame.now, hsame.failing⟩, ?_⟩
  rw [← flowsOf_same gatewayID hsame, ← hflows]
  rfl

theorem handlePeerStats_alone (hok : w.failing = false) (peers : List PeerStats) :
    Same w ((handlePeerStats gatewayID peers).alone w).1 ∧
      ((handlePeerStats gatewayID peers).alone w).1.flowRecords =
        w.flowRecords ++ peers.flatMap (flowsOf gatewayID w) := by
  induction peers generalizing w with
  | nil => exact ⟨⟨rfl, rfl, rfl⟩, by simp [handlePeerStats]⟩
  | cons ps peers ih =>
    obtain ⟨hsame, hflows⟩ := handlePeer_alone gatewayID hok ps
    obtain ⟨hsame', hflows'⟩ := ih (hsame.failing.trans hok)
    simp only [handlePeerStats, Prog.alone_bind]
    refine ⟨⟨hsame'.db.trans hsame.db, hsame'.now.trans hsame.now,
      hsame'.failing.trans hsame.failing⟩, ?_⟩
    rw [hflows', hflows, List.flatMap_cons, List.append_assoc,
      List.flatMap_congr fun ps' _ => flowsOf_same gatewayID hsame ps']

theorem receive_spec (hok : w.failing = false) (report : Int × List WgPeerStats) :
    (receive gatewayID w report).db = w.db ∧ (receive gatewayID w report).failing = false ∧
      (receive gatewayID w report).flowRecords = w.flowRecords ++
        (statsReport report.2).flatMap (flowsOf gatewayID { w with now := report.1 }) := by
  obtain ⟨hsame, hflows⟩ := handlePeerStats_alone gatewayID (w := { w with now := report.1 }) hok
    (statsReport report.2)
  exact ⟨hsame.db, hsame.failing.trans hok, hflows⟩

variable {gatewayID} {d : Device}

theorem filter_devicesOf (hd : d ∈ w.db.devices) (hattached : w.db.Attached gatewayID d)
    (pubkey : String) : ((w.devicesOf gatewayID pubkey).filter fun d' => d'.id = d.id) =
      if pubkey = d.wireguardPubkey then [d] else [] := by
  have hmem : ∀ d', d' ∈ (w.devicesOf gatewayID pubkey).filter (fun d' => d'.id = d.id) ↔
      d' = d ∧ pubkey = d.wireguardPubkey := by
    intro d'
    rw [List.mem_filter, mem_devicesOf, decide_eq_true_eq]
    constructor
    · intro ⟨⟨hin, hkey, _⟩, hid⟩
      obtain rfl := w.db.device_eq_of_id hin hd hid
      exact ⟨rfl, hkey.symm⟩
    · intro ⟨heq, hkey⟩
      subst heq
      exact ⟨⟨hd, hkey.symm, hattached⟩, rfl⟩
  have hnodup : ((w.devicesOf gatewayID pubkey).filter fun d' => d'.id = d.id).Nodup :=
    (w.db.device_id_unique.of_map _).filter _ |>.filter _
  split
  · rename_i hkey
    refine List.perm_singleton.mp
      ((List.perm_ext_iff_of_nodup hnodup (List.nodup_singleton d)).mpr ?_)
    intro d'
    rw [hmem, List.mem_singleton]
    exact and_iff_left hkey
  · rename_i hkey
    refine List.eq_nil_iff_forall_not_mem.mpr ?_
    intro d' hin
    exact hkey ((hmem d').mp hin).2

theorem filter_flowsOf (hd : d ∈ w.db.devices) (hattached : w.db.Attached gatewayID d)
    (peers : List WgPeerStats) :
    ((statsReport peers).flatMap (flowsOf gatewayID w)).filter (fun r => r.deviceId = d.id) =
      (peers.filter fun p => p.publicKey = d.wireguardPubkey).map fun p =>
        flowRecord gatewayID w.now (peerStatsOf p) d := by
  induction peers with
  | nil => rfl
  | cons p peers ih =>
    have hfirst : (flowsOf gatewayID w (peerStatsOf p)).filter (fun r => r.deviceId = d.id) =
        ((w.devicesOf gatewayID p.publicKey).filter fun d' => d'.id = d.id).map
          (flowRecord gatewayID w.now (peerStatsOf p)) :=
      List.filter_map
    rw [statsReport, List.map_cons, List.flatMap_cons, List.filter_append, hfirst,
      filter_devicesOf hd hattached, ← statsReport, ih]
    by_cases hkey : p.publicKey = d.wireguardPubkey
    · simp [hkey]
    · simp [hkey]

theorem filter_receiveAll (hd : d ∈ w.db.devices) (hattached : w.db.Attached gatewayID d)
    (hok : w.failing = false) (reports : List (Int × List WgPeerStats)) :
    (receiveAll gatewayID w reports).flowRecords.filter (fun r => r.deviceId = d.id) =
      w.flowRecords.filter (fun r => r.deviceId = d.id) ++ reports.flatMap fun report =>
        (report.2.filter fun p => p.publicKey = d.wireguardPubkey).map fun p =>
          flowRecord gatewayID report.1 (peerStatsOf p) d := by
  induction reports generalizing w with
  | nil => simp [receiveAll]
  | cons report reports ih =>
    obtain ⟨hdb, hok', hflows⟩ := receive_spec gatewayID hok report
    have hrest := ih (w := receive gatewayID w report) (hdb ▸ hd) (hdb ▸ hattached) hok'
    rw [receiveAll, List.foldl_cons, ← receiveAll, hrest, hflows, List.filter_append,
      List.append_assoc, List.flatMap_cons,
      filter_flowsOf (w := { w with now := report.1 }) hd hattached report.2]

theorem map_flows (reports : List (Int × List WgPeerStats)) :
    (reports.flatMap fun report => (report.2.filter fun p => p.publicKey = d.wireguardPubkey).map
      fun p => flowRecord gatewayID report.1 (peerStatsOf p) d).map
        (fun r => (r.bytesRecv, r.bytesSent)) = countersOf d.wireguardPubkey reports := by
  simp only [List.map_flatMap, List.map_map]
  rfl

end Records

section Totals

variable {counters earlier : List (Int × Int)} {c : Int × Int}

def total (counters : List (Int × Int)) : Int × Int :=
  ((counters.map Prod.fst).sum, (counters.map Prod.snd).sum)

theorem sum_map_eq_zero_iff {f : Int × Int → Int} (h : ∀ c ∈ counters, 0 ≤ f c) :
    (counters.map f).sum = 0 ↔ ∀ c ∈ counters, f c = 0 := by
  induction counters with
  | nil => simp
  | cons c counters ih =>
    have hc := h c List.mem_cons_self
    have hrest : ∀ c ∈ counters, 0 ≤ f c := fun c hin => h c (List.mem_cons_of_mem _ hin)
    have hsum : 0 ≤ (counters.map f).sum := List.sum_nonneg (List.forall_mem_map.mpr hrest)
    rw [List.map_cons, List.sum_cons, List.forall_mem_cons, ← ih hrest]
    omega

theorem total_eq_last_iff (h : Cumulative (earlier ++ [c])) :
    total (earlier ++ [c]) = c ↔ ∀ c' ∈ earlier, c' = (0, 0) := by
  have hnonneg : ∀ c' ∈ earlier, 0 ≤ c'.1 ∧ 0 ≤ c'.2 :=
    fun c' hin => h.nonneg c' (List.mem_append_left _ hin)
  have hfst := sum_map_eq_zero_iff fun c' hin => (hnonneg c' hin).1
  have hsnd := sum_map_eq_zero_iff fun c' hin => (hnonneg c' hin).2
  simp [total, Prod.ext_iff, hfst, hsnd, ← forall_and]

end Totals

open Analytics

/-- The queries add up all counters of the device, and that is the last one exactly when all earlier
ones were zero. -/
theorem bandwidth_exact_iff (gatewayID : Uuid) {w : World} {d : Device} (hd : d ∈ w.db.devices)
    (hattached : w.db.Attached gatewayID d) (hok : w.failing = false)
    (hnew : ∀ r ∈ w.flowRecords, r.deviceId ≠ d.id) {reports : List (Int × List WgPeerStats)}
    {earlier : List (Int × Int)} {c : Int × Int}
    (hcounters : countersOf d.wireguardPubkey reports = earlier ++ [c])
    (hcumulative : Cumulative (earlier ++ [c])) {start stop : Int}
    (hrange : ∀ report ∈ reports, start ≤ report.1 ∧ report.1 < stop)
    (order : RangeOrder UserBandwidth) (users : List User) {limit : Nat} (hlimit : 1 ≤ limit)
    (bucketSize : Int) {records : List FlowRecord}
    (hrecords : records =
      (receiveAll gatewayID w reports).flowRecords.filter fun r => r.deviceId = d.id) :
    (topUsers order users records start stop limit).map (fun u => (u.rxBytes, u.txBytes)) =
        [total (earlier ++ [c])] ∧
      (((bandwidthOverTime records start stop bucketSize).map BandwidthBucket.rxBytes).sum,
        ((bandwidthOverTime records start stop bucketSize).map BandwidthBucket.txBytes).sum) =
          total (earlier ++ [c]) ∧
      ((summary records start stop).totalRxBytes, (summary records start stop).totalTxBytes) =
        total (earlier ++ [c]) ∧
      (total (earlier ++ [c]) = c ↔ ∀ c' ∈ earlier, c' = (0, 0)) := by
  rw [filter_receiveAll hd hattached hok, List.filter_eq_nil_iff.mpr (by simpa using hnew),
    List.nil_append] at hrecords
  have hmap : records.map (fun r => (r.bytesRecv, r.bytesSent)) = earlier ++ [c] := by
    rw [hrecords, map_flows, hcounters]
  have hall : records.filter (inRange start stop) = records := by
    rw [List.filter_eq_self, hrecords]
    intro r hr
    obtain ⟨report, hreport, hr⟩ := List.mem_flatMap.mp hr
    obtain ⟨p, _, rfl⟩ := List.mem_map.mp hr
    exact decide_eq_true (hrange report hreport)
  have huser : ∀ r ∈ records, r.userId = d.userId := by
    rw [hrecords]
    intro r hr
    obtain ⟨report, _, hr⟩ := List.mem_flatMap.mp hr
    obtain ⟨p, _, rfl⟩ := List.mem_map.mp hr
    rfl
  have hne : records ≠ [] := by
    intro hnil
    rw [hnil] at hmap
    exact List.append_ne_nil_of_right_ne_nil _ (List.cons_ne_nil c []) hmap.symm
  have hsummary : ((summary records start stop).totalRxBytes,
      (summary records start stop).totalTxBytes) = total (earlier ++ [c]) := by
    rw [summary, hall, ← hmap, total, List.map_map, List.map_map]
    rfl
  obtain ⟨hrx, htx⟩ := sum_bandwidthOverTime records start stop bucketSize
  refine ⟨?_, ?_, hsummary, total_eq_last_iff hcumulative⟩
  · rw [topUsers_of_user order users hlimit (hall.symm ▸ hne) huser, hsummary]
  · rw [hrx, htx, hsummary]

def laptopReport (time rx tx : Int) : Int × List WgPeerStats :=
  (time, [⟨"key", none, rx, tx, zeroTime⟩])

/-- The counters 100 and then 150: of the 150 bytes 100 are counted twice. -/
theorem bytes_counted_twice : GatewayReports.laptop ∈ office.db.devices ∧
    office.db.Attached "gw" GatewayReports.laptop ∧
    Cumulative (countersOf "key" [laptopReport 20 100 10, laptopReport 50 150 30]) ∧
    summary (receiveAll "gw" office [laptopReport 20 100 10, laptopReport 50 150 30]).flowRecords
      0 100 = ⟨250, 40, 2, 1, 1⟩ := by
  refine ⟨.head _, by decide, ⟨by decide, by decide⟩, ?_⟩
  rfl

/-- One report is counted once. -/
theorem first_report_counted :
    (topUsers .asListed [carol]
      ((receiveAll "gw" office [laptopReport 20 100 10]).flowRecords.filter
        fun r => r.deviceId = "d") 0 100 10).map (fun u => (u.rxBytes, u.txBytes)) = [(100, 10)] ∧
      (total [(100, 10)] = (100, 10) ↔ ∀ c' ∈ ([] : List (Int × Int)), c' = (0, 0)) := by
  have hcounters : countersOf GatewayReports.laptop.wireguardPubkey [laptopReport 20 100 10] =
      [] ++ [(100, 10)] :=
    rfl
  have hrange : ∀ report ∈ [laptopReport 20 100 10], (0 : Int) ≤ report.1 ∧ report.1 < 100 := by
    decide
  have hall := bandwidth_exact_iff "gw" (w := office) (d := GatewayReports.laptop)
    (.head _) (by decide) rfl (fun _ h => by cases h) hcounters
      ⟨by decide, by decide⟩ hrange .asListed [carol]
    (show 1 ≤ 10 by decide) 0 rfl
  exact ⟨hall.1, hall.2.2.2⟩

end Bandwidth

end Outpost
