import Outpost.Shared.Runs
import Outpost.WireGuard

/-!
# The client's tunnel

`RunSessionLoop` and the failover to the next gateway. The interface is that of the kernel on Linux
and of the in-process device on macOS.
-/

namespace Outpost.ClientTunnel

open Runs WireGuard

inductive TunnelState where
  | disconnected
  | connecting
  | connected
  | reconnecting
  | mfaRequired
  | ztnaBlocked
deriving DecidableEq

structure GatewayEndpoint where
  (serverKey endpoint : String)

structure TunnelManager where
  state : TunnelState := .connected
  gateways : List GatewayEndpoint
  currentGateway : Nat := 0
  allowedIPs : List String
  wgDevice : Bool

/-- What `Connect` leaves; `linuxUp` does not set `wgDevice`. -/
def connect (darwin : Bool) (gateways : List GatewayEndpoint) (allowedIPs : List String) :
    TunnelManager :=
  { gateways := gateways, allowedIPs := allowedIPs, wgDevice := darwin }

inductive UpdateError where
  | keyTooShort
  | parseKey
  | ipcSet
deriving DecidableEq

section Failover

variable {Key : Type} [DecidableEq Key] (env : Env Key)

/-- The lines of `buildIpcPeerConfig`, read in turn up to the first that is refused. A prefix goes
to the peer, which is added if it is new. -/
def ipcSet (key : Key) (gw : GatewayEndpoint) (allowedIPs : List String) (iface : Interface Key) :
    Option UpdateError × Interface Key :=
  let badEndpoint := gw.endpoint ≠ "" ∧ env.resolve gw.endpoint = none
  let read := if badEndpoint then [] else allowedIPs.takeWhile fun cidr => (parseCIDR cidr).isSome
  let endpoint := if gw.endpoint = "" then none else env.resolve gw.endpoint
  let old := ((iface key).map WgPeer.allowedIps).getD ∅
  (if badEndpoint ∨ read ≠ allowedIPs then some .ipcSet else none,
    fun k => (configurePeer key (allowedNets read) endpoint iface k).map fun p =>
      if k = key then { p with allowedIps := old ∪ p.allowedIps } else p)

/-- `UpdateOnly`: a peer that the interface does not have is skipped. -/
def updateOnly (key : Key) (gw : GatewayEndpoint) (allowedIPs : List String)
    (iface : Interface Key) : Interface Key :=
  if (iface key).isSome then configurePeer key (allowedNets allowedIPs)
    (if gw.endpoint = "" then none else env.resolve gw.endpoint) iface else iface

/-- The log line takes the first eight bytes of the key, and panics on fewer. -/
def applyPeerUpdate (tm : TunnelManager) (gw : GatewayEndpoint) (iface : Interface Key) :
    Option UpdateError × Interface Key :=
  if gw.serverKey.utf8ByteSize < 8 then (some .keyTooShort, iface)
  else match env.parseKey gw.serverKey with
    | none => (some .parseKey, iface)
    | some key => if tm.wgDevice then ipcSet env key gw tm.allowedIPs iface
        else (none, updateOnly env key gw tm.allowedIPs iface)

def nextGateway (tm : TunnelManager) : TunnelManager :=
  { tm with currentGateway := (tm.currentGateway + 1) % tm.gateways.length }

def failoverToNextGateway (tm : TunnelManager) (iface : Interface Key) :
    TunnelManager × Option UpdateError × Interface Key :=
  if tm.gateways.length ≤ 1 then (tm, none, iface)
  else (nextGateway tm, match tm.gateways[(nextGateway tm).currentGateway]? with
    | some gw => if tm.wgDevice then applyPeerUpdate env tm gw iface else (none, iface)
    | none => (none, iface))

variable {env} {tm : TunnelManager} {iface : Interface Key}

theorem failoverToNextGateway_fst (h : 2 ≤ tm.gateways.length) :
    (failoverToNextGateway env tm iface).1 = nextGateway tm := by
  rw [failoverToNextGateway, if_neg (by omega)]

end Failover

structure Loop (Key : Type) where
  tm : TunnelManager
  iface : Interface Key
  noHandshakeCount : Nat := 0
  running : Bool := true

def second : Int := 1000000000

/-- `age`: the time since the last handshake, if there was one. -/
def noHandshake (age : Option Int) : Bool := age.all (45 * second < ·)

section Loop

variable {Key : Type}

/-- A report may fail, or say whether the device is blocked. -/
def postureTick (report : Option Bool) (l : Loop Key) : Loop Key :=
  if l.tm.state = .connected ∧ report = some true
  then { l with tm := { l.tm with state := .ztnaBlocked, wgDevice := false }, running := false }
  else l

def refreshTick (ok : Bool) (l : Loop Key) : Loop Key :=
  if ok then l else { l with tm := { l.tm with state := .mfaRequired } }

inductive Event where
  | health (seen : TunnelState) (age : Option Int) (failover : Bool)
  | other

def Event.failover : Event → Bool
  | .health _ _ failover => failover
  | .other => false

def failovers (events : List Event) : Nat := events.countP Event.failover

/-- How many health ticks in a row, up to the last, saw a connected tunnel without a recent
handshake. -/
def streak (events : List Event) : Nat :=
  events.foldl (fun n e => match e with
    | .health seen age _ => if seen = .connected ∧ noHandshake age = true then n + 1 else 0
    | .other => n) 0

structure Scheduled (gateways : List GatewayEndpoint) (events : List Event) (l : Loop Key) :
    Prop where
  fixed : l.tm.gateways = gateways
  index : l.tm.currentGateway = failovers events % gateways.length
  counted : 2 ≤ gateways.length → l.noHandshakeCount = streak events % 3
  alone : gateways.length ≤ 1 → failovers events = 0

variable {gateways : List GatewayEndpoint} {past events : List Event} {l l' : Loop Key}
  {e : Event} {age : Option Int}

theorem failovers_concat :
    failovers (past ++ [e]) = failovers past + if e.failover = true then 1 else 0 :=
  List.countP_append.trans (congrArg _ List.countP_singleton)

variable {seen : TunnelState}

theorem streak_health {failover : Bool} :
    streak (past ++ [.health seen age failover]) =
      if seen = .connected ∧ noHandshake age = true then streak past + 1 else 0 :=
  List.foldl_concat ..

theorem streak_other : streak (past ++ [.other]) = streak past := List.foldl_concat ..

variable {iface : Interface Key}

theorem Scheduled.other {state : TunnelState} {wgDevice running : Bool}
    (h : Scheduled gateways past l) : Scheduled gateways (past ++ [.other])
      ⟨{ l.tm with state := state, wgDevice := wgDevice }, iface, l.noHandshakeCount, running⟩ := by
  obtain ⟨hfixed, hindex, hcounted, halone⟩ := h
  refine ⟨hfixed, ?_, ?_, ?_⟩
  · rw [failovers_concat]
    exact hindex
  · rw [streak_other]
    exact hcounted
  · rw [failovers_concat]
    exact halone

/-- What a health tick leads to. -/
inductive Outcome (seen : TunnelState) (age : Option Int) (l : Loop Key) :
    Loop Key × Bool → Prop where
  | alone (l' : Loop Key) (h : l.tm.gateways.length ≤ 1) (htm : l'.tm = l.tm) :
      Outcome seen age l (l', false)
  | reset (h : ¬ (seen = .connected ∧ noHandshake age = true)) :
      Outcome seen age l ({ l with noHandshakeCount := 0 }, false)
  | count (h : seen = .connected ∧ noHandshake age = true) (hfew : l.noHandshakeCount < 2) :
      Outcome seen age l ({ l with noHandshakeCount := l.noHandshakeCount + 1 }, false)
  | failover (iface : Interface Key) (h : seen = .connected ∧ noHandshake age = true)
      (hmany : 2 ≤ l.tm.gateways.length) (hcount : 2 ≤ l.noHandshakeCount) :
      Outcome seen age l
        ({ l with tm := nextGateway l.tm, iface := iface, noHandshakeCount := 0 }, true)

variable {r : Loop Key × Bool}

theorem Scheduled.health (h : Scheduled gateways past l) (hout : Outcome seen age l r) :
    Scheduled gateways (past ++ [.health seen age r.2]) r.1 := by
  obtain ⟨rfl, hindex, hcounted, halone⟩ := h
  cases hout with
  | alone l' hone htm =>
    refine ⟨congrArg _ htm, ?_, fun hmany => absurd hmany (by omega), ?_⟩
    · rw [failovers_concat, htm]
      exact hindex
    · rw [failovers_concat]
      exact halone
  | reset hseen =>
    refine ⟨rfl, ?_, fun _ => ?_, ?_⟩
    · rw [failovers_concat]
      exact hindex
    · rw [streak_health, if_neg hseen]
    · rw [failovers_concat]
      exact halone
  | count hseen hfew =>
    refine ⟨rfl, ?_, fun hmany => ?_, ?_⟩
    · rw [failovers_concat]
      exact hindex
    · rw [streak_health, if_pos hseen]
      dsimp only
      omega
    · rw [failovers_concat]
      exact halone
  | failover iface hseen hmany hcount =>
    refine ⟨rfl, ?_, fun _ => ?_, fun hone => absurd hone (by omega)⟩
    · rw [failovers_concat]
      change (l.tm.currentGateway + 1) % _ = (failovers past + 1) % _
      rw [hindex, Nat.mod_add_mod]
    · rw [streak_health, if_pos hseen]
      dsimp only
      omega

theorem failover_iff (h : Scheduled gateways past l) (hmany : 2 ≤ gateways.length)
    (hout : Outcome seen age l r) :
    r.2 = true ↔ (seen = .connected ∧ noHandshake age = true) ∧
      3 ∣ streak (past ++ [.health seen age r.2]) := by
  obtain ⟨rfl, _, hcounted, _⟩ := h
  rw [streak_health]
  cases hout with
  | alone l' hone _ => omega
  | reset hseen => simp [hseen]
  | count hseen hfew =>
    simp only [if_pos hseen, Bool.false_eq_true, false_iff, not_and]
    omega
  | failover iface hseen _ hcount =>
    simp only [if_pos hseen, true_iff]
    exact ⟨hseen, by omega⟩

variable [DecidableEq Key] (env : Env Key)

/-- The second component says whether the tick fails over. -/
def healthTick (age : Option Int) (l : Loop Key) : Loop Key × Bool :=
  if l.tm.state ≠ .connected then ({ l with noHandshakeCount := 0 }, false)
  else if l.tm.gateways.length ≤ 1 then (l, false)
  else if noHandshake age then
    if 3 ≤ l.noHandshakeCount + 1 then
      let r := failoverToNextGateway env l.tm l.iface
      ({ l with tm := r.1, iface := r.2.2, noHandshakeCount := 0 }, true)
    else ({ l with noHandshakeCount := l.noHandshakeCount + 1 }, false)
  else ({ l with noHandshakeCount := 0 }, false)

/-- A tick of the loop, or whatever the rest of the client does. -/
inductive Step (l : Loop Key) : Event → Loop Key → Prop where
  | posture (report : Option Bool) (h : l.running = true) : Step l .other (postureTick report l)
  | refresh (ok : Bool) (h : l.running = true) : Step l .other (refreshTick ok l)
  | health (age : Option Int) (h : l.running = true) :
      Step l (.health l.tm.state age (healthTick env age l).2) (healthTick env age l).1
  | outside (state : TunnelState) (wgDevice : Bool) (iface : Interface Key) :
      Step l .other
        { l with tm := { l.tm with state := state, wgDevice := wgDevice }, iface := iface }

inductive Tick where
  | posture (report : Option Bool)
  | refresh (ok : Bool)
  | health (age : Option Int)
deriving DecidableEq

def tick (l : Loop Key) (t : Tick) : Loop Key :=
  if l.running then match t with
    | .posture report => postureTick report l
    | .refresh ok => refreshTick ok l
    | .health age => (healthTick env age l).1
  else l

theorem healthTick_kept : (healthTick env age l).1.running = l.running ∧
    (healthTick env age l).1.tm.state = l.tm.state := by
  unfold healthTick
  split_ifs
  · exact ⟨rfl, rfl⟩
  · exact ⟨rfl, rfl⟩
  · dsimp only
    rw [failoverToNextGateway_fst (by omega)]
    exact ⟨rfl, rfl⟩
  · exact ⟨rfl, rfl⟩
  · exact ⟨rfl, rfl⟩

theorem tick_state {t : Tick} (hrunning : l.running = true) (hfree : t ≠ .posture (some true)) :
    (tick env l t).running = true ∧
      (tick env l t).tm.state = if t = .refresh false then .mfaRequired else l.tm.state := by
  unfold tick
  rw [if_pos hrunning]
  cases t with
  | posture report =>
    have hreport : ¬ (l.tm.state = .connected ∧ report = some true) :=
      fun h => hfree (congrArg _ h.2)
    simp only [postureTick, if_neg hreport]
    exact ⟨hrunning, rfl⟩
  | refresh ok => cases ok <;> exact ⟨hrunning, rfl⟩
  | health age =>
    obtain ⟨hkept, hstate⟩ := healthTick_kept env
    exact ⟨hkept.trans hrunning, hstate⟩

theorem ticks_state {ticks : List Tick} (hrunning : l.running = true)
    (hfree : .posture (some true) ∉ ticks) : (ticks.foldl (tick env) l).tm.state =
      if .refresh false ∈ ticks then .mfaRequired else l.tm.state := by
  induction ticks generalizing l with
  | nil => rfl
  | cons t ticks ih =>
    obtain ⟨ht, hticks⟩ := not_or.mp (mt List.mem_cons.mpr hfree)
    obtain ⟨hnext, hstate⟩ := tick_state env hrunning (Ne.symm ht)
    rw [List.foldl_cons, ih hnext hticks, hstate]
    by_cases hfailed : t = .refresh false
    · simp [hfailed]
    · simp [hfailed, Ne.symm hfailed]

/-- No tick leads from `mfaRequired` back to a connected tunnel. -/
theorem connected_iff_no_failed_refresh {ticks : List Tick} (hrunning : l.running = true)
    (hstart : l.tm.state = .connected) (hfree : .posture (some true) ∉ ticks) :
    (ticks.foldl (tick env) l).tm.state = .connected ↔ .refresh false ∉ ticks := by
  rw [ticks_state env hrunning hfree, hstart]
  split
  · rename_i hfailed
    exact iff_of_false (by decide) (not_not.mpr hfailed)
  · rename_i hnone
    exact iff_of_true rfl hnone

variable {env}

theorem healthTick_outcome : Outcome l.tm.state age l (healthTick env age l) := by
  unfold healthTick
  split_ifs with hstate hone hstale hthree
  · exact .reset fun h => hstate h.1
  · exact .alone l hone rfl
  · dsimp only
    rw [failoverToNextGateway_fst (by omega)]
    exact .failover _ ⟨not_not.mp hstate, hstale⟩ (by omega) (by omega)
  · exact .count ⟨not_not.mp hstate, hstale⟩ (by omega)
  · exact .reset fun h => hstale h.2

theorem scheduled_step (hstep : Step env l e l') (h : Scheduled gateways past l) :
    Scheduled gateways (past ++ [e]) l' := by
  cases hstep with
  | posture report _ =>
    unfold postureTick
    split
    · exact h.other
    · exact h.other
  | refresh ok _ =>
    unfold refreshTick
    split
    · exact h.other
    · exact h.other
  | health age _ => exact h.health healthTick_outcome
  | outside state wgDevice iface => exact h.other

theorem scheduled_run {l₀ : Loop Key} (hrun : Run (Step env) l₀ events l)
    (hindex : l₀.tm.currentGateway = 0) (hcount : l₀.noHandshakeCount = 0) :
    Scheduled l₀.tm.gateways events l := by
  apply hrun.history (I := Scheduled l₀.tm.gateways)
  · exact fun past s e t hstep h => scheduled_step hstep h
  · exact ⟨rfl, hindex.trans (Nat.zero_mod _).symm, fun _ => hcount, fun _ => rfl⟩

/-- The index counts the failovers. With several gateways a health tick fails over exactly if it is
the third in a row without a recent handshake. -/
theorem failover_schedule {l₀ : Loop Key} (hrun : Run (Step env) l₀ events l)
    (hgateways : l₀.tm.gateways ≠ []) (hindex : l₀.tm.currentGateway = 0)
    (hcount : l₀.noHandshakeCount = 0) :
    l.tm.currentGateway < l.tm.gateways.length ∧
    l.tm.currentGateway = failovers events % l₀.tm.gateways.length ∧
    (l₀.tm.gateways.length = 1 → failovers events = 0) ∧
    (2 ≤ l₀.tm.gateways.length →
      ∀ past seen age failover rest, events = past ++ .health seen age failover :: rest →
        (failover = true ↔ (seen = .connected ∧ noHandshake age = true) ∧
          3 ∣ streak (past ++ [.health seen age failover]))) := by
  have hscheduled := scheduled_run hrun hindex hcount
  refine ⟨?_, hscheduled.index, fun hone => hscheduled.alone (by omega), ?_⟩
  · rw [hscheduled.index, hscheduled.fixed]
    exact Nat.mod_lt _ (List.length_pos_iff.mpr hgateways)
  · intro hmany past seen age failover rest hevents
    subst hevents
    obtain ⟨s, hpast, hrest⟩ := hrun.of_append
    have hbefore := scheduled_run hpast hindex hcount
    cases hrest with
    | cons hstep _ =>
      cases hstep with
      | health age _ => exact failover_iff hbefore hmany healthTick_outcome

end Loop

def textEnv : Env String := ⟨some, some⟩

def pair (darwin : Bool) : TunnelManager :=
  connect darwin [⟨"first-key", "192.0.2.1:51820"⟩, ⟨"second-key", "192.0.2.2:51820"⟩]
    ["10.0.0.0/8"]

theorem third_tick_fails_over :
    ∃ l, Run (Step textEnv) ⟨pair false, fun _ => none, 0, true⟩ [.health .connected none false,
      .health .connected none false, .health .connected none true] l ∧ l.tm.currentGateway = 1 := by
  refine ⟨_, .cons (.health none rfl) (.cons (.health none rfl) (.cons (.health none rfl) (.nil _))),
    ?_⟩
  exact (failover_schedule (.cons (.health none rfl) (.cons (.health none rfl)
    (.cons (.health none rfl) (.nil _)))) (by simp [pair, connect]) rfl rfl).2.1

def connectedPair : Loop String := ⟨pair false, fun _ => none, 0, true⟩

theorem pair_stays_connected :
    ([.refresh true, .posture none].foldl (tick textEnv) connectedPair).tm.state = .connected :=
  (connected_iff_no_failed_refresh textEnv rfl rfl (by decide)).mpr (by decide)

theorem refresh_does_not_recover : ([.refresh false, .refresh true, .health none].foldl
    (tick textEnv) connectedPair).tm.state = .mfaRequired := rfl

end Outpost.ClientTunnel
