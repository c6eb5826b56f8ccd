import Outpost.DeviceHandler
import Outpost.Enforcement
import Outpost.Shared.Runs

/-!
# Concurrent requests on one device

Approve, revoke and delete requests on one device, each a database step followed by a notification
step, interleaved with the deliveries to a gateway that stays connected.
-/

namespace Outpost.DeviceRequests

open DeviceHandler GatewayAgent PeerNotifier Runs

variable {Key : Type} [DecidableEq Key]

structure State (Key : Type) where
  db : Database
  clock : Nat
  inFlight : List (Nat × Notification)
  stream : List CoreEvent
  agent : Agent Key

inductive Label where
  | request (r : Request)
  | notify (number : Nat)
  | deliver

section Steps

variable (env : AgentEnv Key) (gatewayID id : Uuid)

inductive Step : State Key → Label → State Key → Prop where
  | request {s : State Key} {r : Request} {db : Database} {note : Option Notification} :
      r.deviceID = id → handle s.db r = .ok (db, note) →
      Step s (.request r) { s with
        db := db
        clock := s.clock + 1
        inFlight := s.inFlight ++ note.toList.map fun n => (s.clock + 1, n) }
  | refused {s : State Key} {r : Request} {err : HandlerError} :
      r.deviceID = id → handle s.db r = .error err → Step s (.request r) s
  | notify {s : State Key} {before after : List (Nat × Notification)} {number : Nat}
      {note : Notification} (n : NotifyEnv) :
      n.Reliable → s.inFlight = before ++ (number, note) :: after →
      Step s (.notify number) { s with
        inFlight := before ++ after
        stream := s.stream ++ eventsFor gatewayID (note.calls n s.db) }
  | deliver {s : State Key} {event : CoreEvent} {rest : List CoreEvent} :
      s.stream = event :: rest →
      Step s .deliver { s with stream := rest, agent := handleEvent env s.agent event }

theorem Step.request_at {db db' : Database} {r : Request} {note : Notification}
    (hid : r.deviceID = id) (h : handle db r = .ok (db', some note)) (clock : Nat)
    (inFlight : List (Nat × Notification)) (stream : List CoreEvent) (agent : Agent Key) :
    Step env gatewayID id ⟨db, clock, inFlight, stream, agent⟩ (.request r)
      ⟨db', clock + 1, inFlight ++ [(clock + 1, note)], stream, agent⟩ :=
  @Step.request _ _ env gatewayID id ⟨db, clock, inFlight, stream, agent⟩ r db' (some note) hid h

theorem Step.notify_at {n : NotifyEnv} (reliable : n.Reliable) (db : Database) (clock : Nat)
    (before after : List (Nat × Notification)) (number : Nat) (note : Notification)
    (stream : List CoreEvent) (agent : Agent Key) :
    Step env gatewayID id ⟨db, clock, before ++ (number, note) :: after, stream, agent⟩
      (.notify number)
      ⟨db, clock, before ++ after, stream ++ eventsFor gatewayID (note.calls n db), agent⟩ :=
  .notify n reliable rfl

def LastNotifiesLast (s : State Key) : Label → Prop
  | .notify number => s.inFlight.length = 1 → number = s.clock
  | _ => True

end Steps

structure Quiet (s : State Key) : Prop where
  inFlight : s.inFlight = []
  stream : s.stream = []

section Convergence

variable (env : AgentEnv Key) (id : Uuid) (pubkey : String) (k : Key)

def Reflects (db : Database) (a : Agent Key) : Prop :=
  HasPeer a k ↔ Approved db id ∧ ¬ Evicted env.wg db pubkey

/-- The number of a debt tells whether it is the latest one, and the latest one is right about the
database. -/
structure Consistent (s : State Key) : Prop where
  managed : s.agent.wg.isSome = true
  row : HasKey s.db id pubkey
  numbered : ∀ p ∈ s.inFlight, p.1 ≤ s.clock ∧ p.2.pubkey = pubkey
  latest : ∀ p ∈ s.inFlight, p.1 = s.clock → (p.2.isAdd = true ↔ Approved s.db id)
  settled : s.inFlight = [] → Reflects env id pubkey k s.db (handleEvents env s.stream s.agent)

variable {env id pubkey k}

theorem reflects_notify {n : NotifyEnv} (reliable : n.Reliable)
    (hkey : env.wg.parseKey pubkey = some k) (gatewayID : Uuid) {db : Database}
    {note : Notification} (hpk : note.pubkey = pubkey)
    (hright : note.isAdd = true ↔ Approved db id) {a : Agent Key}
    (managed : a.wg.isSome = true) :
    Reflects env id pubkey k db
      (handleEvents env (eventsFor gatewayID (note.calls n db)) a) := by
  unfold Reflects
  cases note with
  | peerAdd pk ips =>
    obtain rfl : pk = pubkey := hpk
    have happroved : Approved db id := hright.mp rfl
    rw [Notification.calls, hasPeer_notifyPeerAdd reliable db gatewayID hkey ips managed]
    exact ⟨fun h => ⟨happroved, h⟩, fun h => h.2⟩
  | peerRemove pk =>
    obtain rfl : pk = pubkey := hpk
    have hgone : ¬ Approved db id := fun h => Bool.noConfusion (hright.mpr h)
    exact ⟨fun h => absurd h (hasPeer_notifyPeerRemove db gatewayID hkey a),
      fun h => absurd h.1 hgone⟩

theorem consistent_step (hne : pubkey ≠ "") (hkey : env.wg.parseKey pubkey = some k)
    (gatewayID : Uuid) {s t : State Key} {l : Label}
    (h : Guarded (Step env gatewayID id) LastNotifiesLast s l t)
    (inv : Consistent env id pubkey k s) : Consistent env id pubkey k t := by
  obtain ⟨h, guard⟩ := h
  cases h with
  | @request r db note hid hhandle =>
    subst hid
    obtain ⟨hrow, d, rfl, hpk, hright⟩ := handle_spec hne inv.row hhandle
    refine ⟨inv.managed, hrow, ?_, ?_, ?_⟩
    · intro p hp
      rcases List.mem_append.mp hp with hp | hp
      · exact ⟨Nat.le_succ_of_le (inv.numbered p hp).1, (inv.numbered p hp).2⟩
      · obtain rfl := List.mem_singleton.mp hp
        exact ⟨Nat.le_refl _, hpk⟩
    · intro p hp hlast
      rcases List.mem_append.mp hp with hp | hp
      · -- an older debt does not have the new number
        have hle := (inv.numbered p hp).1
        dsimp only at hlast
        omega
      · obtain rfl := List.mem_singleton.mp hp
        exact hright
    · intro hnil
      exact absurd hnil (by simp)
  | refused => exact inv
  | @notify before after number note n reliable hflight =>
    have hin : (number, note) ∈ s.inFlight := by simp [hflight]
    have hsub : ∀ p ∈ before ++ after, p ∈ s.inFlight := by
      intro p hp
      rw [hflight]
      rcases List.mem_append.mp hp with hp | hp
      · exact List.mem_append_left _ hp
      · exact List.mem_append_right _ (List.mem_cons_of_mem _ hp)
    refine ⟨inv.managed, inv.row, fun p hp => inv.numbered p (hsub p hp),
      fun p hp => inv.latest p (hsub p hp), ?_⟩
    intro hnil
    obtain ⟨hbefore, hafter⟩ := List.append_eq_nil_iff.mp hnil
    have hlast : number = s.clock := guard (by simp [hflight, hbefore, hafter])
    rw [handleEvents_append]
    apply reflects_notify reliable hkey gatewayID (inv.numbered _ hin).2 (inv.latest _ hin hlast)
    rw [managed_handleEvents]
    exact inv.managed
  | @deliver event rest hstream =>
    refine ⟨?_, inv.row, inv.numbered, inv.latest, ?_⟩
    · rw [managed_handleEvent]
      exact inv.managed
    · intro hnil
      have hsettled := inv.settled hnil
      rw [hstream] at hsettled
      exact hsettled

/-- If the last notification is that of the latest database step, the gateway ends with the device
as a peer exactly when it has an approved row and ZTNA does not evict it. -/
theorem approval_reflected (hne : pubkey ≠ "") (hkey : env.wg.parseKey pubkey = some k)
    {gatewayID : Uuid} {s t : State Key} {labels : List Label}
    (managed : s.agent.wg.isSome = true) (row : HasKey s.db id pubkey) (quiet : Quiet s)
    (start : Reflects env id pubkey k s.db s.agent)
    (run : Run (Guarded (Step env gatewayID id) LastNotifiesLast) s labels t) (done : Quiet t) :
    HasPeer t.agent k ↔ Approved t.db id ∧ ¬ Evicted env.wg t.db pubkey := by
  have initial : Consistent env id pubkey k s := by
    refine ⟨managed, row, ?_, ?_, ?_⟩
    · simp [quiet.inFlight]
    · simp [quiet.inFlight]
    · intro _
      rw [quiet.stream]
      exact start
  have final := run.invariant (fun _ _ _ h inv => consistent_step hne hkey gatewayID h inv) initial
  have settled := final.settled done.inFlight
  rw [done.stream] at settled
  exact settled

end Convergence

theorem drain (env : AgentEnv Key) (gatewayID id : Uuid) (s : State Key) :
    Run (Guarded (Step env gatewayID id) LastNotifiesLast) s
      (List.replicate s.stream.length .deliver)
      { s with stream := [], agent := handleEvents env s.stream s.agent } := by
  obtain ⟨db, clock, inFlight, stream, agent⟩ := s
  induction stream generalizing agent with
  | nil => exact .nil _
  | cons event rest ih => exact .cons ⟨.deliver rfl, trivial⟩ (ih (handleEvent env agent event))

def waiting (config : Option TrustScoreConfig) : State String :=
  ⟨{ (officeDb "k" []).setApproved "laptop" false with trustScoreConfig := config },
    0, [], [], freshAgent⟩

theorem waiting_idle (config : Option TrustScoreConfig) :
    ¬ Approved (waiting config).db "laptop" ∧ ¬ HasPeer (waiting config).agent "k" := by
  constructor
  · rintro ⟨d, hd, _, happ⟩
    obtain rfl := List.mem_singleton.mp hd
    cases happ
  · rintro ⟨iface, hiface, h⟩
    obtain rfl := Option.some.inj hiface
    cases h

def approved (config : Option TrustScoreConfig) : State String :=
  let db := (waiting config).db.setApproved "laptop" true
  ⟨db, 1, [], eventsFor "gw" (notifyPeerAdd quietNotify db "k" ["10.0.0.2/32"]), freshAgent⟩

theorem approve_run (config : Option TrustScoreConfig) :
    Run (Guarded (Step textKeys "gw" "laptop") LastNotifiesLast) (waiting config)
      [.request (.approve "laptop"), .notify 1] (approved config) := by
  have happrove : handle (waiting config).db (.approve "laptop") =
      .ok ((waiting config).db.setApproved "laptop" true,
        some (.peerAdd "k" ["10.0.0.2/32"])) := rfl
  have hnotify := Step.notify_at textKeys "gw" "laptop" quietNotify_reliable
    ((waiting config).db.setApproved "laptop" true) 1 [] [] 1 (.peerAdd "k" ["10.0.0.2/32"]) []
    freshAgent
  exact .cons ⟨Step.request_at textKeys "gw" "laptop" rfl happrove 0 [] [] freshAgent, trivial⟩
    (.single ⟨hnotify, fun _ => rfl⟩)

theorem approval_reflected_laptop :
    ∃ labels t, Run (Guarded (Step textKeys "gw" "laptop") LastNotifiesLast) (waiting none)
        labels t ∧ Quiet t ∧
      (HasPeer t.agent "k" ↔ Approved t.db "laptop" ∧ ¬ Evicted textKeys.wg t.db "k") := by
  have run := (approve_run none).trans (drain textKeys "gw" "laptop" (approved none))
  have row : HasKey (waiting none).db "laptop" "k" := by
    intro d hd _
    obtain rfl := List.mem_singleton.mp hd
    rfl
  have start : Reflects textKeys "laptop" "k" "k" (waiting none).db (waiting none).agent :=
    ⟨fun h => absurd h (waiting_idle none).2, fun h => absurd h.1 (waiting_idle none).1⟩
  exact ⟨_, _, run, ⟨rfl, rfl⟩,
    approval_reflected (by decide) rfl rfl row ⟨rfl, rfl⟩ start run ⟨rfl, rfl⟩⟩

theorem approved_evicted : Evicted textKeys.wg (approved (some ⟨false, true⟩)).db "k" := by
  refine ⟨"gw", by decide, laptop "k", .head _, ?_, rfl⟩
  refine ⟨⟨rfl, by decide⟩, ⟨⟨"gw", "office"⟩, .head _, rfl, rfl⟩, _,
    ⟨alice, .head _, rfl, "office", rfl, rfl⟩, ?_⟩
  decide

/-- A removal notified after a later approval takes the approved device away; and a rule that blocks
untrusted devices keeps an approved one from staying a peer. -/
theorem approved_device_not_peer :
    (∀ config, ¬ Approved (waiting config).db "laptop" ∧ ¬ HasPeer (waiting config).agent "k") ∧
    (∃ labels t, Run (Step textKeys "gw" "laptop") (waiting none) labels t ∧ Quiet t ∧
      Approved t.db "laptop" ∧ ¬ HasPeer t.agent "k") ∧
    (∃ labels t, Run (Step textKeys "gw" "laptop") (waiting (some ⟨false, true⟩)) labels t ∧
      Quiet t ∧ Approved t.db "laptop" ∧ ¬ HasPeer t.agent "k") := by
  have unguarded : ∀ (s : State String) (l : Label) (t : State String),
      Guarded (Step textKeys "gw" "laptop") LastNotifiesLast s l t →
        Step textKeys "gw" "laptop" s l t := fun _ _ _ h => h.1
  refine ⟨waiting_idle, ?_, ?_⟩
  · let revoked := (waiting none).db.setApproved "laptop" false
    let db := revoked.setApproved "laptop" true
    have hrevoke : handle (waiting none).db (.revoke "laptop") =
        .ok (revoked, some (.peerRemove "k")) := rfl
    have happrove : handle revoked (.approve "laptop") =
        .ok (db, some (.peerAdd "k" ["10.0.0.2/32"])) := rfl
    -- the second request overtakes the first one between their two steps
    have hadd := Step.notify_at textKeys "gw" "laptop" quietNotify_reliable db 2
      [(1, .peerRemove "k")] [] 2 (.peerAdd "k" ["10.0.0.2/32"]) [] freshAgent
    have hremove := Step.notify_at textKeys "gw" "laptop" quietNotify_reliable db 2 [] [] 1
      (.peerRemove "k") (eventsFor "gw" (notifyPeerAdd quietNotify db "k" ["10.0.0.2/32"]))
      freshAgent
    have run := (Run.cons (Step.request_at textKeys "gw" "laptop" rfl hrevoke 0 [] [] freshAgent)
      (.cons (Step.request_at textKeys "gw" "laptop" rfl happrove 1 [(1, .peerRemove "k")] []
        freshAgent) (.cons hadd (.single hremove)))).trans
        ((drain textKeys "gw" "laptop" _).mono unguarded)
    refine ⟨_, _, run, ⟨rfl, rfl⟩, by decide, ?_⟩
    rw [handleEvents_append]
    exact hasPeer_notifyPeerRemove db "gw" rfl _
  · have run := ((approve_run (some ⟨false, true⟩)).trans
      (drain textKeys "gw" "laptop" (approved (some ⟨false, true⟩)))).mono unguarded
    refine ⟨_, _, run, ⟨rfl, rfl⟩, by decide, ?_⟩
    intro hpeer
    exact (hasPeer_notifyPeerAdd quietNotify_reliable _ "gw" rfl _ rfl).mp hpeer approved_evicted

end Outpost.DeviceRequests
