import Outpost.DeviceHandler
import Outpost.GatewaySync
import Outpost.Shared.Runs

/-!
# Revocations during the opening of a sync stream

`Sync` registers the stream, then reads the peers, then sends them as a full resync. Between these
steps devices may be revoked or deleted, the database first, the broadcast later.
-/

namespace Outpost.SyncRevocation

open DeviceHandler GatewayAgent PeerNotifier Runs

variable {Key : Type} [DecidableEq Key]

inductive Phase where
  | closed
  | registered
  | read (config : Option GatewayConfig)
  | synced
deriving DecidableEq

structure State (Key : Type) where
  db : Database
  inFlight : List Notification
  phase : Phase
  stream : List CoreEvent
  agent : Agent Key

inductive Label where
  | request (r : Request)
  | notify (note : Notification)
  | register
  | read
  | send
  | deliver

section Steps

variable (env : AgentEnv Key) (gatewayID : Uuid)

def State.push (s : State Key) (events : List CoreEvent) : List CoreEvent :=
  if s.phase = .closed then s.stream else s.stream ++ events

inductive Step : State Key → Label → State Key → Prop where
  | request {s : State Key} {r : Request} {db : Database} {note : Option Notification} :
      r.isRemoval = true → handle s.db r = .ok (db, note) →
      Step s (.request r) { s with db := db, inFlight := s.inFlight ++ note.toList }
  | refused {s : State Key} {r : Request} {err : HandlerError} :
      r.isRemoval = true → handle s.db r = .error err → Step s (.request r) s
  | notify {s : State Key} {before after : List Notification} {note : Notification}
      (n : NotifyEnv) :
      n.Reliable → s.inFlight = before ++ note :: after →
      Step s (.notify note) { s with
        inFlight := before ++ after
        stream := s.push (eventsFor gatewayID (note.calls n s.db)) }
  | register {s : State Key} :
      s.phase = .closed → Step s .register { s with phase := .registered }
  | read {s : State Key} (faults : SyncFaults) (orders : SyncOrders) :
      s.phase = .registered →
      Step s .read { s with phase := .read (syncOpening faults orders s.db gatewayID) }
  | send {s : State Key} {config : Option GatewayConfig} :
      s.phase = .read config →
      Step s .send { s with
        phase := .synced
        stream := s.stream ++ config.toList.map .fullResync }
  | deliver {s : State Key} {event : CoreEvent} {rest : List CoreEvent} :
      s.stream = event :: rest →
      Step s .deliver { s with stream := rest, agent := handleEvent env s.agent event }

def State.upcoming (s : State Key) : Agent Key := handleEvents env s.stream s.agent

def Covered (s : State Key) (d : Device) : Prop :=
  Approved s.db d.id ∨ .peerRemove d.wireguardPubkey ∈ s.inFlight

/-- The stream is registered, and the resync sent, while the removal of every peer without an
approved row is still to be broadcast. -/
def Timely (known : List Device) (s : State Key) : Label → Prop
  | .register => ∀ d ∈ known, ∀ k, env.wg.parseKey d.wireguardPubkey = some k →
      HasPeer (s.upcoming env) k → Covered s d
  | .send => ∀ config, s.phase = .read (some config) → ∀ d ∈ known, ∀ p ∈ resyncPeers config,
      env.wg.parseKey p.publicKey = env.wg.parseKey d.wireguardPubkey → Covered s d
  | _ => True

end Steps

section Covering

variable {env : AgentEnv Key} {gatewayID : Uuid} {known : List Device} {d : Device} {k : Key}

variable (env d k) in
structure Covers (s : State Key) : Prop where
  row : HasKey s.db d.id d.wireguardPubkey
  removals : ∀ note ∈ s.inFlight, ∃ pubkey, note = .peerRemove pubkey
  covered : s.phase ≠ .closed → HasPeer (s.upcoming env) k → Covered s d

omit [DecidableEq Key] in
theorem covered_request {s : State Key} {r : Request} {db : Database}
    {note : Option Notification} (hne : d.wireguardPubkey ≠ "") (hremoval : r.isRemoval = true)
    (hrow : HasKey s.db d.id d.wireguardPubkey) (h : handle s.db r = .ok (db, note))
    (hcovered : Covered s d) :
    Covered { s with db := db, inFlight := s.inFlight ++ note.toList } d := by
  obtain ⟨e, he, hid, rfl, rfl⟩ := handle_inv h
  by_cases hsame : r.deviceID = d.id
  · -- the device itself: its removal is now owed
    have hkey : e.wireguardPubkey = d.wireguardPubkey := hrow e he (hid.trans hsame)
    apply Or.inr
    rw [if_pos (hkey ▸ hne), Request.debt_removal hremoval, hkey]
    exact List.mem_append_right _ (List.mem_singleton_self _)
  · rcases hcovered with happroved | hpending
    · exact Or.inl ((approved_frame hsame).mpr happroved)
    · exact .inr (List.mem_append_left _ hpending)

theorem covered_notify {n : NotifyEnv} {s : State Key} {before after : List Notification}
    {pubkey : String} (hkey : env.wg.parseKey d.wireguardPubkey = some k)
    (hflight : s.inFlight = before ++ .peerRemove pubkey :: after) (hopen : s.phase ≠ .closed)
    (hcovered : HasPeer (s.upcoming env) k → Covered s d)
    (hpeer : HasPeer (handleEvents env
      (s.push (eventsFor gatewayID (notifyPeerRemove n s.db pubkey))) s.agent) k) :
    Approved s.db d.id ∨ .peerRemove d.wireguardPubkey ∈ before ++ after := by
  rw [State.push, if_neg hopen, handleEvents_append,
    hasPeer_push gatewayID (notifyPeerRemove_isPush n s.db pubkey)] at hpeer
  rcases hcovered hpeer.1 with happroved | hpending
  · exact .inl happroved
  · rw [hflight] at hpending
    rcases List.mem_append.mp hpending with hin | hin
    · exact .inr (List.mem_append_left _ hin)
    · rcases List.mem_cons.mp hin with heq | hin
      · obtain rfl := Notification.peerRemove.inj heq
        exact absurd hkey (hpeer.2 _ List.mem_cons_self)
      · exact .inr (List.mem_append_right _ hin)

theorem covers_step (hd : d ∈ known) (hne : d.wireguardPubkey ≠ "")
    (hkey : env.wg.parseKey d.wireguardPubkey = some k) {s t : State Key} {l : Label}
    (h : Guarded (Step env gatewayID) (Timely env known) s l t) (inv : Covers env d k s) :
    Covers env d k t := by
  obtain ⟨h, timely⟩ := h
  cases h with
  | @request r db note hremoval hhandle =>
    refine ⟨?_, ?_, fun hopen hpeer =>
      covered_request hne hremoval inv.row hhandle (inv.covered hopen hpeer)⟩
    · obtain ⟨e, he, hid, rfl, _⟩ := handle_inv hhandle
      by_cases hsame : r.deviceID = d.id
      · have hrow := inv.row
        rw [← hsame] at hrow ⊢
        exact hasKey_statement r hrow
      · exact hasKey_frame hsame inv.row
    · intro note' hin
      rcases List.mem_append.mp hin with hin | hin
      · exact inv.removals note' hin
      · obtain ⟨e, _, _, _, rfl⟩ := handle_inv hhandle
        rw [Option.mem_toList, Option.ite_none_right_eq_some] at hin
        exact ⟨_, (Option.some.inj hin.2).symm.trans (Request.debt_removal hremoval e)⟩
  | refused => exact inv
  | @notify before after note n reliable hflight =>
    obtain ⟨pubkey, rfl⟩ := inv.removals note (by simp [hflight])
    refine ⟨inv.row, ?_, fun hopen hpeer =>
      covered_notify (s := s) hkey hflight hopen (inv.covered hopen) hpeer⟩
    intro note' hin
    apply inv.removals
    rw [hflight]
    rcases List.mem_append.mp hin with hin | hin
    · exact List.mem_append_left _ hin
    · exact List.mem_append_right _ (List.mem_cons_of_mem _ hin)
  | register hphase => exact ⟨inv.row, inv.removals, fun _ hpeer => timely d hd k hkey hpeer⟩
  | read faults orders hphase =>
    refine ⟨inv.row, inv.removals, fun _ hpeer => inv.covered ?_ hpeer⟩
    rw [hphase]
    exact Phase.noConfusion
  | @send config hphase =>
    have hopen : s.phase ≠ .closed := by
      rw [hphase]
      exact Phase.noConfusion
    refine ⟨inv.row, inv.removals, fun _ hpeer => ?_⟩
    cases config with
    | none =>
      apply inv.covered hopen
      simpa [State.upcoming] using hpeer
    | some config =>
      have hpeer' : HasPeer (handleEvent env (s.upcoming env) (.fullResync config)) k := by
        simpa [State.upcoming, handleEvents] using hpeer
      rcases hpeer'.of_fullResync with ⟨p, hp, hpk⟩ | hpeer'
      · exact timely config hphase d hd p hp (hpk.trans hkey.symm)
      · exact inv.covered hopen hpeer'
  | @deliver event rest hstream =>
    refine ⟨inv.row, inv.removals, fun hopen hpeer => inv.covered hopen ?_⟩
    rw [State.upcoming, hstream]
    exact hpeer

end Covering

/-- If registration and resync are timely, then once nothing is in flight and every event is
handled, each peer that is the key of a device has an approved row for it. -/
theorem revoked_not_peer {env : AgentEnv Key} {gatewayID : Uuid} {s t : State Key}
    {labels : List Label} (closed : s.phase = .closed) (idle : s.inFlight = [])
    (run : Run (Guarded (Step env gatewayID) (Timely env s.db.devices)) s labels t)
    (synced : t.phase = .synced) (done : t.inFlight = []) (delivered : t.stream = []) :
    ∀ d ∈ s.db.devices, d.wireguardPubkey ≠ "" → ∀ k,
      env.wg.parseKey d.wireguardPubkey = some k → HasPeer t.agent k → Approved t.db d.id := by
  intro d hd hne k hkey hpeer
  have initial : Covers env d k s := by
    refine ⟨?_, ?_, fun hopen => absurd closed hopen⟩
    · intro e he hid
      rw [s.db.device_eq_of_id he hd hid]
    · rw [idle]
      exact fun _ hin => absurd hin List.not_mem_nil
  have final := run.invariant (fun _ _ _ h inv => covers_step hd hne hkey h inv) initial
  have hopen : t.phase ≠ .closed := by
    rw [synced]
    exact Phase.noConfusion
  have hupcoming : HasPeer (t.upcoming env) k := by
    rw [State.upcoming, delivered]
    exact hpeer
  rcases final.covered hopen hupcoming with happroved | hpending
  · exact happroved
  · rw [done] at hpending
    exact absurd hpending List.not_mem_nil

theorem drain (env : AgentEnv Key) (gatewayID : Uuid) (known : List Device) (s : State Key) :
    Run (Guarded (Step env gatewayID) (Timely env known)) s
      (List.replicate s.stream.length .deliver) { s with stream := [], agent := s.upcoming env } := by
  obtain ⟨db, inFlight, phase, stream, agent⟩ := s
  induction stream generalizing agent with
  | nil => exact .nil _
  | cons event rest ih => exact .cons ⟨.deliver rfl, trivial⟩ (ih (handleEvent env agent event))

def reconnecting : State String :=
  ⟨officeDb "k" [], [], .closed, [],
    handleEvent textKeys freshAgent (.peerUpdate (addition "k" ["10.0.0.2/32"]))⟩

theorem reconnecting_peer : HasPeer reconnecting.agent "k" :=
  (hasPeer_add rfl _ "k").mpr (.inl rfl)

def revokedDb : Database := (officeDb "k" []).setApproved "laptop" false

theorem revoke_laptop :
    handle (officeDb "k" []) (.revoke "laptop") = .ok (revokedDb, some (.peerRemove "k")) := rfl

theorem revokedDb_not_approved : ¬ Approved revokedDb "laptop" := by decide

def snapshot (db : Database) : Option GatewayConfig := syncOpening {} .asListed db "gw"

theorem snapshot_approved : ∃ cfg, snapshot (officeDb "k" []) = some cfg ∧
    cfg.peers = [⟨"k", ["10.0.0.2/32"], "", 25⟩] :=
  ⟨_, rfl, by decide⟩

theorem opening_run (s : State String) (known : List Device) (hphase : s.phase = .closed)
    (hcovered : ∀ d ∈ known, Approved s.db d.id) :
    Run (Guarded (Step textKeys "gw") (Timely textKeys known)) s [.register, .read, .send]
      { s with phase := .synced, stream := s.stream ++ (snapshot s.db).toList.map .fullResync } := by
  refine .cons ⟨.register hphase, fun d hd _ _ _ => .inl (hcovered d hd)⟩ ?_
  refine .cons ⟨.read {} .asListed rfl, trivial⟩ ?_
  exact .single ⟨.send rfl, fun _ _ d hd _ _ _ => .inl (hcovered d hd)⟩

theorem revoke_run (known : List Device) (phase : Phase) (stream : List CoreEvent)
    (agent : Agent String) :
    Run (Guarded (Step textKeys "gw") (Timely textKeys known))
      ⟨officeDb "k" [], [], phase, stream, agent⟩
      [.request (.revoke "laptop"), .notify (.peerRemove "k")]
      ⟨revokedDb, [], phase, if phase = .closed then stream
        else stream ++ eventsFor "gw" (notifyPeerRemove quietNotify revokedDb "k"), agent⟩ := by
  refine .cons ⟨.request rfl revoke_laptop, trivial⟩ (.single ⟨?_, trivial⟩)
  exact @Step.notify _ _ textKeys "gw" ⟨revokedDb, [.peerRemove "k"], phase, stream, agent⟩ [] []
    (.peerRemove "k") quietNotify quietNotify_reliable rfl

theorem revoked_not_peer_after_opening :
    ∃ labels t, Run (Guarded (Step textKeys "gw") (Timely textKeys reconnecting.db.devices))
        reconnecting labels t ∧
      t.phase = .synced ∧ t.inFlight = [] ∧ t.stream = [] ∧
      ¬ Approved t.db "laptop" ∧ ¬ HasPeer t.agent "k" := by
  have hcovered : ∀ d ∈ reconnecting.db.devices, Approved reconnecting.db d.id := by decide
  have run := ((opening_run reconnecting _ rfl hcovered).trans (revoke_run _ _ _ _)).trans
    (drain textKeys "gw" reconnecting.db.devices _)
  refine ⟨_, _, run, rfl, rfl, rfl, revokedDb_not_approved, ?_⟩
  intro hpeer
  exact revokedDb_not_approved (revoked_not_peer rfl rfl run rfl rfl rfl (laptop "k")
    (.head _) (by decide) "k" rfl hpeer)

/-- A revocation after the snapshot is undone by the snapshot; one broadcast before the registration
never reaches the gateway. -/
theorem revoked_device_stays_peer :
    Approved reconnecting.db "laptop" ∧
    (∃ labels t, Run (Step textKeys "gw") reconnecting (.register :: .read ::
        .request (.revoke "laptop") :: .notify (.peerRemove "k") :: .send :: labels) t ∧
      t.phase = .synced ∧ t.inFlight = [] ∧ t.stream = [] ∧
      ¬ Approved t.db "laptop" ∧ HasPeer t.agent "k") ∧
    (∃ labels t, Run (Step textKeys "gw") reconnecting
        (.request (.revoke "laptop") :: .notify (.peerRemove "k") :: .register :: labels) t ∧
      t.phase = .synced ∧ t.inFlight = [] ∧ t.stream = [] ∧
      ¬ Approved t.db "laptop" ∧ HasPeer t.agent "k") := by
  have unguarded : ∀ (s : State String) (l : Label) (t : State String),
      Guarded (Step textKeys "gw") (Timely textKeys []) s l t →
        Step textKeys "gw" s l t := fun _ _ _ h => h.1
  refine ⟨by decide, ?_, ?_⟩
  · obtain ⟨cfg, hcfg, hpeers⟩ := snapshot_approved
    have hopen : Run (Step textKeys "gw") reconnecting [.register, .read]
        { reconnecting with phase := .read (some cfg) } := by
      refine .cons (.register rfl) (.single ?_)
      rw [← hcfg]
      exact .read {} .asListed rfl
    have run := (hopen.trans ((revoke_run [] (.read (some cfg)) [] reconnecting.agent).mono
      unguarded)).trans (.cons (.send rfl) ((drain textKeys "gw" [] _).mono unguarded))
    refine ⟨_, _, run, rfl, rfl, rfl, revokedDb_not_approved, ?_⟩
    have hin : (⟨"k", ["10.0.0.2/32"], "", 25⟩ : Peer) ∈ resyncPeers cfg :=
      List.mem_append_left _ (by simp [hpeers])
    have hresync : ∀ a : Agent String, a.wg.isSome = true →
        HasPeer (handleEvents textKeys ((some cfg).toList.map .fullResync) a) "k" := by
      intro a managed
      exact (hasPeer_fullResync managed cfg "k").mpr (.inl ⟨_, hin, rfl⟩)
    dsimp only [State.upcoming]
    rw [handleEvents_append]
    apply hresync
    rfl
  · have run := ((revoke_run [] .closed [] reconnecting.agent).trans
      ((opening_run ⟨revokedDb, [], .closed, [], reconnecting.agent⟩ [] rfl (by simp)).trans
        (drain textKeys "gw" [] _))).mono unguarded
    refine ⟨_, _, run, rfl, rfl, rfl, revokedDb_not_approved, ?_⟩
    cases snapshot revokedDb with
    | none => exact reconnecting_peer
    | some cfg => exact (hasPeer_fullResync rfl cfg "k").mpr (.inr reconnecting_peer)

end Outpost.SyncRevocation
