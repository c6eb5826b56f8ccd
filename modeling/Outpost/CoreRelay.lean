import Outpost.Messages
import Outpost.StreamHub

/-!
# Several cores on one Redis channel

Each core has a stream hub, calls in progress (pick the local receivers, send to them one by
one, publish) and one subscriber, which sends each published message to every local stream.
The `Payload` says for which gateway it was computed, which the published event does not.
-/

namespace Outpost.CoreRelay

open Runs StreamHub

structure Stream where
  gateway : Uuid
  conn : Nat
deriving DecidableEq

inductive Payload where
  | peerUpdate (update : PeerUpdate)
  | firewallUpdate (gatewayID : Uuid) (config : FirewallConfig)
  | smartRouteUpdate (gatewayID : Uuid) (config : Option SmartRouteConfig)
deriving DecidableEq

namespace Payload

def event : Payload → CoreEvent
  | peerUpdate update => .peerUpdate update
  | firewallUpdate _ config => .firewallUpdate (some config)
  | smartRouteUpdate _ config => .smartRouteUpdate config

def target : Payload → Option Uuid
  | peerUpdate _ => none
  | firewallUpdate g _ => some g
  | smartRouteUpdate g _ => some g

def receivers (order : RangeOrder (Uuid × Stream)) (streams : Streams Stream) : Payload → List Stream
  | peerUpdate _ => snapshot order streams
  | firewallUpdate g _ => sendTo g streams
  | smartRouteUpdate g _ => sendTo g streams

end Payload

structure Message (Core : Type) where
  id : Nat
  publisher : Core
  payload : Payload
deriving DecidableEq

structure Delivery (Core : Type) where
  stream : Stream
  msg : Message Core
  relayed : Bool

structure Sending (Core : Type) where
  msg : Message Core
  pending : List Stream

structure State (Core : Type) where
  streams : Core → Streams Stream
  log : List (Message Core)
  calls : Nat → Option (Sending Core)
  channel : List (Message Core)
  taken : Core → Nat
  relay : Core → Option (Sending Core)
  sent : List (Delivery Core)

inductive Label (Core : Type) where
  | register (core : Core) (stream : Stream)
  | cleanup (core : Core) (gatewayID : Uuid)
  | call (core : Core) (payload : Payload) (order : RangeOrder (Uuid × Stream))
  | send (call : Nat)
  | publish (call : Nat)
  | take (core : Core) (order : RangeOrder (Uuid × Stream))
  | relaySend (core : Core)
  | relayDone (core : Core)

variable {Core : Type} [DecidableEq Core]

open Function

inductive Step : State Core → Label Core → State Core → Prop where
  | register (st : State Core) (c : Core) (s : Stream) :
      Step st (.register c s)
        { st with streams := update st.streams c (register s.gateway s (st.streams c)) }
  | cleanup (st : State Core) (c : Core) (g : Uuid) :
      Step st (.cleanup c g) { st with streams := update st.streams c (cleanup g (st.streams c)) }
  | call (st : State Core) (c : Core) (payload : Payload) (order : RangeOrder (Uuid × Stream)) :
      Step st (.call c payload order)
        { st with
          log := st.log ++ [⟨st.log.length, c, payload⟩]
          calls := update st.calls st.log.length
            (some ⟨⟨st.log.length, c, payload⟩, payload.receivers order (st.streams c)⟩) }
  | send (st : State Core) (i : Nat) (m : Message Core) (s : Stream) (rest : List Stream)
      (h : st.calls i = some ⟨m, s :: rest⟩) :
      Step st (.send i)
        { st with
          calls := update st.calls i (some ⟨m, rest⟩)
          sent := st.sent ++ [⟨s, m, false⟩] }
  | publish (st : State Core) (i : Nat) (m : Message Core) (h : st.calls i = some ⟨m, []⟩) :
      Step st (.publish i)
        { st with
          calls := update st.calls i none
          channel := st.channel ++ [m] }
  | take (st : State Core) (c : Core) (order : RangeOrder (Uuid × Stream)) (m : Message Core)
      (idle : st.relay c = none) (hm : st.channel[st.taken c]? = some m) :
      Step st (.take c order)
        { st with
          taken := update st.taken c (st.taken c + 1)
          relay := update st.relay c (some ⟨m, snapshot order (st.streams c)⟩) }
  | relaySend (st : State Core) (c : Core) (m : Message Core) (s : Stream) (rest : List Stream)
      (h : st.relay c = some ⟨m, s :: rest⟩) :
      Step st (.relaySend c)
        { st with
          relay := update st.relay c (some ⟨m, rest⟩)
          sent := st.sent ++ [⟨s, m, true⟩] }
  | relayDone (st : State Core) (c : Core) (m : Message Core) (h : st.relay c = some ⟨m, []⟩) :
      Step st (.relayDone c) { st with relay := update st.relay c none }

def Keyed (st : State Core) : Prop :=
  ∀ c g s, (st.streams c).lookup g = some s → s.gateway = g

structure Initial (st : State Core) : Prop where
  keyed : Keyed st
  log : st.log = []
  calls : ∀ i, st.calls i = none
  channel : st.channel = []
  taken : ∀ c, st.taken c = 0
  relay : ∀ c, st.relay c = none
  sent : st.sent = []

def received (g : Uuid) (st : State Core) : List (Message Core) :=
  (st.sent.filter fun d => d.stream.gateway = g).map Delivery.msg

def Addressed (m : Message Core) (s : Stream) : Prop :=
  ∀ g, m.payload.target = some g → s.gateway = g

structure TargetsKept (st : State Core) : Prop where
  keyed : Keyed st
  calls : ∀ i k, st.calls i = some k → ∀ s ∈ k.pending, Addressed k.msg s
  relay : ∀ c k, st.relay c = some k → ∀ s ∈ k.pending, Addressed k.msg s
  sent : ∀ d ∈ st.sent, Addressed d.msg d.stream

def NoBystander (st : State Core) : Label Core → Prop
  | .take c _ => ∀ m, st.channel[st.taken c]? = some m → ∀ g, m.payload.target = some g →
      ∀ g' s, (st.streams c).lookup g' = some s → g' = g
  | _ => True

variable {st : State Core}

theorem keyed_update (h : Keyed st) (c : Core) {streams : Streams Stream}
    (hnew : ∀ g s, streams.lookup g = some s → s.gateway = g) :
    Keyed { st with streams := update st.streams c streams } :=
  (forall_update_iff st.streams fun _ m =>
    ∀ g s, m.lookup g = some s → s.gateway = g).mpr ⟨hnew, fun c' _ => h c'⟩

theorem keyed_register (h : Keyed st) (c : Core) (s : Stream) :
    Keyed { st with streams := update st.streams c (register s.gateway s (st.streams c)) } := by
  apply keyed_update h
  intro g s' hl
  by_cases hg : s.gateway = g
  · subst hg
    have hself : (register s.gateway s (st.streams c)).lookup s.gateway = some s :=
      AList.lookup_insert _
    rw [Option.some.inj (hl.symm.trans hself)]
  · rw [lookup_register_other hg] at hl
    exact h c g s' hl

theorem keyed_cleanup (h : Keyed st) (c : Core) (g : Uuid) :
    Keyed { st with streams := update st.streams c (cleanup g (st.streams c)) } := by
  apply keyed_update h
  intro g' s' hl
  by_cases hg : g = g'
  · subst hg
    rw [lookup_cleanup_self] at hl
    cases hl
  · rw [lookup_cleanup_other hg] at hl
    exact h c g' s' hl

omit [DecidableEq Core] in
theorem receivers_addressed {streams : Streams Stream} (m : Message Core)
    (h : ∀ g s, streams.lookup g = some s → s.gateway = g) (order : RangeOrder (Uuid × Stream)) :
    ∀ s ∈ m.payload.receivers order streams, Addressed m s := by
  intro s hs g hg
  cases hp : m.payload with
  | peerUpdate u =>
    rw [hp] at hg
    cases hg
  | firewallUpdate g' config =>
    rw [hp] at hg hs
    obtain rfl : g' = g := Option.some.inj hg
    exact h g' s (mem_sendTo.mp hs)
  | smartRouteUpdate g' config =>
    rw [hp] at hg hs
    obtain rfl : g' = g := Option.some.inj hg
    exact h g' s (mem_sendTo.mp hs)

variable {ι α : Type} {i : ι} {P : ι → α → Prop} {f : ι → Option α}

theorem forall_update [DecidableEq ι] {v : Option α} (hf : ∀ j a, f j = some a → P j a)
    (hv : ∀ a, v = some a → P i a) :
    ∀ j a, update f i v j = some a → P j a :=
  (forall_update_iff f fun j b => ∀ a, b = some a → P j a).mpr ⟨hv, fun j _ => hf j⟩

theorem forall_update_none [DecidableEq ι] (hf : ∀ j a, f j = some a → P j a) :
    ∀ j a, update f i none j = some a → P j a :=
  forall_update hf fun _ h => nomatch h

theorem forall_update_some [DecidableEq ι] {b : α} (hf : ∀ j a, f j = some a → P j a) (hb : P i b) :
    ∀ j a, update f i (some b) j = some a → P j a :=
  forall_update hf fun _ h => Option.some.inj h ▸ hb

theorem targetsKept_step (st : State Core) (a : Label Core) (st' : State Core)
    (h : Guarded Step NoBystander st a st') (hi : TargetsKept st) : TargetsKept st' := by
  obtain ⟨hstep, hguard⟩ := h
  obtain ⟨keyed, calls, relay, sent⟩ := hi
  cases hstep with
  | register c s => exact ⟨keyed_register keyed c s, calls, relay, sent⟩
  | cleanup c g => exact ⟨keyed_cleanup keyed c g, calls, relay, sent⟩
  | call c payload order =>
    exact ⟨keyed, forall_update_some calls (receivers_addressed ⟨_, c, payload⟩ (keyed c) order),
      relay, sent⟩
  | send i m s rest hcall =>
    obtain ⟨hs, hrest⟩ := List.forall_mem_cons.mp (calls i _ hcall)
    exact ⟨keyed, forall_update_some calls hrest, relay,
      List.forall_mem_append.mpr ⟨sent, List.forall_mem_singleton.mpr hs⟩⟩
  | publish i m hcall => exact ⟨keyed, forall_update_none calls, relay, sent⟩
  | take c order m idle hm =>
    refine ⟨keyed, calls, forall_update_some relay ?_, sent⟩
    intro s hs g hg
    obtain ⟨g', hl⟩ := mem_snapshot.mp hs
    rw [keyed c g' s hl]
    exact hguard m hm g hg g' s hl
  | relaySend c m s rest hrelay =>
    obtain ⟨hs, hrest⟩ := List.forall_mem_cons.mp (relay c _ hrelay)
    exact ⟨keyed, calls, forall_update_some relay hrest,
      List.forall_mem_append.mpr ⟨sent, List.forall_mem_singleton.mpr hs⟩⟩
  | relayDone c m hrelay => exact ⟨keyed, calls, forall_update_none relay, sent⟩

omit [DecidableEq Core] in
theorem targetsKept_initial (h : Initial st) : TargetsKept st where
  keyed := h.keyed
  calls := fun i k hk => by rw [h.calls] at hk; cases hk
  relay := fun c k hk => by rw [h.relay] at hk; cases hk
  sent := fun d hd => by rw [h.sent] at hd; cases hd

def lastFirewall (g : Uuid) (st : State Core) : Option (Message Core) :=
  ((received g st).filter fun m => m.payload matches .firewallUpdate _ _).getLast?

/-- As long as no subscriber takes a config while another gateway is registered on its core, configs
reach only the gateway they were computed for. -/
theorem configs_reach_only_target {init st : State Core} {labels : List (Label Core)}
    (hinit : Initial init) (hrun : Run (Guarded Step NoBystander) init labels st) :
    (∀ d ∈ st.sent, ∀ g, d.msg.payload.target = some g → d.stream.gateway = g) ∧
    ∀ g m, lastFirewall g st = some m → m.payload.target = some g := by
  have hkept := hrun.invariant targetsKept_step (targetsKept_initial hinit)
  refine ⟨hkept.sent, ?_⟩
  intro g m hlast
  have hmem := List.mem_of_getLast? hlast
  obtain ⟨hrec, hkind⟩ := List.mem_filter.mp hmem
  obtain ⟨d, hd, rfl⟩ := List.mem_map.mp hrec
  obtain ⟨hsent, hgw⟩ := List.mem_filter.mp hd
  have hgw' : d.stream.gateway = g := by simpa using hgw
  cases hp : d.msg.payload with
  | firewallUpdate g' config =>
    have htarget : d.msg.payload.target = some g' := by rw [hp]; rfl
    have := hkept.sent d hsent g' htarget
    rw [← hgw', this]
    rfl
  | _ => simp [hp] at hkind

def twoCores : State Bool where
  streams := fun c => if c then (∅ : Streams Stream).insert "gw2" ⟨"gw2", 2⟩
    else (∅ : Streams Stream).insert "gw1" ⟨"gw1", 1⟩
  log := []
  calls := fun _ => none
  channel := []
  taken := fun _ => 0
  relay := fun _ => none
  sent := []

theorem twoCores_lookup {c : Bool} {g : Uuid} {s : Stream}
    (h : (twoCores.streams c).lookup g = some s) :
    (c = false ∧ g = "gw1" ∧ s = ⟨"gw1", 1⟩) ∨ (c = true ∧ g = "gw2" ∧ s = ⟨"gw2", 2⟩) := by
  cases c with
  | false =>
    change ((∅ : Streams Stream).insert "gw1" ⟨"gw1", 1⟩).lookup g = some s at h
    by_cases hg : g = "gw1"
    · subst hg
      exact .inl ⟨rfl, rfl, (Option.some.inj h).symm⟩
    · rw [AList.lookup_insert_ne hg] at h
      cases h
  | true =>
    change ((∅ : Streams Stream).insert "gw2" ⟨"gw2", 2⟩).lookup g = some s at h
    by_cases hg : g = "gw2"
    · subst hg
      exact .inr ⟨rfl, rfl, (Option.some.inj h).symm⟩
    · rw [AList.lookup_insert_ne hg] at h
      cases h

theorem twoCores_initial : Initial twoCores where
  keyed := by
    intro c g s h
    rcases twoCores_lookup h with ⟨_, rfl, rfl⟩ | ⟨_, rfl, rfl⟩
    · rfl
    · rfl
  log := rfl
  calls := fun _ => rfl
  channel := rfl
  taken := fun _ => rfl
  relay := fun _ => rfl
  sent := rfl

def openPolicy : FirewallConfig := ⟨[], true, ""⟩

theorem config_reaches_bystander :
    ∃ (labels : List (Label Bool)) (st : State Bool), Initial twoCores ∧
      Run Step twoCores labels st ∧
      ⟨⟨"gw2", 2⟩, ⟨0, false, .firewallUpdate "gw1" openPolicy⟩, true⟩ ∈ st.sent ∧
      lastFirewall "gw2" st = some ⟨0, false, .firewallUpdate "gw1" openPolicy⟩ := by
  refine ⟨[.call false (.firewallUpdate "gw1" openPolicy) .asListed, .send 0, .publish 0,
      .take true .asListed, .relaySend true], _, twoCores_initial,
    .cons (.call _ _ _ _) (.cons (.send _ 0 _ _ _ rfl) (.cons (.publish _ 0 _ rfl)
      (.cons (.take _ true _ _ rfl rfl) (.cons (.relaySend _ true _ _ _ rfl) (.nil _))))), ?_, ?_⟩
  · exact List.mem_append_right _ (.head _)
  · rfl

theorem own_core_config_kept :
    ∃ (labels : List (Label Bool)) (st : State Bool), Initial twoCores ∧
      Run (Guarded Step NoBystander) twoCores labels st ∧
      lastFirewall "gw1" st = some ⟨0, false, .firewallUpdate "gw1" openPolicy⟩ ∧
      ∀ d ∈ st.sent, ∀ g, d.msg.payload.target = some g → d.stream.gateway = g := by
  have hrun : ∃ st, Run (Guarded Step NoBystander) twoCores
      [.call false (.firewallUpdate "gw1" openPolicy) .asListed, .send 0, .publish 0,
        .take false .asListed, .relaySend false] st ∧
      lastFirewall "gw1" st = some ⟨0, false, .firewallUpdate "gw1" openPolicy⟩ := by
    refine ⟨_, .cons ⟨.call _ _ _ _, trivial⟩ (.cons ⟨.send _ 0 _ _ _ rfl, trivial⟩
      (.cons ⟨.publish _ 0 _ rfl, trivial⟩ (.cons ⟨.take _ false _ _ rfl rfl, ?_⟩
      (.cons ⟨.relaySend _ false _ _ _ rfl, trivial⟩ (.nil _))))), rfl⟩
    intro m hm g hg g' s hl
    obtain rfl : _ = m := Option.some.inj hm
    obtain rfl : "gw1" = g := Option.some.inj hg
    rcases twoCores_lookup (c := false) hl with ⟨_, rfl, _⟩ | ⟨hc, _⟩
    · rfl
    · cases hc
  obtain ⟨st, hrun, hlast⟩ := hrun
  exact ⟨_, st, twoCores_initial, hrun, hlast,
    (configs_reach_only_target twoCores_initial hrun).1⟩

end Outpost.CoreRelay
