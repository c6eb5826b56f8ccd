import Outpost.CoreRelay

/-!
# How often a broadcast arrives

A gateway stays connected to one core. The relayed messages are the channel, in order and without
gaps; the direct ones are the broadcasts of its own core, which therefore arrive twice.
-/

namespace Outpost.CoreRelay

open Runs StreamHub
open Function

variable {Core : Type}

structure Connected (c : Core) (g : Uuid) (s : Stream) (st : State Core) : Prop where
  keyed : Keyed st
  here : (st.streams c).lookup g = some s
  elsewhere : ∀ c', c' ≠ c → (st.streams c').lookup g = none

def Label.Touches (g : Uuid) : Label Core → Prop
  | .register _ s => s.gateway = g
  | .cleanup _ g' => g' = g
  | _ => False

def forGateway (g : Uuid) (ss : List Stream) : List Stream := ss.filter fun s => s.gateway = g

theorem snapshot_forGateway {streams : Streams Stream}
    (keyed : ∀ g s, streams.lookup g = some s → s.gateway = g)
    (order : RangeOrder (Uuid × Stream)) (g : Uuid) :
    forGateway g (snapshot order streams) = (streams.lookup g).toList := by
  have hsame : (order.visit streams.pairs).filter (fun e => e.2.gateway = g) =
      (order.visit streams.pairs).filter fun e => e.1 = g := by
    apply List.filter_congr
    intro e he
    rw [RangeOrder.mem_visit] at he
    rw [keyed e.1 e.2 (GoMap.mem_pairs.mp he)]
  unfold forGateway snapshot
  rw [List.filter_map]
  change ((order.visit streams.pairs).filter (fun e => e.2.gateway = g)).map Prod.snd = _
  rw [hsame, GoMap.visit_filter_key]
  simp

structure Logged (st : State Core) : Prop where
  ids : ∀ (i : Nat) (m : Message Core), st.log[i]? = some m → m.id = i
  inProgress : ∀ i k, st.calls i = some k → st.log[i]? = some k.msg
  published : ∀ m ∈ st.channel, m ∈ st.log ∧ st.calls m.id = none
  nodup : st.channel.Nodup
  accounted : ∀ m ∈ st.log, m ∈ st.channel ∨ ∃ ss, st.calls m.id = some ⟨m, ss⟩
  taken_le : ∀ c, st.taken c ≤ st.channel.length

variable {st : State Core} {i : Nat} {k : Sending Core} {m : Message Core}

theorem Logged.lt_length (h : Logged st) (hk : st.calls i = some k) : i < st.log.length := by
  exact (List.getElem?_eq_some_iff.mp (h.inProgress i k hk)).1

theorem Logged.id_lt (h : Logged st) (hm : m ∈ st.log) :
    m.id < st.log.length ∧ st.log[m.id]? = some m := by
  obtain ⟨i, hi, rfl⟩ := List.mem_iff_getElem.mp hm
  have hget : st.log[i]? = some st.log[i] := List.getElem?_eq_getElem hi
  rw [h.ids i _ hget]
  exact ⟨hi, hget⟩

theorem Logged.eq_of_id (h : Logged st) {m' : Message Core} (hm : m ∈ st.log) (hm' : m' ∈ st.log)
    (hid : m.id = m'.id) : m = m' := by
  have h₁ := (h.id_lt hm).2
  have h₂ := (h.id_lt hm').2
  rw [hid] at h₁
  exact Option.some.inj (h₁.symm.trans h₂)

theorem Logged.mem_log (h : Logged st) (hk : st.calls i = some k) :
    k.msg ∈ st.log ∧ k.msg.id = i := by
  have hlog := h.inProgress i k hk
  exact ⟨List.mem_of_getElem? hlog, h.ids i _ hlog⟩

theorem logged_initial (h : Initial st) : Logged st where
  ids := fun i m hm => by simp [h.log] at hm
  inProgress := fun i k hk => by rw [h.calls] at hk; cases hk
  published := fun m hm => by simp [h.channel] at hm
  nodup := by rw [h.channel]; exact List.nodup_nil
  accounted := fun m hm => by simp [h.log] at hm
  taken_le := fun c => by rw [h.taken]; exact Nat.zero_le _

theorem logged_call (h : Logged st) (c : Core) (payload : Payload) (ss : List Stream) :
    Logged { st with
      log := st.log ++ [⟨st.log.length, c, payload⟩]
      calls := update st.calls st.log.length (some ⟨⟨st.log.length, c, payload⟩, ss⟩) } := by
  -- the new number is larger than every number in use
  have hfresh : ∀ m ∈ st.log, m.id ≠ st.log.length := by
    intro m hm
    have := (h.id_lt hm).1
    omega
  refine ⟨?_, ?_, ?_, h.nodup, ?_, h.taken_le⟩
  · intro i m hm
    rw [List.getElem?_append] at hm
    split at hm
    · exact h.ids i m hm
    · obtain ⟨hi, rfl⟩ := List.getElem?_eq_some_iff.mp hm
      simp at hi ⊢
      omega
  · apply forall_update_some
    · intro i k hk
      rw [List.getElem?_append_left (h.lt_length hk)]
      exact h.inProgress i k hk
    · exact List.getElem?_concat_length
  · intro m hm
    obtain ⟨hlog, hdone⟩ := h.published m hm
    exact ⟨List.mem_append_left _ hlog, (update_of_ne (hfresh m hlog) ..).trans hdone⟩
  · refine List.forall_mem_append.mpr ⟨?_, List.forall_mem_singleton.mpr (.inr ⟨ss, ?_⟩)⟩
    · intro m hm
      refine (h.accounted m hm).imp_right fun ⟨ss', hss⟩ => ⟨ss', ?_⟩
      exact (update_of_ne (hfresh m hm) ..).trans hss
    · exact update_self ..

theorem logged_send (h : Logged st) {s : Stream} {rest : List Stream}
    (hcall : st.calls i = some ⟨m, s :: rest⟩) (sent : List (Delivery Core)) :
    Logged { st with calls := update st.calls i (some ⟨m, rest⟩), sent := sent } := by
  obtain ⟨hm, hid⟩ := h.mem_log hcall
  refine ⟨h.ids, forall_update_some h.inProgress (h.inProgress i ⟨m, s :: rest⟩ hcall), ?_, h.nodup, ?_,
    h.taken_le⟩
  · intro m' hm'
    obtain ⟨hlog, hdone⟩ := h.published m' hm'
    refine ⟨hlog, ?_⟩
    have hne : m'.id ≠ i := by
      intro heq
      rw [heq, hcall] at hdone
      cases hdone
    simp only [update_of_ne hne]
    exact hdone
  · intro m' hm'
    rcases h.accounted m' hm' with hch | ⟨ss, hss⟩
    · exact .inl hch
    · refine .inr ?_
      by_cases heq : m'.id = i
      · obtain rfl := h.eq_of_id hm' hm (heq.trans hid.symm)
        exact ⟨rest, by simp [heq]⟩
      · exact ⟨ss, by simp only [update_of_ne heq]; exact hss⟩

theorem logged_publish (h : Logged st) (hcall : st.calls i = some ⟨m, []⟩) :
    Logged { st with calls := update st.calls i none, channel := st.channel ++ [m] } := by
  obtain ⟨hm, hid⟩ : m ∈ st.log ∧ m.id = i := h.mem_log hcall
  have hnew : m ∉ st.channel := by
    intro hin
    have hdone := (h.published m hin).2
    rw [hid, hcall] at hdone
    cases hdone
  refine ⟨h.ids, forall_update_none h.inProgress, ?_, ?_, ?_, ?_⟩
  · refine List.forall_mem_append.mpr ⟨?_, List.forall_mem_singleton.mpr ⟨hm, ?_⟩⟩
    · intro m' hm'
      obtain ⟨hlog, hdone⟩ := h.published m' hm'
      refine ⟨hlog, ?_⟩
      by_cases heq : m'.id = i
      · simp [heq]
      · simp only [update_of_ne heq]
        exact hdone
    · simp [hid]
  · exact List.concat_eq_append ▸ h.nodup.concat hnew
  · intro m' hm'
    by_cases heq : m'.id = i
    · obtain rfl : m' = m := h.eq_of_id hm' hm (heq.trans hid.symm)
      exact .inl (List.mem_append_right _ (.head _))
    · rcases h.accounted m' hm' with hch | ⟨ss, hss⟩
      · exact .inl (List.mem_append_left _ hch)
      · exact .inr ⟨ss, by simp only [update_of_ne heq]; exact hss⟩
  · intro c
    have := h.taken_le c
    simp only [List.length_append]
    omega

section Steps

variable [DecidableEq Core]
variable {c c' : Core} {g : Uuid} {s s' : Stream} {st st' : State Core} {m : Message Core}
  {rest : List Stream} {labels : List (Label Core)}

theorem Connected.update_streams {streams : Streams Stream} (hc : Connected c g s st)
    (keyed : Keyed { st with streams := update st.streams c' streams })
    (hsame : streams.lookup g = (st.streams c').lookup g) :
    Connected c g s { st with streams := update st.streams c' streams } := by
  have hother : ∀ c'', (update st.streams c' streams c'').lookup g = (st.streams c'').lookup g := by
    intro c''
    by_cases heq : c'' = c'
    · subst heq
      rw [update_self, hsame]
    · rw [update_of_ne heq]
  refine ⟨keyed, (hother c).trans hc.here, ?_⟩
  intro c'' hne
  exact (hother c'').trans (hc.elsewhere c'' hne)

theorem connected_step (st : State Core) (a : Label Core) (st' : State Core) (h : Step st a st')
    (hstay : ¬ a.Touches g) (hc : Connected c g s st) : Connected c g s st' := by
  cases h with
  | register c' s' =>
    exact hc.update_streams (keyed_register hc.keyed c' s') (lookup_register_other hstay _ _)
  | cleanup c' g' =>
    exact hc.update_streams (keyed_cleanup hc.keyed c' g') (lookup_cleanup_other hstay _)
  | _ => exact ⟨hc.keyed, hc.here, hc.elsewhere⟩

theorem logged_step (st : State Core) (a : Label Core) (st' : State Core) (h : Step st a st')
    (hl : Logged st) : Logged st' := by
  cases h with
  | call c payload order => exact logged_call hl c payload _
  | send i m s rest hcall => exact logged_send hl hcall _
  | publish i m hcall => exact logged_publish hl hcall
  | take c order m idle hm =>
    refine ⟨hl.ids, hl.inProgress, hl.published, hl.nodup, hl.accounted, ?_⟩
    exact (forall_update_iff st.taken fun _ n => n ≤ st.channel.length).mpr
      ⟨(List.getElem?_eq_some_iff.mp hm).1, fun c' _ => hl.taken_le c'⟩
  | _ => exact ⟨hl.ids, hl.inProgress, hl.published, hl.nodup, hl.accounted, hl.taken_le⟩

def directTo (g : Uuid) (m : Message Core) (st : State Core) : Nat :=
  st.sent.countP fun d => !d.relayed && d.msg = m && d.stream.gateway = g

def directPending (g : Uuid) (m : Message Core) (st : State Core) : Nat :=
  match st.calls m.id with
  | none => 0
  | some k => (forGateway g k.pending).length

/-- The calls that send to a gateway on core `c`. -/
def Local (c : Core) (g : Uuid) (m : Message Core) : Prop :=
  m.publisher = c ∧ (m.payload.target = none ∨ m.payload.target = some g)

instance (c : Core) (g : Uuid) (m : Message Core) : Decidable (Local c g m) := by
  unfold Local
  infer_instance

def DirectBalance (c : Core) (g : Uuid) (st : State Core) : Prop :=
  ∀ m ∈ st.log, directTo g m st + directPending g m st = if Local c g m then 1 else 0

theorem receivers_forGateway (hc : Connected c g s st) (m : Message Core)
    (order : RangeOrder (Uuid × Stream)) :
    (forGateway g (m.payload.receivers order (st.streams m.publisher))).length =
      if Local c g m then 1 else 0 := by
  have hgw : s.gateway = g := hc.keyed c g s hc.here
  have hlookup : (st.streams m.publisher).lookup g = if m.publisher = c then some s else none := by
    split
    · rename_i h
      rw [h, hc.here]
    · rename_i h
      exact hc.elsewhere _ h
  have hsend : ∀ g', (forGateway g (sendTo g' (st.streams m.publisher))).length =
      if m.publisher = c ∧ g' = g then 1 else 0 := by
    intro g'
    by_cases hg : g' = g
    · subst hg
      rw [sendTo, hlookup]
      by_cases hp : m.publisher = c <;> simp [hp, forGateway, hgw]
    · rw [if_neg (fun h => hg h.2)]
      cases hl : (st.streams m.publisher).lookup g' with
      | none => simp [sendTo, hl, forGateway]
      | some s' =>
        have := hc.keyed _ _ _ hl
        simp [sendTo, hl, forGateway, this, hg]
  cases hp : m.payload with
  | peerUpdate u =>
    simp only [Payload.receivers, snapshot_forGateway (hc.keyed m.publisher), hlookup, Local, hp,
      Payload.target]
    by_cases h : m.publisher = c <;> simp [h]
  | firewallUpdate g' config =>
    simp only [Payload.receivers, hsend, Local, hp, Payload.target]
    simp
  | smartRouteUpdate g' config =>
    simp only [Payload.receivers, hsend, Local, hp, Payload.target]
    simp

structure SentLogged (st : State Core) : Prop where
  sent : ∀ d ∈ st.sent, d.msg ∈ st.log
  relay : ∀ c k, st.relay c = some k → k.msg ∈ st.log

omit [DecidableEq Core] in
theorem sentLogged_initial (h : Initial st) : SentLogged st where
  sent := fun d hd => by rw [h.sent] at hd; cases hd
  relay := fun c k hk => by rw [h.relay] at hk; cases hk

theorem sentLogged_step (st : State Core) (a : Label Core) (st' : State Core) (h : Step st a st')
    (hl : Logged st) (hs : SentLogged st) : SentLogged st' := by
  obtain ⟨sent, relay⟩ := hs
  cases h with
  | call c payload order =>
    exact ⟨fun d hd => List.mem_append_left _ (sent d hd),
      fun c k hk => List.mem_append_left _ (relay c k hk)⟩
  | send i m s rest hcall =>
    have hm : m ∈ st.log := (hl.mem_log hcall).1
    exact ⟨List.forall_mem_append.mpr ⟨sent, List.forall_mem_singleton.mpr hm⟩, relay⟩
  | take c order m idle hm =>
    exact ⟨sent, forall_update_some relay (hl.published m (List.mem_of_getElem? hm)).1⟩
  | relaySend c m s rest hrelay =>
    have hm : m ∈ st.log := relay c _ hrelay
    exact ⟨List.forall_mem_append.mpr ⟨sent, List.forall_mem_singleton.mpr hm⟩,
      forall_update_some relay hm⟩
  | relayDone c m hrelay => exact ⟨sent, forall_update_none relay⟩
  | _ => exact ⟨sent, relay⟩

theorem directBalance_call (hc : Connected c g s st) (hl : Logged st) (hs : SentLogged st)
    (hb : DirectBalance c g st) (c' : Core) (payload : Payload) (order : RangeOrder (Uuid × Stream))
    :
    DirectBalance c g { st with
      log := st.log ++ [⟨st.log.length, c', payload⟩]
      calls := update st.calls st.log.length
        (some ⟨⟨st.log.length, c', payload⟩, payload.receivers order (st.streams c')⟩) } := by
  intro m hm
  rcases List.mem_append.mp hm with hm | hm
  · have hne : m.id ≠ st.log.length := by
      have := (hl.id_lt hm).1
      omega
    have hold := hb m hm
    simp only [directPending, update_of_ne hne] at hold ⊢
    exact hold
  · obtain rfl := List.mem_singleton.mp hm
    -- nothing of the new call has been sent before
    have hzero : st.sent.countP (fun d => !d.relayed &&
        d.msg = (⟨st.log.length, c', payload⟩ : Message Core) && d.stream.gateway = g) = 0 := by
      apply List.countP_eq_zero.mpr
      intro d hd hhit
      simp only [Bool.and_eq_true, decide_eq_true_eq] at hhit
      have hlt := (hl.id_lt (hs.sent d hd)).1
      rw [hhit.1.2] at hlt
      exact Nat.lt_irrefl _ hlt
    have hrecv := receivers_forGateway hc ⟨st.log.length, c', payload⟩ order
    simp only [directTo, directPending, update_self, hzero, Nat.zero_add]
    exact hrecv

theorem directBalance_send (hl : Logged st) (hb : DirectBalance c g st) {i : Nat}
    (hcall : st.calls i = some ⟨m, s' :: rest⟩) :
    DirectBalance c g { st with
      calls := update st.calls i (some ⟨m, rest⟩)
      sent := st.sent ++ [⟨s', m, false⟩] } := by
  obtain ⟨hm, hid⟩ : m ∈ st.log ∧ m.id = i := hl.mem_log hcall
  intro m' hm'
  have hold := hb m' hm'
  by_cases heq : m'.id = i
  · obtain rfl : m' = m := hl.eq_of_id hm' hm (heq.trans hid.symm)
    simp only [directTo, directPending, heq, hcall, forGateway] at hold ⊢
    rw [← hold]
    by_cases hg : s'.gateway = g
    · simp [hg]
      omega
    · simp [hg]
  · have hne : m ≠ m' := fun h => heq (h ▸ hid)
    simp only [directTo, directPending, update_of_ne heq] at hold ⊢
    simp [hne, hold]

theorem directBalance_step (st : State Core) (a : Label Core) (st' : State Core) (h : Step st a st')
    (hc : Connected c g s st) (hl : Logged st) (hs : SentLogged st) (hb : DirectBalance c g st) :
    DirectBalance c g st' := by
  cases h with
  | register => exact hb
  | cleanup => exact hb
  | take => exact hb
  | relayDone => exact hb
  | call c' payload order => exact directBalance_call hc hl hs hb c' payload order
  | send i m s' rest hcall => exact directBalance_send hl hb hcall
  | publish i m hcall =>
    intro m' hm'
    have hold := hb m' hm'
    by_cases heq : m'.id = i
    · simp only [directPending, heq, hcall, update_self] at hold ⊢
      exact hold
    · simp only [directPending, update_of_ne heq] at hold ⊢
      exact hold
  | relaySend c' m s' rest hrelay =>
    intro m' hm'
    have hold := hb m' hm'
    simp only [directTo, directPending] at hold ⊢
    simpa using hold

def relayedTo (g : Uuid) (st : State Core) : List (Message Core) :=
  (st.sent.filter fun d => d.relayed && d.stream.gateway = g).map Delivery.msg

def relayPending (c : Core) (g : Uuid) (st : State Core) : List (Message Core) :=
  match st.relay c with
  | none => []
  | some k => (forGateway g k.pending).map fun _ => k.msg

structure RelayBalance (c : Core) (g : Uuid) (st : State Core) : Prop where
  here : relayedTo g st ++ relayPending c g st = st.channel.take (st.taken c)
  elsewhere : ∀ c', c' ≠ c → relayPending c' g st = []

omit [DecidableEq Core] in
theorem relayedTo_append (g : Uuid) (st : State Core) (d : Delivery Core) :
    relayedTo g { st with sent := st.sent ++ [d] } =
      relayedTo g st ++ (if d.relayed && d.stream.gateway = g then [d.msg] else []) := by
  unfold relayedTo
  rw [List.filter_append, List.map_append, List.filter_singleton]
  by_cases h : (d.relayed && decide (d.stream.gateway = g)) = true
  · simp [h]
  · simp [h]

theorem relayBalance_take (hc : Connected c g s st) (hb : RelayBalance c g st)
    (order : RangeOrder (Uuid × Stream)) (idle : st.relay c' = none)
    (hm : st.channel[st.taken c']? = some m) :
    RelayBalance c g { st with
      taken := update st.taken c' (st.taken c' + 1)
      relay := update st.relay c' (some ⟨m, snapshot order (st.streams c')⟩) } := by
  have hsnap := snapshot_forGateway (hc.keyed c') order g
  obtain ⟨here, elsewhere⟩ := hb
  refine ⟨?_, ?_⟩
  · by_cases h : c = c'
    · subst h
      rw [hc.here] at hsnap
      simp only [relayPending, idle, List.append_nil] at here
      simp only [relayPending, update_self, hsnap]
      change relayedTo g st ++ [m] = _
      rw [here, List.take_add_one, hm]
      rfl
    · simp only [relayPending, update_of_ne h] at here ⊢
      exact here
  · intro c'' hne
    by_cases h : c'' = c'
    · subst h
      rw [hc.elsewhere c'' hne] at hsnap
      simp [relayPending, hsnap]
    · have hold := elsewhere c'' hne
      simp only [relayPending, update_of_ne h] at hold ⊢
      exact hold

theorem relayBalance_relaySend (hb : RelayBalance c g st)
    (hrelay : st.relay c' = some ⟨m, s' :: rest⟩) :
    RelayBalance c g { st with
      relay := update st.relay c' (some ⟨m, rest⟩)
      sent := st.sent ++ [⟨s', m, true⟩] } := by
  obtain ⟨here, elsewhere⟩ := hb
  have hsent := relayedTo_append g st ⟨s', m, true⟩
  have hpend : relayPending c' g st = (if s'.gateway = g then [m] else []) ++
      (forGateway g rest).map fun _ => m := by
    simp only [relayPending, hrelay, forGateway]
    by_cases hg : s'.gateway = g <;> simp [hg]
  refine ⟨?_, ?_⟩
  · by_cases h : c = c'
    · subst h
      rw [hpend] at here
      simp only [relayPending]
      rw [← here]
      change relayedTo g { st with sent := st.sent ++ [⟨s', m, true⟩] } ++ _ = _
      rw [hsent]
      by_cases hg : s'.gateway = g <;> simp [hg]
    · -- the other core has nothing left for the gateway
      have hnone := elsewhere c' (fun heq => h heq.symm)
      rw [hpend] at hnone
      have hg : s'.gateway ≠ g := by
        intro hg
        simp [hg] at hnone
      simp only [relayPending, update_of_ne h] at here ⊢
      rw [← here]
      change relayedTo g { st with sent := st.sent ++ [⟨s', m, true⟩] } ++ _ = _
      rw [hsent]
      simp [hg]
  · intro c'' hne
    have hold := elsewhere c'' hne
    by_cases h : c'' = c'
    · subst h
      rw [hpend] at hold
      simp only [relayPending, update_self]
      exact (List.append_eq_nil_iff.mp hold).2
    · simp only [relayPending, update_of_ne h] at hold ⊢
      exact hold

theorem relayBalance_step (st : State Core) (a : Label Core) (st' : State Core) (h : Step st a st')
    (hc : Connected c g s st) (hl : Logged st) (hb : RelayBalance c g st) :
    RelayBalance c g st' := by
  cases h with
  | register => exact ⟨hb.here, hb.elsewhere⟩
  | cleanup => exact ⟨hb.here, hb.elsewhere⟩
  | call => exact ⟨hb.here, hb.elsewhere⟩
  | send i m s' rest hcall =>
    refine ⟨?_, hb.elsewhere⟩
    have hsent := relayedTo_append g st ⟨s', m, false⟩
    rw [← hb.here]
    change relayedTo g { st with sent := st.sent ++ [⟨s', m, false⟩] } ++ relayPending c g st = _
    rw [hsent]
    simp
  | publish i m hcall =>
    refine ⟨?_, hb.elsewhere⟩
    simp only [List.take_append_of_le_length (hl.taken_le c)]
    exact hb.here
  | take c' order m idle hm => exact relayBalance_take hc hb order idle hm
  | relaySend c' m s' rest hrelay => exact relayBalance_relaySend hb hrelay
  | relayDone c' m hrelay =>
    have hempty : ∀ c'', relayPending c'' g { st with relay := update st.relay c' none } =
        relayPending c'' g st := by
      intro c''
      by_cases h : c'' = c'
      · subst h
        simp [relayPending, hrelay, forGateway]
      · simp only [relayPending, update_of_ne h]
    refine ⟨?_, ?_⟩
    · rw [hempty]
      exact hb.here
    · intro c'' hne
      rw [hempty]
      exact hb.elsewhere c'' hne

structure Account (c : Core) (g : Uuid) (s : Stream) (st : State Core) : Prop where
  connected : Connected c g s st
  logged : Logged st
  sentLogged : SentLogged st
  direct : DirectBalance c g st
  relay : RelayBalance c g st

theorem account_initial (h : Initial st) (here : (st.streams c).lookup g = some s)
    (elsewhere : ∀ c', c' ≠ c → (st.streams c').lookup g = none) : Account c g s st where
  connected := ⟨h.keyed, here, elsewhere⟩
  logged := logged_initial h
  sentLogged := sentLogged_initial h
  direct := fun m hm => by simp [h.log] at hm
  relay := by
    refine ⟨?_, ?_⟩
    · simp [relayedTo, relayPending, h.sent, h.relay, h.channel]
    · intro c' _
      simp [relayPending, h.relay]

theorem account_step (st : State Core) (a : Label Core) (st' : State Core) (h : Step st a st')
    (hstay : ¬ a.Touches g) (ha : Account c g s st) :
    Account c g s st' where
  connected := connected_step st a st' h hstay ha.connected
  logged := logged_step st a st' h ha.logged
  sentLogged := sentLogged_step st a st' h ha.logged ha.sentLogged
  direct := directBalance_step st a st' h ha.connected ha.logged ha.sentLogged ha.direct
  relay := relayBalance_step st a st' h ha.connected ha.logged ha.relay

theorem account_run (h : Run Step st labels st') (stays : ∀ a ∈ labels, ¬ a.Touches g)
    (ha : Account c g s st) : Account c g s st' :=
  h.invariant_of_labels account_step stays ha

def delivered (g : Uuid) (m : Message Core) (st : State Core) : Nat :=
  st.sent.countP fun d => d.msg = m && d.stream.gateway = g

theorem delivered_eq (g : Uuid) (m : Message Core) (st : State Core) :
    delivered g m st = directTo g m st + (relayedTo g st).count m := by
  unfold delivered directTo relayedTo
  induction st.sent with
  | nil => rfl
  | cons d sent ih =>
    rw [List.countP_cons, List.countP_cons, ih, List.filter_cons]
    by_cases hg : d.stream.gateway = g
    · cases hr : d.relayed with
      | false =>
        by_cases hm : d.msg = m
        · simp [hm]
          omega
        · simp [hm]
      | true =>
        simp only [hg]
        by_cases hm : d.msg = m
        · simp [hm]
          omega
        · simp [hm]
    · simp [hg]

structure Settled (c : Core) (m : Message Core) (st : State Core) : Prop where
  call : st.calls m.id = none
  relay : st.relay c = none
  taken : st.taken c = st.channel.length

theorem delivered_settled (ha : Account c g s st) (hm : m ∈ st.log) (hs : Settled c m st) :
    delivered g m st = (if Local c g m then 1 else 0) + 1 := by
  have hpub : m ∈ st.channel := by
    rcases ha.logged.accounted m hm with h | ⟨ss, h⟩
    · exact h
    · rw [hs.call] at h
      cases h
  have hdirect := ha.direct m hm
  have hrelay := ha.relay.here
  simp only [directPending, hs.call, Nat.add_zero] at hdirect
  simp only [relayPending, hs.relay, List.append_nil, hs.taken, List.take_length] at hrelay
  rw [delivered_eq, hdirect, hrelay, List.count_eq_one_of_mem ha.logged.nodup hpub]

theorem directTo_remote (ha : Account c g s st) (hm : m ∈ st.log) (hremote : m.publisher ≠ c) :
    directTo g m st = 0 := by
  have hdirect := ha.direct m hm
  rw [if_neg (fun h => hremote h.1)] at hdirect
  omega

theorem relayedTo_sublist (ha : Account c g s st) : (relayedTo g st).Sublist st.channel := by
  have h : (relayedTo g st).Sublist (st.channel.take (st.taken c)) := by
    rw [← ha.relay.here]
    exact List.sublist_append_left _ _
  exact h.trans (List.take_sublist _ _)

theorem delivered_remote_le (ha : Account c g s st) (hm : m ∈ st.log) (hremote : m.publisher ≠ c) :
    delivered g m st ≤ 1 := by
  have hcount := (relayedTo_sublist ha).count_le m
  have hnodup := List.nodup_iff_count_le_one.mp ha.logged.nodup m
  rw [delivered_eq, directTo_remote ha hm hremote]
  omega

theorem received_remote (ha : Account c g s st) :
    (received g st).filter (fun m => m.publisher ≠ c) =
      (relayedTo g st).filter fun m => m.publisher ≠ c := by
  unfold received relayedTo
  rw [List.filter_map, List.filter_map, List.filter_filter, List.filter_filter]
  congr 1
  apply List.filter_congr
  intro d hd
  by_cases hg : d.stream.gateway = g
  · by_cases hp : d.msg.publisher = c
    · simp [hp]
    · have hzero := directTo_remote ha (ha.sentLogged.sent d hd) hp
      have hrel : d.relayed = true := by
        by_contra hr
        have := List.countP_eq_zero.mp hzero d hd
        simp [hr, hg] at this
      simp [hrel]
  · simp [hg]

theorem channel_grows (h : Run Step st labels st') : st.channel.IsPrefix st'.channel := by
  apply h.invariant (I := fun t => st.channel.IsPrefix t.channel) _ List.prefix_rfl
  intro t a t' hstep ht
  cases hstep with
  | publish i m hcall => exact ht.trans (List.prefix_append _ _)
  | _ => exact ht

omit [DecidableEq Core] in
theorem first_of_pair_mem {xs ys : List (Message Core)} {a b : Message Core}
    (hnodup : (xs ++ ys).Nodup) (hpair : [a, b].Sublist (xs ++ ys)) (hb : b ∈ xs) : a ∈ xs := by
  obtain ⟨l₁, l₂, heq, h₁, h₂⟩ := List.sublist_append_iff.mp hpair
  cases l₁ with
  | nil =>
    have hb' : b ∈ ys := h₂.subset (by rw [List.nil_append] at heq; rw [← heq]; simp)
    exact absurd rfl ((List.nodup_append.mp hnodup).2.2 b hb b hb')
  | cons x l₁ =>
    obtain rfl : a = x := (List.cons.inj heq).1
    exact h₁.subset List.mem_cons_self

def Label.Drains : Label Core → Prop
  | .register _ _ => False
  | .cleanup _ _ => False
  | .call _ _ _ => False
  | _ => True

def Drain (st st' : State Core) : Prop :=
  ∃ labels, Run (Guarded Step fun _ a => a.Drains) st labels st'

theorem Drain.refl (st : State Core) : Drain st st := ⟨[], .nil st⟩

theorem Drain.trans (h₁ : Drain st st') {st'' : State Core} (h₂ : Drain st' st'') :
    Drain st st'' := by
  obtain ⟨labels₁, hrun₁⟩ := h₁
  obtain ⟨labels₂, hrun₂⟩ := h₂
  exact ⟨labels₁ ++ labels₂, hrun₁.trans hrun₂⟩

theorem Drain.head {a : Label Core} (hstep : Step st a st') (ha : a.Drains) {st'' : State Core}
    (h : Drain st' st'') : Drain st st'' := by
  obtain ⟨labels, hrun⟩ := h
  exact ⟨a :: labels, .cons ⟨hstep, ha⟩ hrun⟩

theorem finish_call (i : Nat) (m : Message Core) (ss : List Stream) (st : State Core)
    (h : st.calls i = some ⟨m, ss⟩) : ∃ st', Drain st st' ∧ st'.calls i = none := by
  induction ss generalizing st with
  | nil => exact ⟨_, .head (.publish st i m h) trivial (.refl _), update_self ..⟩
  | cons s rest ih =>
    obtain ⟨st', hdrain, hdone⟩ := ih
      { st with calls := update st.calls i (some ⟨m, rest⟩), sent := st.sent ++ [⟨s, m, false⟩] }
      (update_self ..)
    exact ⟨st', .head (.send st i m s rest h) trivial hdrain, hdone⟩

theorem finish_relay (c : Core) (m : Message Core) (ss : List Stream) (st : State Core)
    (h : st.relay c = some ⟨m, ss⟩) :
    ∃ st', Drain st st' ∧ st'.relay c = none ∧ st'.calls = st.calls ∧
      st'.channel = st.channel ∧ st'.taken = st.taken := by
  induction ss generalizing st with
  | nil =>
    exact ⟨_, .head (.relayDone st c m h) trivial (.refl _), update_self .., rfl, rfl, rfl⟩
  | cons s rest ih =>
    obtain ⟨st', hdrain, hdone⟩ := ih
      { st with relay := update st.relay c (some ⟨m, rest⟩), sent := st.sent ++ [⟨s, m, true⟩] }
      (update_self ..)
    exact ⟨st', .head (.relaySend st c m s rest h) trivial hdrain, hdone⟩

theorem idle_relay (c : Core) (st : State Core) :
    ∃ st', Drain st st' ∧ st'.relay c = none ∧ st'.calls = st.calls ∧
      st'.channel = st.channel ∧ st'.taken = st.taken := by
  cases h : st.relay c with
  | none => exact ⟨st, .refl st, h, rfl, rfl, rfl⟩
  | some k => exact finish_relay c k.msg k.pending st h

theorem drain_channel (c : Core) (n : Nat) (st : State Core) (idle : st.relay c = none)
    (hn : st.taken c + n = st.channel.length) :
    ∃ st', Drain st st' ∧ st'.relay c = none ∧ st'.calls = st.calls ∧
      st'.taken c = st'.channel.length := by
  induction n generalizing st with
  | zero => exact ⟨st, .refl st, idle, rfl, hn⟩
  | succ n ih =>
    have hlt : st.taken c < st.channel.length := by omega
    have hm : st.channel[st.taken c]? = some st.channel[st.taken c] := List.getElem?_eq_getElem hlt
    obtain ⟨st₁, hdrain₁, hidle₁, hcalls₁, hchannel₁, htaken₁⟩ := idle_relay c
      { st with
        taken := update st.taken c (st.taken c + 1)
        relay := update st.relay c
          (some ⟨st.channel[st.taken c], snapshot .asListed (st.streams c)⟩) }
    have hn₁ : st₁.taken c + n = st₁.channel.length := by
      rw [htaken₁, hchannel₁]
      simp only [update_self]
      omega
    obtain ⟨st₂, hdrain₂, hidle₂, hcalls₂, hdone₂⟩ := ih st₁ hidle₁ hn₁
    exact ⟨st₂, .head (.take st c .asListed _ idle hm) trivial (hdrain₁.trans hdrain₂), hidle₂,
      hcalls₂.trans hcalls₁, hdone₂⟩

theorem settles (c : Core) (hl : Logged st) (hm : m ∈ st.log) :
    ∃ labels st', Run Step st labels st' ∧ (∀ a ∈ labels, a.Drains) ∧ Settled c m st' := by
  have hcall : ∃ st', Drain st st' ∧ st'.calls m.id = none := by
    rcases hl.accounted m hm with hpub | ⟨ss, hss⟩
    · exact ⟨st, .refl st, (hl.published m hpub).2⟩
    · exact finish_call m.id m ss st hss
  obtain ⟨st₁, hdrain₁, hdone₁⟩ := hcall
  have hl₁ : Logged st₁ := hdrain₁.choose_spec.of_guarded.invariant logged_step hl
  obtain ⟨st₂, hdrain₂, hidle₂, hcalls₂, hchannel₂, htaken₂⟩ := idle_relay c st₁
  have hle := hl₁.taken_le c
  rw [← hchannel₂, ← htaken₂] at hle
  obtain ⟨st₃, hdrain₃, hidle₃, hcalls₃, hdone₃⟩ :=
    drain_channel c (st₂.channel.length - st₂.taken c) st₂ hidle₂ (by omega)
  obtain ⟨labels, hrun⟩ := hdrain₁.trans (hdrain₂.trans hdrain₃)
  obtain ⟨hrun, hdrains⟩ := Run.guarded_labels_iff.mp hrun
  refine ⟨labels, st₃, hrun, hdrains, ?_, hidle₃, hdone₃⟩
  rw [hcalls₃, hcalls₂]
  exact hdone₁

/-- A gateway that stays on core `c` is sent a broadcast exactly once precisely when it was made on
another core (one of `c` comes back as an echo). Broadcasts of other cores arrive in publication
order. -/
theorem broadcast_once_iff_remote {c : Core} {g : Uuid} {s : Stream} {init mid st : State Core}
    {l₁ l₂ : List (Label Core)} (hinit : Initial init)
    (here : (init.streams c).lookup g = some s)
    (elsewhere : ∀ c', c' ≠ c → (init.streams c').lookup g = none)
    (hrun₁ : Run Step init l₁ mid) (hrun₂ : Run Step mid l₂ st)
    (stays : ∀ a ∈ l₁ ++ l₂, ¬ a.Touches g) :
    (∀ m ∈ st.log, m.payload.target = none →
      (Settled c m st → (delivered g m st = 1 ↔ m.publisher ≠ c)) ∧
      (m.publisher ≠ c → delivered g m st ≤ 1) ∧
      ∃ l₃ st₃, Run Step st l₃ st₃ ∧ (∀ a ∈ l₃, a.Drains) ∧ Settled c m st₃) ∧
    ∀ m₁ ∈ mid.channel, ∀ m₂ ∉ mid.log, m₁.publisher ≠ c → m₂.publisher ≠ c →
      ∀ pre post, received g st = pre ++ m₂ :: post → m₁ ∉ post := by
  have hmid : Account c g s mid :=
    account_run hrun₁ (fun a ha => stays a (List.mem_append_left _ ha))
      (account_initial hinit here elsewhere)
  have hst : Account c g s st :=
    account_run hrun₂ (fun a ha => stays a (List.mem_append_right _ ha)) hmid
  refine ⟨?_, ?_⟩
  · intro m hm hbroadcast
    refine ⟨?_, delivered_remote_le hst hm, settles c hst.logged hm⟩
    intro hsettled
    rw [delivered_settled hst hm hsettled]
    by_cases hp : m.publisher = c
    · simp [Local, hbroadcast]
    · simp [Local, hp]
  · intro m₁ hm₁ m₂ hm₂ hr₁ hr₂ pre post hrec hpost
    obtain ⟨rest, hchannel⟩ := channel_grows hrun₂
    have hpair : [m₂, m₁].Sublist (mid.channel ++ rest) := by
      have hsub : [m₂, m₁].Sublist (received g st) := by
        rw [hrec]
        exact ((List.singleton_sublist.mpr hpost).cons_cons m₂).trans (List.sublist_append_right _ _)
      have hfilter := hsub.filter fun m => decide (m.publisher ≠ c)
      rw [received_remote hst] at hfilter
      have hboth : [m₂, m₁].filter (fun m => decide (m.publisher ≠ c)) = [m₂, m₁] := by
        simp [hr₁, hr₂]
      rw [hboth] at hfilter
      rw [hchannel]
      exact hfilter.trans (List.filter_sublist.trans (relayedTo_sublist hst))
    have hnodup : (mid.channel ++ rest).Nodup := hchannel ▸ hst.logged.nodup
    exact hm₂ (hmid.logged.published m₂ (first_of_pair_mem hnodup hpair hm₁)).1

end Steps

def peerMessage (id : Nat) (core : Bool) (action : PeerAction) : Message Bool :=
  ⟨id, core, .peerUpdate ⟨action, ⟨"key", [], "", 0⟩⟩⟩

theorem remote_broadcast_once :
    ∃ (labels : List (Label Bool)) (st : State Bool), Initial twoCores ∧
      Run Step twoCores labels st ∧ peerMessage 0 true .add ∈ st.log ∧
      Settled false (peerMessage 0 true .add) st ∧
      delivered "gw1" (peerMessage 0 true .add) st = 1 := by
  have hrun : ∃ st, Run Step twoCores
      [.call true (peerMessage 0 true .add).payload .asListed, .send 0, .publish 0,
        .take false .asListed, .relaySend false, .relayDone false] st ∧
      st.log = [peerMessage 0 true .add] ∧ Settled false (peerMessage 0 true .add) st :=
    ⟨_, .cons (.call _ _ _ _) (.cons (.send _ 0 _ _ _ rfl) (.cons (.publish _ 0 _ rfl)
      (.cons (.take _ false _ _ rfl rfl) (.cons (.relaySend _ false _ _ _ rfl)
      (.cons (.relayDone _ false _ rfl) (.nil _)))))), rfl, rfl, rfl, rfl⟩
  obtain ⟨st, hrun, hlog, hsettled⟩ := hrun
  have hmem : peerMessage 0 true .add ∈ st.log := by
    rw [hlog]
    exact .head _
  have helse : ∀ c', c' ≠ false → (twoCores.streams c').lookup "gw1" = none := by
    intro c' hne
    cases c' with
    | false => exact absurd rfl hne
    | true => rfl
  have hstays : ∀ a ∈ ([.call true (peerMessage 0 true .add).payload .asListed, .send 0, .publish 0,
      .take false .asListed, .relaySend false, .relayDone false] : List (Label Bool)) ++ [],
      ¬ a.Touches "gw1" := by
    simp [Label.Touches]
  have hmain := broadcast_once_iff_remote twoCores_initial (s := ⟨"gw1", 1⟩) rfl helse hrun (.nil st)
    hstays
  refine ⟨_, st, twoCores_initial, hrun, hmem, hsettled, ?_⟩
  exact ((hmain.1 _ hmem rfl).1 hsettled).mpr (by decide)

/-- The echo of an addition is sent after the removal that followed it. -/
theorem echo_readds_removed_peer :
    ∃ (labels : List (Label Bool)) (st : State Bool), Initial twoCores ∧
      (∀ a ∈ labels, ¬ a.Touches "gw1") ∧ Run Step twoCores labels st ∧
      received "gw1" st = [peerMessage 0 false .add, peerMessage 1 false .remove,
        peerMessage 0 false .add] := by
  refine ⟨[.call false (peerMessage 0 false .add).payload .asListed, .send 0, .publish 0,
      .call false (peerMessage 1 false .remove).payload .asListed, .send 1, .publish 1,
      .take false .asListed, .relaySend false], _, twoCores_initial, by simp [Label.Touches],
    .cons (.call _ _ _ _) (.cons (.send _ 0 _ _ _ rfl) (.cons (.publish _ 0 _ rfl)
      (.cons (.call _ _ _ _) (.cons (.send _ 1 _ _ _ rfl) (.cons (.publish _ 1 _ rfl)
      (.cons (.take _ false _ _ rfl rfl) (.cons (.relaySend _ false _ _ _ rfl) (.nil _)))))))), rfl⟩

end Outpost.CoreRelay
