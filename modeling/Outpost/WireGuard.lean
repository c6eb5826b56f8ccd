import Mathlib.Data.Finset.SDiff
import Mathlib.Data.List.Pairwise
import Mathlib.Data.Finset.Dedup
import Outpost.Messages

/-!
# The WireGuard interface and its manager

`AddPeer` and `RemovePeer` of `WGManager`. The kernel keeps one table of allowed prefixes, so that
giving a prefix to a peer takes it from the peer that had it. Key parsing and endpoint
resolution belong to the machine (`Env`); configuring the device is taken to succeed.
-/

namespace Outpost.WireGuard

variable {Key : Type}

structure Env (Key : Type) where
  parseKey : String → Option Key
  resolve : String → Option String

structure WgPeer where
  allowedIps : Finset Cidr
  endpoint : Option String

abbrev Interface (Key : Type) := Key → Option WgPeer

inductive WgError where
  | parsePubkey (pubkey : String)
deriving DecidableEq

def allowedNets (allowedIPs : List String) : Finset Cidr :=
  (allowedIPs.filterMap fun cidr => (parseCIDR cidr).map Prod.snd).toFinset

variable [DecidableEq Key]

/-- `ConfigureDevice` for one peer with `ReplaceAllowedIPs`. -/
def configurePeer (key : Key) (nets : Finset Cidr) (endpoint : Option String)
    (iface : Interface Key) : Interface Key := fun k =>
  if k = key then some ⟨nets, endpoint.or ((iface key).bind WgPeer.endpoint)⟩
  else (iface k).map fun p => { p with allowedIps := p.allowedIps \ nets }

/-- `AddPeer`; the keepalive argument is not used by the source. -/
def addPeer (env : Env Key) (pubkey : String) (allowedIPs : List String) (endpoint : String)
    (_keepalive : Nat) (iface : Interface Key) : Option WgError × Interface Key :=
  match env.parseKey pubkey with
  | none => (some (.parsePubkey pubkey), iface)
  | some key =>
    let addr := if endpoint ≠ "" then env.resolve endpoint else none
    (none, configurePeer key (allowedNets allowedIPs) addr iface)

def removePeer (env : Env Key) (pubkey : String) (iface : Interface Key) :
    Option WgError × Interface Key :=
  match env.parseKey pubkey with
  | none => (some (.parsePubkey pubkey), iface)
  | some key => (none, fun k => if k = key then none else iface k)

def addMessagePeer (env : Env Key) (iface : Interface Key) (p : Peer) : Interface Key :=
  (addPeer env p.publicKey p.allowedIps p.endpoint p.persistentKeepalive iface).2

section Lookup

variable {env : Env Key} {iface : Interface Key}

variable {p : Peer}

theorem addMessagePeer_self {key : Key} (h : env.parseKey p.publicKey = some key) :
    (addMessagePeer env iface p key).map WgPeer.allowedIps = some (allowedNets p.allowedIps) := by
  simp [addMessagePeer, addPeer, h, configurePeer]

theorem addMessagePeer_other {key k : Key} (h : env.parseKey p.publicKey = some key)
    (hk : k ≠ key) :
    (addMessagePeer env iface p k).map WgPeer.allowedIps =
      ((iface k).map WgPeer.allowedIps).map (· \ allowedNets p.allowedIps) := by
  simp only [addMessagePeer, addPeer, h, configurePeer, if_neg hk, Option.map_map]
  rfl

theorem addMessagePeer_unparsed (h : env.parseKey p.publicKey = none) :
    addMessagePeer env iface p = iface := by
  simp [addMessagePeer, addPeer, h]

theorem addMessagePeer_isSome (p : Peer) (k : Key) :
    (addMessagePeer env iface p k).isSome = true ↔
      env.parseKey p.publicKey = some k ∨ (iface k).isSome = true := by
  unfold addMessagePeer addPeer
  cases h : env.parseKey p.publicKey with
  | none => simp
  | some key =>
    by_cases hk : k = key
    · subst hk
      simp [configurePeer]
    · simp only [configurePeer, if_neg hk, Option.isSome_map, Option.some.injEq]
      constructor
      · exact .inr
      · rintro (heq | h)
        · exact absurd heq.symm hk
        · exact h

end Lookup

section AddAll

variable (env : Env Key)

def wantedNets (peers : List Peer) (k : Key) : Option (Finset Cidr) :=
  (peers.find? fun p => env.parseKey p.publicKey = some k).map fun p => allowedNets p.allowedIps

structure WellFormed (peers : List Peer) : Prop where
  parses : ∀ p ∈ peers, ∃ key, env.parseKey p.publicKey = some key
  distinct : peers.Pairwise fun p q => env.parseKey p.publicKey ≠ env.parseKey q.publicKey
  disjoint : peers.Pairwise fun p q => Disjoint (allowedNets p.allowedIps) (allowedNets q.allowedIps)

variable {env}

theorem foldl_isSome (peers : List Peer) (iface : Interface Key) (k : Key) :
    (peers.foldl (addMessagePeer env) iface k).isSome = true ↔
      (∃ p ∈ peers, env.parseKey p.publicKey = some k) ∨ (iface k).isSome = true := by
  induction peers generalizing iface with
  | nil => simp
  | cons p peers ih =>
    rw [List.foldl_cons, ih, addMessagePeer_isSome]
    simp only [List.mem_cons, exists_eq_or_imp, or_assoc]
    exact or_left_comm

variable {peers : List Peer} {key : Key}

theorem foldl_keeps {iface : Interface Key} {k : Key} {ips : Finset Cidr}
    (parses : ∀ p ∈ peers, ∃ key, env.parseKey p.publicKey = some key)
    (hother : ∀ p ∈ peers, env.parseKey p.publicKey ≠ some k)
    (hdisjoint : ∀ p ∈ peers, Disjoint ips (allowedNets p.allowedIps))
    (hk : (iface k).map WgPeer.allowedIps = some ips) :
    (peers.foldl (addMessagePeer env) iface k).map WgPeer.allowedIps = some ips := by
  induction peers generalizing iface with
  | nil => exact hk
  | cons p peers ih =>
    apply ih (fun q hq => parses q (List.mem_cons_of_mem p hq))
      (fun q hq => hother q (List.mem_cons_of_mem p hq))
      (fun q hq => hdisjoint q (List.mem_cons_of_mem p hq))
    obtain ⟨key, hkey⟩ := parses p List.mem_cons_self
    have hne : k ≠ key := by
      rintro rfl
      exact hother p List.mem_cons_self hkey
    rw [addMessagePeer_other hkey hne, hk, Option.map_some,
      Finset.sdiff_eq_self_of_disjoint (hdisjoint p List.mem_cons_self)]

theorem foldl_wanted (wf : WellFormed env peers) (iface : Interface Key) {p : Peer} (hp : p ∈ peers)
    (hkey : env.parseKey p.publicKey = some key) :
    (peers.foldl (addMessagePeer env) iface key).map WgPeer.allowedIps =
      some (allowedNets p.allowedIps) := by
  obtain ⟨before, after, rfl⟩ := List.append_of_mem hp
  have hdistinct := (List.pairwise_append.mp wf.distinct).2.1
  have hdisjoint := (List.pairwise_append.mp wf.disjoint).2.1
  rw [List.foldl_append, List.foldl_cons]
  apply foldl_keeps
  · intro q hq
    exact wf.parses q (List.mem_append_right _ (List.mem_cons_of_mem p hq))
  · intro q hq heq
    exact (List.pairwise_cons.mp hdistinct).1 q hq (hkey.trans heq.symm)
  · intro q hq
    exact (List.pairwise_cons.mp hdisjoint).1 q hq
  · exact addMessagePeer_self hkey

theorem wantedNets_eq (wf : WellFormed env peers) {p : Peer} (hp : p ∈ peers)
    (hkey : env.parseKey p.publicKey = some key) :
    wantedNets env peers key = some (allowedNets p.allowedIps) := by
  unfold wantedNets
  cases hfind : peers.find? fun q => decide (env.parseKey q.publicKey = some key) with
  | none =>
    have := List.find?_eq_none.mp hfind p hp
    simp [hkey] at this
  | some q =>
    have hq := List.mem_of_find?_eq_some hfind
    have hqkey : env.parseKey q.publicKey = some key := by simpa using List.find?_some hfind
    by_cases hpq : p = q
    · rw [hpq]
      rfl
    · have : Std.Symm fun p q : Peer => env.parseKey p.publicKey ≠ env.parseKey q.publicKey :=
        ⟨fun _ _ h heq => h heq.symm⟩
      exact absurd (hkey.trans hqkey.symm) (wf.distinct.forall hp hq hpq)

theorem wantedNets_none {k : Key} (h : ∀ p ∈ peers, env.parseKey p.publicKey ≠ some k) :
    wantedNets env peers k = none := by
  unfold wantedNets
  rw [Option.map_eq_none_iff]
  apply List.find?_eq_none.mpr
  intro p hp
  simpa using h p hp

theorem foldl_exact_iff (wf : WellFormed env peers) (iface : Interface Key) :
    (∀ k, (peers.foldl (addMessagePeer env) iface k).map WgPeer.allowedIps =
        wantedNets env peers k) ↔
      ∀ k, (iface k).isSome = true → ∃ p ∈ peers, env.parseKey p.publicKey = some k := by
  constructor
  · intro h k hk
    by_contra hnone
    have hne : ∀ p ∈ peers, env.parseKey p.publicKey ≠ some k :=
      fun p hp heq => hnone ⟨p, hp, heq⟩
    have hsome : (peers.foldl (addMessagePeer env) iface k).isSome = true :=
      (foldl_isSome peers iface k).mpr (.inr hk)
    have hk' := h k
    rw [wantedNets_none hne, Option.map_eq_none_iff] at hk'
    rw [hk'] at hsome
    cases hsome
  · intro h k
    by_cases hk : ∃ p ∈ peers, env.parseKey p.publicKey = some k
    · obtain ⟨p, hp, hkey⟩ := hk
      rw [foldl_wanted wf iface hp hkey, wantedNets_eq wf hp hkey]
    · rw [wantedNets_none (fun p hp heq => hk ⟨p, hp, heq⟩), Option.map_eq_none_iff]
      rw [← Option.not_isSome_iff_eq_none, foldl_isSome]
      rintro (hin | hold)
      · exact hk hin
      · exact hk (h k hold)

end AddAll

variable (env : Env Key)

def Asked (peers : List Peer) (k : Key) (nets : Finset Cidr) : Prop :=
  ∃ p ∈ peers, env.parseKey p.publicKey = some k ∧ allowedNets p.allowedIps = nets

/-- No key is asked for with different prefixes, and no prefix for different keys. -/
structure Coherent (asked : Key → Finset Cidr → Prop) : Prop where
  one : ∀ k nets nets', asked k nets → asked k nets' → nets = nets'
  disjoint : ∀ k k' nets nets', asked k nets → asked k' nets' → k ≠ k' → Disjoint nets nets'

variable {env}
variable {peers : List Peer} {k : Key} {nets : Finset Cidr}

omit [DecidableEq Key] in
theorem asked_append_singleton {p : Peer} :
    Asked env (peers ++ [p]) k nets ↔
      Asked env peers k nets ∨ (env.parseKey p.publicKey = some k ∧ allowedNets p.allowedIps = nets) := by
  simp [Asked]

theorem foldl_disjoint (peers : List Peer) (iface : Interface Key) {k' : Key} (hne : k ≠ k')
    {asked asked' nets' : Finset Cidr} (hk : Asked env peers k asked)
    (hk' : Asked env peers k' asked')
    (hnets : (peers.foldl (addMessagePeer env) iface k).map WgPeer.allowedIps = some nets)
    (hnets' : (peers.foldl (addMessagePeer env) iface k').map WgPeer.allowedIps = some nets') :
    Disjoint nets nets' := by
  -- the peer that is added last has its prefixes to itself
  induction peers using List.reverseRecOn generalizing nets nets' with
  | nil =>
    obtain ⟨p, hp, _⟩ := hk
    cases hp
  | append_singleton peers p ih =>
    rw [asked_append_singleton] at hk hk'
    rw [List.foldl_append, List.foldl_cons, List.foldl_nil] at hnets hnets'
    cases hkey : env.parseKey p.publicKey with
    | none =>
      rw [addMessagePeer_unparsed hkey] at hnets hnets'
      exact ih (by simpa [hkey] using hk) (by simpa [hkey] using hk') hnets hnets'
    | some key =>
      rw [hkey] at hk hk'
      by_cases h : k = key
      · subst h
        rw [addMessagePeer_self hkey] at hnets
        rw [addMessagePeer_other hkey hne.symm] at hnets'
        obtain ⟨old, _, rfl⟩ := Option.map_eq_some_iff.mp hnets'
        obtain rfl := Option.some.inj hnets
        exact Finset.disjoint_sdiff
      · rw [addMessagePeer_other hkey h] at hnets
        obtain ⟨old, hold, rfl⟩ := Option.map_eq_some_iff.mp hnets
        have hk := hk.resolve_right fun heq => h (Option.some.inj heq.1).symm
        by_cases h' : k' = key
        · subst h'
          rw [addMessagePeer_self hkey] at hnets'
          obtain rfl := Option.some.inj hnets'
          exact Finset.sdiff_disjoint
        · rw [addMessagePeer_other hkey h'] at hnets'
          obtain ⟨old', hold', rfl⟩ := Option.map_eq_some_iff.mp hnets'
          have hk' := hk'.resolve_right fun heq => h' (Option.some.inj heq.1).symm
          exact (ih hk hk' hold hold').mono Finset.sdiff_subset Finset.sdiff_subset

theorem foldl_asked (coherent : Coherent (Asked env peers)) (iface : Interface Key)
    (hk : Asked env peers k nets) :
    (peers.foldl (addMessagePeer env) iface k).map WgPeer.allowedIps = some nets := by
  induction peers using List.reverseRecOn with
  | nil =>
    obtain ⟨p, hp, _⟩ := hk
    cases hp
  | append_singleton peers p ih =>
    have hmono : ∀ k nets, Asked env peers k nets → Asked env (peers ++ [p]) k nets :=
      fun k nets h => asked_append_singleton.mpr (.inl h)
    have hrest : Coherent (Asked env peers) :=
      ⟨fun k nets nets' h h' => coherent.one k nets nets' (hmono _ _ h) (hmono _ _ h'),
        fun k k' nets nets' h h' => coherent.disjoint k k' nets nets' (hmono _ _ h) (hmono _ _ h')⟩
    rw [List.foldl_append, List.foldl_cons, List.foldl_nil]
    cases hkey : env.parseKey p.publicKey with
    | none =>
      rw [addMessagePeer_unparsed hkey]
      exact ih hrest (by simpa [asked_append_singleton, hkey] using hk)
    | some key =>
      have hlast : Asked env (peers ++ [p]) key (allowedNets p.allowedIps) :=
        asked_append_singleton.mpr (.inr ⟨hkey, rfl⟩)
      by_cases h : k = key
      · subst h
        rw [addMessagePeer_self hkey, coherent.one k _ _ hlast hk]
      · have hbefore : Asked env peers k nets := by
          refine (asked_append_singleton.mp hk).resolve_right fun heq => ?_
          rw [hkey] at heq
          exact h (Option.some.inj heq.1).symm
        rw [addMessagePeer_other hkey h, ih hrest hbefore, Option.map_some,
          Finset.sdiff_eq_self_of_disjoint (coherent.disjoint _ _ _ _ hk hlast h)]

theorem foldl_asked_iff (peers : List Peer) (iface : Interface Key) :
    (∀ k nets, Asked env peers k nets →
        (peers.foldl (addMessagePeer env) iface k).map WgPeer.allowedIps = some nets) ↔
      Coherent (Asked env peers) := by
  constructor
  · intro h
    refine ⟨?_, ?_⟩
    · intro k nets nets' hk hk'
      exact Option.some.inj ((h k nets hk).symm.trans (h k nets' hk'))
    · intro k k' nets nets' hk hk' hne
      exact foldl_disjoint peers iface hne hk hk' (h k nets hk) (h k' nets' hk')
  · intro coherent k nets hk
    exact foldl_asked coherent iface hk

end Outpost.WireGuard
