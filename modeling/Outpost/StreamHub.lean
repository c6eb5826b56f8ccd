import Outpost.Schema
import Outpost.Shared.GoMap
import Outpost.Shared.Runs

/-!
# The stream hub of one core

The map from gateways to their streams. The history of registrations is kept beside the map, to
say which stream a gateway ought to have.
-/

namespace Outpost.StreamHub

open Runs

variable {σ : Type}

abbrev Streams (σ : Type) := GoMap Uuid σ

def register (gatewayID : Uuid) (stream : σ) (streams : Streams σ) : Streams σ :=
  streams.insert gatewayID stream

/-- The function that `Register` returns: it deletes whatever the key holds. -/
def cleanup (gatewayID : Uuid) (streams : Streams σ) : Streams σ := streams.erase gatewayID

def snapshot (order : RangeOrder (Uuid × σ)) (streams : Streams σ) : List σ :=
  (order.visit streams.pairs).map Prod.snd

def sendTo (gatewayID : Uuid) (streams : Streams σ) : List σ := (streams.lookup gatewayID).toList

variable {streams : Streams σ}

theorem mem_snapshot {order : RangeOrder (Uuid × σ)} {s : σ} :
    s ∈ snapshot order streams ↔ ∃ g, streams.lookup g = some s := by
  simp [snapshot, GoMap.mem_pairs]

variable {g g' : Uuid}

theorem mem_sendTo {s : σ} :
    s ∈ sendTo g streams ↔ streams.lookup g = some s := by
  simp [sendTo]

structure Registration (σ : Type) where
  gatewayID : Uuid
  stream : σ
  cleaned : Bool

structure Hub (σ : Type) where
  streams : Streams σ
  registrations : List (Registration σ)

def newHub : Hub σ := ⟨∅, []⟩

inductive Call (σ : Type) where
  | register (gatewayID : Uuid) (stream : σ)
  | cleanup (registration : Nat)

inductive Step : Hub σ → Call σ → Hub σ → Prop where
  | register (h : Hub σ) (g : Uuid) (s : σ) :
      Step h (.register g s) ⟨register g s h.streams, h.registrations ++ [⟨g, s, false⟩]⟩
  -- a cleanup runs at most once
  | cleanup (before after : List (Registration σ)) (streams : Streams σ) (g : Uuid) (s : σ) :
      Step ⟨streams, before ++ ⟨g, s, false⟩ :: after⟩ (.cleanup before.length)
        ⟨cleanup g streams, before ++ ⟨g, s, true⟩ :: after⟩

def ofGateway (g : Uuid) (rs : List (Registration σ)) : List (Registration σ) :=
  rs.filter fun r => r.gatewayID = g

def latest (g : Uuid) (h : Hub σ) : Option (Registration σ) :=
  (ofGateway g h.registrations).getLast?

def latestOpen (g : Uuid) (h : Hub σ) : Option (Registration σ) :=
  ((ofGateway g h.registrations).filter fun r => !r.cleaned).getLast?

/-- The hub maps each gateway to its most recent registration, if still open. -/
def TracksLatest (h : Hub σ) : Prop :=
  ∀ g, h.streams.lookup g =
    (latest g h).bind fun r => if r.cleaned then none else some r.stream

/-- The hub maps each gateway to its most recent open registration, and to nothing only when the
most recent registration's cleanup has run. -/
def TracksLatestOpen (h : Hub σ) : Prop :=
  ∀ g, h.streams.lookup g = (latestOpen g h).map Registration.stream ∧
    (h.streams.lookup g = none → ∀ r ∈ latest g h, r.cleaned = true)

def NotSuperseded (h : Hub σ) : Call σ → Prop
  | .register _ _ => True
  | .cleanup i => ∀ r ∈ h.registrations[i]?,
      ∀ r' ∈ (ofGateway r.gatewayID (h.registrations.drop (i + 1))).getLast?, r'.cleaned = true

def LastOpen (h : Hub σ) : Call σ → Prop
  | .register _ _ => True
  | .cleanup i => ∀ r ∈ h.registrations[i]?,
      ∀ r' ∈ ofGateway r.gatewayID (h.registrations.take i ++ h.registrations.drop (i + 1)),
        r'.cleaned = true

theorem ofGateway_self (g : Uuid) (stream : σ) (cleaned : Bool)
    (before after : List (Registration σ)) :
    ofGateway g (before ++ ⟨g, stream, cleaned⟩ :: after) =
      ofGateway g before ++ ⟨g, stream, cleaned⟩ :: ofGateway g after := by
  simp [ofGateway]

theorem ofGateway_other (h : g ≠ g') (stream : σ) (cleaned : Bool)
    (before after : List (Registration σ)) :
    ofGateway g' (before ++ ⟨g, stream, cleaned⟩ :: after) =
      ofGateway g' before ++ ofGateway g' after := by
  simp [ofGateway, h]

theorem ofGateway_nil (g : Uuid) : ofGateway g ([] : List (Registration σ)) = [] := rfl

theorem at_length (before after : List (Registration σ)) (r : Registration σ) :
    (before ++ r :: after)[before.length]? = some r ∧
    (before ++ r :: after).take before.length = before ∧
    (before ++ r :: after).drop (before.length + 1) = after := by
  simp [List.drop_append]

theorem lookup_cleanup_self (g : Uuid) (streams : Streams σ) :
    (cleanup g streams).lookup g = none := AList.lookup_erase _ _

theorem lookup_cleanup_other (h : g ≠ g') (streams : Streams σ) :
    (cleanup g streams).lookup g' = streams.lookup g' :=
  AList.lookup_erase_ne fun heq => h heq.symm

theorem lookup_register_other (h : g ≠ g') (stream : σ) (streams : Streams σ) :
    (register g stream streams).lookup g' = streams.lookup g' :=
  AList.lookup_insert_ne fun heq => h heq.symm

theorem tracksLatest_step (s : Hub σ) (a : Call σ) (t : Hub σ) (h : Step s a t)
    (hs : TracksLatest s) : TracksLatest t ↔ NotSuperseded s a := by
  cases h with
  | register _ g stream =>
    refine iff_of_true ?_ trivial
    intro g'
    by_cases hg : g = g'
    · subst hg
      simp only [latest, ofGateway_self, List.getLast?_append]
      exact AList.lookup_insert _
    · simp only [latest, ofGateway_other hg, ofGateway_nil, List.append_nil,
        lookup_register_other hg]
      exact hs g'
  | cleanup before after streams g stream =>
    obtain ⟨hat, _, hdrop⟩ := at_length before after ⟨g, stream, false⟩
    have hself : latest g ⟨cleanup g streams, before ++ ⟨g, stream, true⟩ :: after⟩ =
        some ((ofGateway g after).getLast?.getD ⟨g, stream, true⟩) := by
      simp [latest, ofGateway_self, List.getLast?_cons]
    simp only [NotSuperseded, hat, hdrop, Option.mem_some_iff, forall_eq']
    constructor
    · intro ht r' hr'
      have hnone := ht g
      rw [hself, Option.mem_def.mp hr', lookup_cleanup_self] at hnone
      by_contra hopen
      simp [hopen] at hnone
    · intro hclosed g'
      by_cases hg : g = g'
      · subst hg
        rw [hself, lookup_cleanup_self]
        cases hlast : (ofGateway g after).getLast? with
        | none => rfl
        | some r' => simp [hclosed r' hlast]
      · have hrest := hs g'
        simp only [latest, ofGateway_other hg] at hrest ⊢
        rw [lookup_cleanup_other hg]
        exact hrest

theorem tracksLatestOpen_step (s : Hub σ) (a : Call σ) (t : Hub σ) (h : Step s a t)
    (hs : TracksLatestOpen s) : TracksLatestOpen t ↔ LastOpen s a := by
  cases h with
  | register _ g stream =>
    refine iff_of_true ?_ trivial
    intro g'
    by_cases hg : g = g'
    · subst hg
      have hlookup : (register g stream s.streams).lookup g = some stream := AList.lookup_insert _
      simp [latestOpen, ofGateway_self, ofGateway_nil, hlookup]
    · simp only [latestOpen, latest, ofGateway_other hg, ofGateway_nil, List.append_nil,
        lookup_register_other hg]
      exact hs g'
  | cleanup before after streams g stream =>
    obtain ⟨hat, htake, hdrop⟩ := at_length before after ⟨g, stream, false⟩
    have hopen : latestOpen g ⟨cleanup g streams, before ++ ⟨g, stream, true⟩ :: after⟩ = none ↔
        ∀ r ∈ ofGateway g (before ++ after), r.cleaned = true := by
      have happend : ofGateway g (before ++ after) = ofGateway g before ++ ofGateway g after :=
        List.filter_append ..
      rw [latestOpen, List.getLast?_eq_none_iff, List.filter_eq_nil_iff, ofGateway_self, happend]
      simp [or_imp, forall_and]
    simp only [LastOpen, hat, htake, hdrop, Option.mem_some_iff, forall_eq']
    rw [← hopen]
    constructor
    · intro ht
      have hnone := (ht g).1
      rw [lookup_cleanup_self] at hnone
      exact Option.map_eq_none_iff.mp hnone.symm
    · intro hnone g'
      by_cases hg : g = g'
      · subst hg
        refine ⟨by rw [lookup_cleanup_self, hnone]; rfl, ?_⟩
        intro _ r hr
        have hmem := List.mem_of_getLast? (Option.mem_def.mp hr)
        rw [ofGateway_self] at hmem
        have hclosed := hopen.mp hnone
        simp only [ofGateway, List.filter_append] at hclosed
        rcases List.mem_append.mp hmem with hr | hr
        · exact hclosed r (List.mem_append_left _ hr)
        · rcases List.mem_cons.mp hr with rfl | hr
          · rfl
          · exact hclosed r (List.mem_append_right _ hr)
      · have hrest := hs g'
        simp only [latestOpen, latest, ofGateway_other hg] at hrest ⊢
        rw [lookup_cleanup_other hg]
        exact hrest

/-- The hub keeps each gateway's newest stream exactly where no cleanup runs while a newer
registration of its gateway is in use; and it maps to the newest open registration exactly where no
cleanup runs while another one of its gateway is open. -/
theorem registration_tracks_iff (calls : List (Call σ)) (h : Hub σ) :
    (Run (Through Step TracksLatest) newHub calls h ↔
      Run (Guarded Step NotSuperseded) newHub calls h) ∧
    (Run (Through Step TracksLatestOpen) newHub calls h ↔
      Run (Guarded Step LastOpen) newHub calls h) := by
  refine ⟨Run.through_iff_guarded tracksLatest_step ?_,
    Run.through_iff_guarded tracksLatestOpen_step ?_⟩
  · intro g
    rfl
  · intro g
    exact ⟨rfl, fun _ r hr => by cases hr⟩

/-- The late cleanup of an old stream disconnects the new one. -/
theorem late_cleanup_disconnects :
    ∃ (calls : List (Call Nat)) (h : Hub Nat), Run Step newHub calls h ∧
      latest "gw" h = some ⟨"gw", 2, false⟩ ∧ latestOpen "gw" h = some ⟨"gw", 2, false⟩ ∧
      h.streams.lookup "gw" = none ∧ ¬ TracksLatest h ∧ ¬ TracksLatestOpen h := by
  refine ⟨[.register "gw" 1, .register "gw" 2, .cleanup 0],
    ⟨cleanup "gw" (register "gw" 2 (register "gw" 1 ∅)), [⟨"gw", 1, true⟩, ⟨"gw", 2, false⟩]⟩,
    .cons (.register _ _ _) (.cons (.register _ _ _)
      (.cons (.cleanup [] [⟨"gw", 2, false⟩] _ "gw" 1) (.nil _))), rfl, rfl, rfl, ?_, ?_⟩
  · intro ht
    exact absurd (ht "gw") (by decide)
  · intro ht
    exact absurd (ht "gw").1 (by decide)

end Outpost.StreamHub
