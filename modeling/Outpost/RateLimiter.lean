import Mathlib.Data.List.Induction
import Outpost.Shared.GoMap
import Outpost.Shared.Runs
import Outpost.Shared.Slices

/-!
# The rate limiter in memory

`ipRateLimiter` without Redis. Calls of `allow` and ticks of `cleanup` hold the mutex, and each
reads the clock while it does.
-/

namespace Outpost.RateLimiter

open Runs Slices

abbrev Attempts := GoMap String (List Int)

def recent (window now : Int) (attempts : List Int) : List Int :=
  keepInPlace (fun t => now - window < t) attempts

def allow (limit window now : Int) (ip : String) (m : Attempts) : Attempts × Bool :=
  let attempts := (m.lookup ip).getD []
  let valid := recent window now attempts
  let m := if valid = [] ∧ attempts ≠ [] then m.erase ip else m
  if limit ≤ valid.length then (m.insert ip valid, false) else (m.insert ip (valid ++ [now]), true)

def keepRecent (window now : Int) (attempts : List Int) : Option (List Int) :=
  let valid := recent window now attempts
  if valid = [] then none else some valid

def cleanup (window now : Int) (order : RangeOrder (String × List Int)) (m : Attempts) : Attempts :=
  GoMap.updateEach (fun _ => keepRecent window now) (order.visit (GoMap.pairs m)) m

inductive Event where
  | call (now : Int) (ip : String) (allowed : Bool)
  | tick (now : Int)

def Event.now : Event → Int
  | .call now _ _ => now
  | .tick now => now

def Event.isCall : Event → Bool
  | .call _ _ _ => true
  | .tick _ => false

inductive Step (limit window : Int) (m : Attempts) : Event → Attempts → Prop where
  | call (now : Int) (ip : String) : Step limit window m
      (.call now ip (allow limit window now ip m).2) (allow limit window now ip m).1
  | tick (now : Int) (order : RangeOrder (String × List Int)) :
      Step limit window m (.tick now) (cleanup window now order m)

def Ordered (events : List Event) : Prop := (events.map Event.now).Pairwise (· ≤ ·)

def allowedTimes (ip : String) (events : List Event) : List Int :=
  events.filterMap fun
    | .call now ip' true => if ip' = ip then some now else none
    | _ => none

def lastTick (start : Int) (events : List Event) : Int :=
  events.foldl (fun last e => if e.isCall then last else e.now) start

section Steps

variable {limit window now t : Int} {ip ip' : String} {m : Attempts} {events past : List Event}

theorem recent_eq (l : List Int) : recent window now l = l.filter fun t => now - window < t :=
  keepInPlace_eq _ l

theorem filter_recent (h : now ≤ t) (l : List Int) :
    (recent window now l).filter (fun s => t - window < s) = l.filter fun s => t - window < s := by
  rw [recent_eq, List.filter_filter]
  apply List.filter_congr
  intro s _
  simp only [← Bool.decide_and, decide_eq_decide]
  omega

theorem filter_window {l : List Int} (h : ∀ s ∈ l, s ≤ now) :
    (l.filter fun s => now - window < s ∧ s ≤ now) = l.filter fun s => now - window < s := by
  apply List.filter_congr
  intro s hs
  simp [h s hs]

theorem lookup_allow_self : (allow limit window now ip m).1.lookup ip =
    some (recent window now ((m.lookup ip).getD []) ++
      if (allow limit window now ip m).2 then [now] else []) := by
  unfold allow
  dsimp only
  split <;> simp

theorem lookup_allow_ne (h : ip' ≠ ip) :
    (allow limit window now ip m).1.lookup ip' = m.lookup ip' := by
  unfold allow
  dsimp only
  split <;> rw [AList.lookup_insert_ne h] <;> split <;> simp [AList.lookup_erase_ne h]

theorem lookup_cleanup (order : RangeOrder (String × List Int)) :
    (cleanup window now order m).lookup ip = (m.lookup ip).bind (keepRecent window now) :=
  GoMap.lookup_updateEach_visit _ order m ip

theorem getD_keepRecent (entry : Option (List Int)) :
    (entry.bind (keepRecent window now)).getD [] = recent window now (entry.getD []) := by
  cases entry with
  | none => rfl
  | some l => by_cases hnil : recent window now l = [] <;> simp [keepRecent, hnil]

theorem keepRecent_eq_some {l kept : List Int} :
    keepRecent window now l = some kept ↔ kept ≠ [] ∧ recent window now l = kept := by
  rw [keepRecent, Option.ite_none_left_eq_some, Option.some_inj]
  exact and_congr_left fun h => by rw [h]

theorem allowedTimes_call (allowed : Bool) : allowedTimes ip (past ++ [.call now ip' allowed]) =
    allowedTimes ip past ++ if ip' = ip ∧ allowed = true then [now] else [] := by
  rw [allowedTimes, List.filterMap_append]
  cases allowed <;> by_cases h : ip' = ip <;> simp [allowedTimes, h]

theorem allowedTimes_tick : allowedTimes ip (past ++ [.tick now]) = allowedTimes ip past := by
  rw [allowedTimes, List.filterMap_append]
  exact List.append_nil _

theorem mem_allowedTimes_le {s : Int} (h : ∀ e ∈ past, e.now ≤ t) (hs : s ∈ allowedTimes ip past) :
    s ≤ t := by
  obtain ⟨e, he, hs⟩ := List.mem_filterMap.mp hs
  split at hs
  · split at hs
    · cases hs
      exact h _ he
    · cases hs
  · cases hs

theorem lastTick_concat (start : Int) (e : Event) :
    lastTick start (past ++ [e]) = if e.isCall then lastTick start past else e.now :=
  List.foldl_concat _ _ _ _

theorem lastTick_le {start : Int} (hstart : start ≤ t) (h : ∀ e ∈ past, e.now ≤ t) :
    lastTick start past ≤ t := by
  induction past using List.reverseRecOn with
  | nil => exact hstart
  | append_singleton past e ih =>
    obtain ⟨hpast, he⟩ := List.forall_mem_append.mp h
    rw [lastTick_concat]
    split
    · exact ih hpast
    · exact he e List.mem_cons_self

def Close (window : Int) (p : Int → Bool) : Prop :=
  ∀ s u, p s = true → p u = true → s ≤ u → u - window < s

structure Tracks (limit window : Int) (events : List Event) (allowed : List Int)
    (entry : Option (List Int)) : Prop where
  bounded : ∀ l, entry = some l → l ≠ [] ∧ (l.length : Int) ≤ limit
  stored : ∀ s ∈ entry.getD [], s ∈ allowed
  within : ∀ t, (∀ e ∈ events, e.now ≤ t) →
    recent window t (entry.getD []) = allowed.filter fun s => t - window < s
  fresh : ∀ start, 0 < window → (∀ e ∈ events, start ≤ e.now) →
    ∀ s ∈ entry.getD [], lastTick start events - window < s
  spaced : ∀ p, Close window p → ((allowed.filter p).length : Int) ≤ limit

variable {allowed : List Int} {entry entry' : Option (List Int)} {ok : Bool} {e : Event}

theorem tracks_none (h : 1 ≤ limit) : Tracks limit window [] [] none :=
  ⟨nofun, nofun, fun _ _ => rfl, fun _ _ _ => nofun, fun _ _ => show (0 : Int) ≤ limit by omega⟩

theorem Tracks.other_call (h : Tracks limit window past allowed entry) :
    Tracks limit window (past ++ [.call now ip ok]) allowed entry where
  bounded := h.bounded
  stored := h.stored
  within := fun t ht => h.within t (List.forall_mem_append.mp ht).1
  fresh := by
    intro start hw hstart
    rw [lastTick_concat]
    exact h.fresh start hw (List.forall_mem_append.mp hstart).1
  spaced := h.spaced

/-- A call of the address, or a tick: the old times go, and that of an allowed call is added. -/
theorem Tracks.refilter (h : Tracks limit window past allowed entry)
    (hnow : ∀ e' ∈ past, e'.now ≤ e.now) (hle : ∀ s ∈ allowed, s ≤ e.now)
    (hok : ok = true → ((recent window e.now (entry.getD [])).length : Int) < limit)
    (hentry : entry'.getD [] = recent window e.now (entry.getD []) ++ if ok then [e.now] else [])
    (hne : ∀ l, entry' = some l → l ≠ []) :
    Tracks limit window (past ++ [e]) (allowed ++ if ok then [e.now] else []) entry' := by
  have hrecent := h.within e.now hnow
  refine ⟨?_, ?_, ?_, ?_, ?_⟩
  · intro l hl
    refine ⟨hne l hl, ?_⟩
    rw [hl, Option.getD_some] at hentry
    cases ok with
    | true =>
      have := hok rfl
      simp [hentry]
      omega
    | false =>
      have hclose : Close window fun s => e.now - window < s ∧ s ≤ e.now := by
        intro s u hs hu _
        simp only [decide_eq_true_eq] at hs hu
        omega
      have := h.spaced _ hclose
      rw [filter_window hle, ← hrecent] at this
      simpa [hentry] using this
  · intro s hs
    rw [hentry, hrecent] at hs
    rcases List.mem_append.mp hs with hs | hs
    · exact List.mem_append_left _ (List.mem_filter.mp hs).1
    · exact List.mem_append_right _ hs
  · intro t ht
    obtain ⟨hpast, ht⟩ := List.forall_mem_append.mp ht
    have hnowt : e.now ≤ t := ht e List.mem_cons_self
    rw [hentry, recent_eq, List.filter_append, List.filter_append, filter_recent hnowt,
      ← recent_eq, h.within t hpast]
  · intro start hw hstart s hs
    obtain ⟨hpast, hnew⟩ := List.forall_mem_append.mp hstart
    have hlast : lastTick start past ≤ e.now := lastTick_le (hnew e List.mem_cons_self) hnow
    rw [hentry, recent_eq] at hs
    rw [lastTick_concat]
    rcases List.mem_append.mp hs with hs | hs
    · obtain ⟨hs, hlt⟩ := List.mem_filter.mp hs
      split
      · exact h.fresh start hw hpast s hs
      · exact of_decide_eq_true hlt
    · obtain rfl : s = e.now := by
        cases ok with
        | true => exact List.mem_singleton.mp hs
        | false => cases hs
      split <;> omega
  · intro p hp
    have hold := h.spaced p hp
    rw [List.filter_append, List.length_append]
    by_cases hnew : ok = true ∧ p e.now = true
    · -- what was allowed close to now was allowed within a window of it
      have hsub : (allowed.filter p).length ≤ (recent window e.now (entry.getD [])).length := by
        rw [hrecent, ← List.countP_eq_length_filter, ← List.countP_eq_length_filter]
        apply List.countP_mono_left
        intro s hs hps
        exact decide_eq_true (hp s e.now hps hnew.2 (hle s hs))
      have := hok hnew.1
      simp [hnew]
      omega
    · cases ok with
      | true => simpa [show p e.now = false by simpa using hnew] using hold
      | false => simpa using hold

theorem allow_iff : (allow limit window now ip m).2 = true ↔
    ((recent window now ((m.lookup ip).getD [])).length : Int) < limit := by
  unfold allow
  dsimp only
  split
  · simpa
  · rename_i hfew
    exact iff_of_true rfl (Int.not_le.mp hfew)

theorem Ordered.concat {e : Event} (h : Ordered (past ++ [e])) :
    Ordered past ∧ ∀ e' ∈ past, e'.now ≤ e.now := by
  rw [Ordered, List.map_append, List.pairwise_append] at h
  exact ⟨h.1, fun e' he' => h.2.2 _ (List.mem_map_of_mem he') _ List.mem_cons_self⟩

theorem tracks_step {m' : Attempts} (hstep : Step limit window m e m') (hlimit : 1 ≤ limit)
    (hnow : ∀ e' ∈ past, e'.now ≤ e.now)
    (h : ∀ ip, Tracks limit window past (allowedTimes ip past) (m.lookup ip)) (ip : String) :
    Tracks limit window (past ++ [e]) (allowedTimes ip (past ++ [e])) (m'.lookup ip) := by
  have hle : ∀ s ∈ allowedTimes ip past, s ≤ e.now := fun s hs => mem_allowedTimes_le hnow hs
  cases hstep with
  | call now ip' =>
    rw [allowedTimes_call]
    by_cases hip : ip = ip'
    · subst hip
      have hself : (allow limit window now ip m).1.lookup ip = some _ := lookup_allow_self
      have hcall := (h ip).refilter hnow hle allow_iff.mp (congrArg (Option.getD · []) hself)
      simp only [true_and]
      apply hcall
      intro l hl hnil
      rw [hself, hnil] at hl
      obtain ⟨hrecent, hnone⟩ := List.append_eq_nil_iff.mp (Option.some.inj hl)
      have := allow_iff.not.mp (by simpa using hnone)
      rw [hrecent] at this
      exact this (by simpa)
    · rw [lookup_allow_ne hip, if_neg (fun heq => hip heq.1.symm), List.append_nil]
      exact (h ip).other_call
  | tick now order =>
    rw [allowedTimes_tick, lookup_cleanup, ← List.append_nil (allowedTimes ip past)]
    apply (h ip).refilter hnow hle (nofun : false = true → _)
    · exact (getD_keepRecent _).trans (List.append_nil _).symm
    · intro l hl
      obtain ⟨old, _, hl⟩ := Option.bind_eq_some_iff.mp hl
      exact (keepRecent_eq_some.mp hl).1

theorem tracks_run (hrun : Run (Step limit window) ∅ events m) (hlimit : 1 ≤ limit)
    (hordered : Ordered events) (ip : String) :
    Tracks limit window events (allowedTimes ip events) (m.lookup ip) := by
  refine hrun.history (I := fun past m => Ordered past →
    ∀ ip, Tracks limit window past (allowedTimes ip past) (m.lookup ip)) ?_
    (fun _ _ => tracks_none hlimit) hordered ip
  intro past m e m' hstep h hordered
  obtain ⟨hpast, hnow⟩ := hordered.concat
  exact tracks_step hstep hlimit hnow (h hpast)

theorem allow_cleanup (order : RangeOrder (String × List Int)) (h : now ≤ t) :
    (allow limit window t ip (cleanup window now order m)).2 = (allow limit window t ip m).2 := by
  rw [Bool.eq_iff_iff, allow_iff, allow_iff, lookup_cleanup, getD_keepRecent, recent_eq,
    filter_recent h, ← recent_eq]

end Steps

/-- A call is allowed exactly when fewer than `limit` calls of its address were allowed in the
window before it; so no window has more of them, whichever end it includes. -/
theorem allow_is_sliding_window {limit window : Int} {events : List Event} {m : Attempts}
    (hrun : Run (Step limit window) ∅ events m) (hlimit : 1 ≤ limit) (hordered : Ordered events) :
    (∀ past t ip ok rest, events = past ++ .call t ip ok :: rest →
      (ok = true ↔
        (((allowedTimes ip past).filter fun s => t - window < s ∧ s ≤ t).length : Int) < limit)) ∧
    (∀ ip a,
      (((allowedTimes ip events).filter fun s => a < s ∧ s ≤ a + window).length : Int) ≤ limit ∧
      (((allowedTimes ip events).filter fun s => a ≤ s ∧ s < a + window).length : Int) ≤ limit) ∧
    ∀ order now t ip, now ≤ t →
      (allow limit window t ip (cleanup window now order m)).2 = (allow limit window t ip m).2 := by
  refine ⟨?_, ?_, fun order _ _ _ h => allow_cleanup order h⟩
  · intro past t ip ok rest hevents
    subst hevents
    obtain ⟨s, hpast, hrest⟩ := hrun.of_append
    have hsplit : Ordered (past ++ [.call t ip ok]) :=
      hordered.sublist (List.Sublist.map _ (by simp))
    obtain ⟨hold, hnow⟩ := hsplit.concat
    change ∀ e ∈ past, e.now ≤ t at hnow
    rw [filter_window fun s hs => mem_allowedTimes_le hnow hs]
    cases hrest with
    | cons hstep _ =>
      cases hstep
      rw [allow_iff, (tracks_run hpast hlimit hold ip).within t hnow]
  · intro ip a
    have hspaced := (tracks_run hrun hlimit hordered ip).spaced
    refine ⟨hspaced _ ?_, hspaced _ ?_⟩
    · intro s u hs hu _
      simp only [decide_eq_true_eq] at hs hu
      omega
    · intro s u hs hu _
      simp only [decide_eq_true_eq] at hs hu
      omega

/-- Entries are neither empty nor long, and go back two windows at most, after a tick one. -/
theorem attempts_bounded {limit window : Int} {events : List Event} {m : Attempts}
    (hrun : Run (Step limit window) ∅ events m) (hlimit : 1 ≤ limit) (hordered : Ordered events) :
    (∀ ip l, m.lookup ip = some l → 1 ≤ l.length ∧ (l.length : Int) ≤ limit) ∧
    (∀ past t, events = past ++ [.tick t] → ∀ ip, (∃ l, m.lookup ip = some l) ↔
      ∃ s ∈ allowedTimes ip events, t - window < s ∧ s ≤ t) ∧
    ∀ start t, 0 < window → (∀ e ∈ events, start ≤ e.now ∧ e.now ≤ t) →
      t ≤ lastTick start events + window → ∀ ip l, m.lookup ip = some l →
        ∃ s ∈ allowedTimes ip events, t - 2 * window < s ∧ s ≤ t := by
  have htracks := tracks_run hrun hlimit hordered
  refine ⟨?_, ?_, ?_⟩
  · intro ip l hl
    obtain ⟨hne, hle⟩ := (htracks ip).bounded l hl
    exact ⟨List.length_pos_iff.mpr hne, hle⟩
  · intro past t hevents ip
    subst hevents
    obtain ⟨hpast, hnow⟩ := hordered.concat
    change ∀ e ∈ past, e.now ≤ t at hnow
    obtain ⟨s, hrun₁, hrun₂⟩ := hrun.of_append
    have hold := (tracks_run hrun₁ hlimit hpast ip).within t hnow
    have hmem : (∃ l, m.lookup ip = some l) ↔ recent window t ((s.lookup ip).getD []) ≠ [] := by
      cases hrun₂ with
      | cons hstep hnil =>
        cases hnil
        cases hstep
        rw [lookup_cleanup]
        cases s.lookup ip with
        | none => simp [recent_eq]
        | some l => simp [keepRecent]
    rw [hmem, hold, allowedTimes_tick, ← filter_window fun s hs => mem_allowedTimes_le hnow hs]
    simp
  · intro start t hw htimes htick ip l hl
    have hstored := (htracks ip).stored
    have hfresh := (htracks ip).fresh start hw fun e he => (htimes e he).1
    rw [hl, Option.getD_some] at hstored hfresh
    obtain ⟨s, hs⟩ := List.exists_mem_of_ne_nil l ((htracks ip).bounded l hl).1
    have := hfresh s hs
    exact ⟨s, hstored s hs, by omega, mem_allowedTimes_le (fun e he => (htimes e he).2) (hstored s hs)⟩

def twoCalls : List Event := [.call 0 "a" true, .call 1 "a" false]

theorem run_twoCalls : ∃ m, Run (Step 1 60) ∅ twoCalls m :=
  ⟨_, .cons (.call 0 "a") (.cons (.call 1 "a") (.nil _))⟩

theorem second_call_refused : ¬ (((allowedTimes "a" [.call 0 "a" true]).filter
    fun s => (1 : Int) - 60 < s ∧ s ≤ 1).length : Int) < 1 := by
  obtain ⟨m, hrun⟩ := run_twoCalls
  have hordered : Ordered twoCalls := by simp [Ordered, twoCalls, Event.now]
  have hsliding := (allow_is_sliding_window hrun (by decide) hordered).1 [.call 0 "a" true] 1 "a"
    false [] rfl
  exact fun h => absurd (hsliding.mpr h) (by decide)

theorem one_entry_stored : ∃ m, Run (Step 1 60) ∅ twoCalls m ∧
    ∀ ip l, m.lookup ip = some l → l.length = 1 := by
  obtain ⟨m, hrun⟩ := run_twoCalls
  have hordered : Ordered twoCalls := by simp [Ordered, twoCalls, Event.now]
  have hbounded := (attempts_bounded hrun (by decide) hordered).1
  refine ⟨m, hrun, ?_⟩
  intro ip l hl
  have := hbounded ip l hl
  omega

end Outpost.RateLimiter
