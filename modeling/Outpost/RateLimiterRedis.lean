import Mathlib.Data.List.Perm.Subperm
import Outpost.Shared.Keyspace
import Outpost.Shared.Runs

/-!
# The rate limiter in Redis

`allowRedis` of any number of cores: an `INCR`, and after a count of one an `EXPIRE`, which may
fail. The database runs the commands one by one, and other calls may come between the two.
-/

namespace Outpost.RateLimiterRedis

open Runs Function

def incr (ks : Keyspace Nat) (now : Int) (k : String) : Keyspace Nat × Nat :=
  let count := (ks.get now k).getD 0 + 1
  (ks.put k ⟨count, (ks.find now k).bind Entry.deadline⟩, count)

def key (ip : String) : String := "ratelimit:" ++ ip

def allowed (limit : Int) (count : Nat) : Bool := count ≤ limit

/-- The counters, and the addresses of the calls that have to send `EXPIRE` yet. -/
structure State where
  keys : Keyspace Nat := .empty
  pending : List String := []

inductive Event where
  | incr (now : Int) (ip : String) (count : Nat)
  | expire (now : Int) (ip : String) (ok : Bool)

def Event.now : Event → Int
  | .incr now _ _ => now
  | .expire now _ _ => now

def Event.ip : Event → String
  | .incr _ ip _ => ip
  | .expire _ ip _ => ip

inductive Step (window : Int) (s : State) : Event → State → Prop where
  | incr (now : Int) (ip : String) :
      Step window s (.incr now ip (incr s.keys now (key ip)).2)
        { keys := (incr s.keys now (key ip)).1,
          pending := if (incr s.keys now (key ip)).2 = 1 then ip :: s.pending else s.pending }
  | expire (now : Int) (ip : String) (ok : Bool) (h : ip ∈ s.pending) :
      Step window s (.expire now ip ok)
        { keys := if ok then s.keys.expire now (key ip) window else s.keys,
          pending := s.pending.erase ip }

def counts (ip : String) (events : List Event) : List Nat :=
  events.filterMap fun
    | .incr _ ip' count => if ip' = ip then some count else none
    | .expire _ _ _ => none

section Steps

variable {limit window now : Int} {ip ip' : String} {s t : State} {e : Event}
  {events past : List Event} {ks : Keyspace Nat} {k : String}

theorem key_inj : key ip = key ip' ↔ ip = ip' := String.append_right_inj _

theorem counts_concat : counts ip (past ++ [e]) = counts ip past ++ counts ip [e] :=
  List.filterMap_append

theorem entries_incr : (incr ks now (key ip)).1.entries (key ip') = if ip' = ip
    then some ⟨(incr ks now (key ip)).2, (ks.find now (key ip)).bind Entry.deadline⟩
    else ks.entries (key ip') := by
  simp [incr, Keyspace.put, update_apply, key_inj]

theorem incr_eq_one_or : (incr ks now k).2 = 1 ∨
    (ks.entries k).map (fun e => e.value + 1) = some (incr ks now k).2 := by
  unfold incr Keyspace.get
  cases hfind : ks.find now k with
  | none => exact .inl rfl
  | some e => exact .inr (by rw [(Option.filter_eq_some_iff.mp hfind).1]; rfl)

theorem entries_of_incr {e : Entry Nat}
    (h : (incr ks now (key ip)).1.entries (key ip') = some e) :
    ip' = ip ∧ (incr ks now (key ip)).2 = 1 ∧ e.deadline = none ∨
      ∃ old, ks.entries (key ip') = some old ∧ old.deadline = e.deadline := by
  rw [entries_incr] at h
  by_cases hip : ip' = ip
  · subst hip
    rw [if_pos rfl] at h
    obtain rfl := Option.some.inj h
    cases hfind : ks.find now (key ip') with
    | none => exact .inl ⟨rfl, by simp [incr, Keyspace.get, hfind], rfl⟩
    | some old => exact .inr ⟨old, (Option.filter_eq_some_iff.mp hfind).1, rfl⟩
  · rw [if_neg hip] at h
    exact .inr ⟨e, h, rfl⟩

theorem value_expire : ((ks.expire now (key ip) window).entries k).map Entry.value =
    (ks.entries k).map Entry.value := by
  unfold Keyspace.expire
  cases hfind : ks.find now (key ip) with
  | none => rfl
  | some e =>
    by_cases hk : k = key ip
    · simp [Keyspace.put, hk, (Option.filter_eq_some_iff.mp hfind).1]
    · simp [Keyspace.put, hk]

theorem entries_of_expire {e : Entry Nat}
    (h : (ks.expire now (key ip) window).entries (key ip') = some e) :
    ip' = ip ∧ e.deadline = some (now + window) ∨
      ks.entries (key ip') = some e ∧ (ip' = ip → e.deadline ≠ none) := by
  unfold Keyspace.expire at h
  cases hfind : ks.find now (key ip) with
  | none =>
    rw [hfind] at h
    refine .inr ⟨h, ?_⟩
    rintro rfl hnone
    simp [Keyspace.find, h, Entry.alive, hnone] at hfind
  | some old =>
    rw [hfind] at h
    by_cases hip : ip' = ip
    · refine .inl ⟨hip, ?_⟩
      simp only [Keyspace.put, hip, update_self, Option.some.injEq] at h
      rw [← h]
    · refine .inr ⟨?_, fun heq => absurd heq hip⟩
      simpa [Keyspace.put, key_inj, hip] using h

/-- The counter has counted every call from the first of them on. -/
def Counting (ip : String) (events : List Event) (s : State) : Prop :=
  ∃ c n, 1 ≤ c ∧ counts ip events = List.range' c n ∧
    (n ≠ 0 → ∃ v, (s.keys.entries (key ip)).map Entry.value = some v ∧ v + 1 = c + n)

theorem counting_step (hstep : Step window s e t) (hone : 1 ∉ (counts ip (past ++ [e])).tail)
    (h : Counting ip past s) : Counting ip (past ++ [e]) t := by
  obtain ⟨c, n, hc, hcounts, hstored⟩ := h
  rw [counts_concat, hcounts] at hone
  unfold Counting
  rw [counts_concat, hcounts]
  cases hstep with
  | incr now ip' =>
    by_cases hip : ip' = ip
    · subst hip
      have hcount : counts ip' [.incr now ip' (incr s.keys now (key ip')).2] =
          [(incr s.keys now (key ip')).2] := by simp [counts]
      rw [hcount] at hone ⊢
      rw [entries_incr, if_pos rfl]
      cases n with
      | zero => exact ⟨_, 1, Nat.le_add_left 1 _, rfl, fun _ => ⟨_, rfl, rfl⟩⟩
      | succ n =>
        obtain ⟨v, hv, hvalue⟩ := hstored n.succ_ne_zero
        rcases incr_eq_one_or with hrestart | hnext
        · -- a counter that starts again gives a count of one
          rw [hrestart, List.range'_succ] at hone
          exact absurd (List.mem_append_right _ List.mem_cons_self) hone
        · have hnext : v + 1 = (incr s.keys now (key ip')).2 := by
            obtain ⟨e, he, rfl⟩ := Option.map_eq_some_iff.mp hv
            rw [he] at hnext
            exact Option.some.inj hnext
          refine ⟨c, n + 2, hc, ?_, fun _ => ⟨_, rfl, ?_⟩⟩
          · rw [← hnext, hvalue, List.range'_concat (n := n + 1), Nat.one_mul]
          · rw [← hnext, hvalue]
            rfl
    · rw [entries_incr, if_neg (Ne.symm hip)]
      exact ⟨c, n, hc, by simp [counts, hip], hstored⟩
  | expire now ip' ok _ =>
    refine ⟨c, n, hc, List.append_nil _, fun hn => ?_⟩
    obtain ⟨v, hv, hvalue⟩ := hstored hn
    refine ⟨v, ?_, hvalue⟩
    cases ok with
    | false => exact hv
    | true => exact value_expire.trans hv

theorem counting_run (hrun : Run (Step window) s events t)
    (hone : 1 ∉ (counts ip events).tail) : Counting ip events t := by
  refine hrun.history (I := fun past t => 1 ∉ (counts ip past).tail → Counting ip past t) ?_
    (fun _ => ⟨1, 0, Nat.le_refl 1, rfl, fun h => absurd rfl h⟩) hone
  intro past s e t hstep h hone
  refine counting_step hstep hone (h fun hmem => hone ?_)
  rw [counts_concat, List.tail_append]
  split
  · rename_i hnil
    rw [List.isEmpty_iff.mp hnil] at hmem
    cases hmem
  · exact List.mem_append_left _ hmem

theorem allowed_range' (limit : Int) {c : Nat} (n : Nat) (hc : 1 ≤ c) :
    ((List.range' c n).filter (allowed limit)).length ≤ limit.toNat := by
  have hsub : (List.range' c n).filter (allowed limit) ⊆ List.range' 1 limit.toNat := by
    intro count hcount
    obtain ⟨hmem, hle⟩ := List.mem_filter.mp hcount
    have hle : (count : Int) ≤ limit := of_decide_eq_true hle
    rw [List.mem_range'_1] at hmem ⊢
    omega
  have hnodup := (List.nodup_range' (s := c) (n := n)).filter (allowed limit)
  simpa using (List.subperm_of_subset hnodup hsub).length_le

/-- A key without a deadline waits for its `EXPIRE`; a deadline is a window after a command of the
address. -/
structure Expiring (window : Int) (past : List Event) (s : State) : Prop where
  waiting : ∀ ip e, s.keys.entries (key ip) = some e → e.deadline = none → ip ∈ s.pending
  dated : ∀ ip e d, s.keys.entries (key ip) = some e → e.deadline = some d →
    ∃ e ∈ past, e.ip = ip ∧ d = e.now + window

theorem expiring_step (hstep : Step window s e t) (hok : ∀ now ip, e ≠ .expire now ip false)
    (h : Expiring window past s) : Expiring window (past ++ [e]) t := by
  have hdated : ∀ ip entry d, s.keys.entries (key ip) = some entry → entry.deadline = some d →
      ∃ e' ∈ past ++ [e], e'.ip = ip ∧ d = e'.now + window := by
    intro ip entry d hentry hd
    obtain ⟨e', he', hold⟩ := h.dated ip entry d hentry hd
    exact ⟨e', List.mem_append_left _ he', hold⟩
  cases hstep with
  | incr now ip =>
    refine ⟨?_, ?_⟩
    · intro ip' entry hentry hnone
      rcases entries_of_incr hentry with ⟨rfl, hone, _⟩ | ⟨old, hold, hdeadline⟩
      · exact (if_pos hone).symm ▸ .head _
      · have hmem := h.waiting ip' old hold (hdeadline.trans hnone)
        split
        · exact List.mem_cons_of_mem _ hmem
        · exact hmem
    · intro ip' entry d hentry hd
      rcases entries_of_incr hentry with ⟨_, _, hnone⟩ | ⟨old, hold, hdeadline⟩
      · rw [hnone] at hd
        cases hd
      · exact hdated ip' old d hold (hdeadline.trans hd)
  | expire now ip ok hmem =>
    cases ok with
    | false => exact absurd rfl (hok now ip)
    | true =>
      refine ⟨?_, ?_⟩
      · intro ip' entry hentry hnone
        rcases entries_of_expire hentry with ⟨_, hd⟩ | ⟨hold, hip⟩
        · rw [hd] at hnone
          cases hnone
        · have hne : ip' ≠ ip := fun heq => hip heq hnone
          exact (List.mem_erase_of_ne hne).mpr (h.waiting ip' entry hold hnone)
      · intro ip' entry d hentry hd
        rcases entries_of_expire hentry with ⟨rfl, hnew⟩ | ⟨hold, _⟩
        · exact ⟨_, List.mem_append_right _ List.mem_cons_self, rfl,
            Option.some.inj (hd.symm.trans hnew)⟩
        · exact hdated ip' entry d hold hd

theorem expiring_run (hrun : Run (Step window) {} events s)
    (hok : ∀ now ip, .expire now ip false ∉ events) : Expiring window events s := by
  refine hrun.history (I := fun past s => (∀ now ip, .expire now ip false ∉ past) →
    Expiring window past s) ?_ (fun _ => ⟨nofun, nofun⟩) hok
  intro past s e t hstep h hok
  refine expiring_step hstep (fun now ip heq => hok now ip ?_)
    (h fun now ip hmem => hok now ip (List.mem_append_left _ hmem))
  exact List.mem_append_right _ (heq ▸ List.mem_cons_self)

theorem count_after_pause (h : Expiring window past s) (hpending : ip ∉ s.pending)
    (hpause : ∀ e ∈ past, e.ip = ip → e.now ≤ now - window) :
    (incr s.keys now (key ip)).2 = 1 := by
  have hfind : s.keys.find now (key ip) = none := by
    apply Option.filter_eq_none_iff.mpr
    intro entry hentry
    cases hd : entry.deadline with
    | none => exact absurd (h.waiting ip entry hentry hd) hpending
    | some d =>
      obtain ⟨e, he, hip, rfl⟩ := h.dated ip entry d hentry hd
      have := hpause e he hip
      simp only [Entry.alive, hd, decide_eq_true_eq]
      omega
  simp [incr, Keyspace.get, hfind]

end Steps

/-- While the counter does not start again, at most `limit` calls are allowed. If every `EXPIRE`
succeeded and none is outstanding, a call a window after the last command of its address is allowed.
-/
theorem allowRedis_limits {limit window : Int} {past events : List Event} {s t : State}
    (hpast : Run (Step window) {} past s) (hrun : Run (Step window) s events t)
    (hlimit : 1 ≤ limit) (ip : String) :
    (1 ∉ (counts ip events).tail →
      (((counts ip events).filter (allowed limit)).length : Int) ≤ limit) ∧
    ((∀ now ip, .expire now ip false ∉ past) → ip ∉ s.pending →
      ∀ now count s', (∀ e ∈ past, e.ip = ip → e.now ≤ now - window) →
        Step window s (.incr now ip count) s' → allowed limit count = true) := by
  refine ⟨?_, ?_⟩
  · intro hone
    obtain ⟨c, n, hc, hcounts, _⟩ := counting_run hrun hone
    have := allowed_range' limit n hc
    rw [hcounts]
    omega
  · intro hok hpending now count s' hpause hstep
    have hone := count_after_pause (expiring_run hpast hok) hpending hpause
    cases hstep
    rw [hone]
    exact decide_eq_true hlimit

theorem run_call : ∃ s, Run (Step 60) {} [.incr 0 "a" 1, .expire 0 "a" true] s ∧ s.pending = [] :=
  ⟨_, .cons (.incr 0 "a") (.cons (.expire 0 "a" true (by decide)) (.nil _)), rfl⟩

theorem allowed_after_pause : ∃ s, Run (Step 60) {} [.incr 0 "a" 1, .expire 0 "a" true] s ∧
    ∀ count s', Step 60 s (.incr 60 "a" count) s' → allowed 1 count = true := by
  obtain ⟨s, hrun, hpending⟩ := run_call
  refine ⟨s, hrun, fun count s' hstep => ?_⟩
  exact (allowRedis_limits hrun (.nil s) (by decide) "a").2 (by simp) (by simp [hpending]) 60 count
    s' (by simp [Event.now]) hstep

/-- Three calls around the end of a counter pass a limit of two, and after a failed `EXPIRE` a call
is refused however long the pause. -/
theorem allowRedis_not_sliding : (∃ s t,
      Run (Step 60) {} [.incr 0 "a" 1, .expire 0 "a" true] s ∧
      Run (Step 60) s [.incr 58 "a" 2, .incr 60 "a" 1, .incr 61 "a" 2] t) ∧
    ((counts "a" [.incr 58 "a" 2, .incr 60 "a" 1, .incr 61 "a" 2]).filter (allowed 2)).length = 3 ∧
    ∀ now, ∃ s t, Run (Step 60) {} [.incr 0 "a" 1, .expire 0 "a" false] s ∧
      Step 60 s (.incr now "a" 2) t ∧ allowed 1 2 = false := by
  refine ⟨?_, by decide, fun now => ?_⟩
  · exact ⟨_, _, .cons (.incr 0 "a") (.cons (.expire 0 "a" true (by decide)) (.nil _)),
      .cons (.incr 58 "a") (.cons (.incr 60 "a") (.cons (.incr 61 "a") (.nil _)))⟩
  · exact ⟨_, _, .cons (.incr 0 "a") (.cons (.expire 0 "a" false (by decide)) (.nil _)),
      .incr now "a", by decide⟩

end Outpost.RateLimiterRedis
