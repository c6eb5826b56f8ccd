import Mathlib.Data.List.Nodup
import Outpost.Shared.Runs

/-!
# The SIEM exporter

`exportBatch` exports the audit rows above its cursor in the order of their ids. An id is drawn
before its row commits. Rows are told apart by their ids; what is exported of them is left out.
-/

namespace Outpost.SiemExport

open Runs

inductive Target where
  | webhook
  | syslog
deriving DecidableEq

structure Config where
  (webhookURL syslogAddr : String)

def Config.configured (c : Config) : Target → Bool
  | .webhook => c.webhookURL ≠ ""
  | .syslog => c.syslogAddr ≠ ""

structure Batch where
  (read left : List Nat)
  maxID : Nat

inductive Phase where
  | idle
  | exporting (b : Batch)
  | saving (id : Nat)

structure State where
  nextID : Nat
  (pending committed : List Nat)
  lastID : Nat
  saved : Option Nat
  sent : List (Target × Nat)
  phase : Phase

inductive Event where
  | draw
  | commit (id : Nat)
  | rollback (id : Nat)
  | tick (answered : Bool)
  | unread
  | deliver (succeeds : Target → Bool)
  | cut
  | finish
  | save (succeeds : Bool)
  | restart (loaded : Bool)

def batchSize : Nat := 500

section Exporter

variable (c : Config)

def exportEvent (succeeds : Target → Bool) (id : Nat) : List (Target × Nat) × Bool :=
  let targets := [Target.webhook, Target.syslog].filter c.configured
  ((targets.filter succeeds).map fun t => (t, id), targets.all succeeds)

def query (s : State) : List Nat :=
  ((s.committed.filter fun id => s.lastID < id).mergeSort fun a b => a ≤ b).take batchSize

def Batch.next (b : Batch) (id : Nat) (rest : List Nat) (exported : Bool) : Batch :=
  if exported then ⟨b.read ++ [id], rest, if b.maxID < id then id else b.maxID⟩
  else ⟨b.read ++ [id], [], b.maxID⟩

end Exporter

/-! ### The steps

`exportBatch` is cut where others may come in between. -/

namespace State

variable (c : Config) (s : State)

def draw : State := { s with nextID := s.nextID + 1, pending := s.nextID :: s.pending }

def commit (id : Nat) : Option State :=
  if id ∈ s.pending then
    some { s with pending := s.pending.erase id, committed := s.committed ++ [id] }
  else none

def rollback (id : Nat) : Option State :=
  if id ∈ s.pending then some { s with pending := s.pending.erase id } else none

def tick (answered : Bool) : Option State :=
  match s.phase with
  | .idle =>
    if c.configured .webhook = false ∧ c.configured .syslog = false then some s
    else if answered then some { s with phase := .exporting ⟨[], query s, 0⟩ }
    else some s
  | _ => none

def unread : Option State :=
  match s.phase with
  | .exporting ⟨read, _ :: rest, maxID⟩ =>
    some { s with phase := .exporting ⟨read, rest, maxID⟩ }
  | _ => none

def deliver (succeeds : Target → Bool) : Option State :=
  match s.phase with
  | .exporting ⟨read, id :: rest, maxID⟩ =>
    let result := exportEvent c succeeds id
    some { s with
      sent := s.sent ++ result.1
      phase := .exporting (Batch.next ⟨read, id :: rest, maxID⟩ id rest result.2) }
  | _ => none

def cut : Option State :=
  match s.phase with
  | .exporting ⟨read, _, maxID⟩ => some { s with phase := .exporting ⟨read, [], maxID⟩ }
  | _ => none

def finish : Option State :=
  match s.phase with
  | .exporting ⟨_, [], maxID⟩ =>
    if 0 < maxID then some { s with lastID := maxID, phase := .saving maxID }
    else some { s with phase := .idle }
  | _ => none

/-- `saveCursor` -/
def save (succeeds : Bool) : Option State :=
  match s.phase with
  | .saving id => some { s with saved := if succeeds then some id else s.saved, phase := .idle }
  | _ => none

/-- A new exporter starts from 0, and `loadCursor` leaves it there when it fails. -/
def restart (loaded : Bool) : State :=
  { s with lastID := if loaded then s.saved.getD 0 else 0, phase := .idle }

end State

def step (c : Config) (s : State) : Event → Option State
  | .draw => some s.draw
  | .commit id => s.commit id
  | .rollback id => s.rollback id
  | .tick answered => s.tick c answered
  | .unread => s.unread
  | .deliver succeeds => s.deliver c succeeds
  | .cut => s.cut
  | .finish => s.finish
  | .save succeeds => s.save succeeds
  | .restart loaded => some (s.restart loaded)

def Step (c : Config) (s : State) (e : Event) (t : State) : Prop := step c s e = some t

def installed : State := ⟨1, [], [], 0, none, [], .idle⟩

def Exported (c : Config) (sent : List (Target × Nat)) (id : Nat) : Prop :=
  ∀ target, c.configured target = true → (target, id) ∈ sent

def Covered (c : Config) (s : State) (cursor : Nat) : Prop :=
  ∀ id ∈ s.committed, id ≤ cursor → Exported c s.sent id

/-- A row does not commit after the exporter has passed its id: neither below the cursor, in memory
or stored, nor, while a batch runs, below its last row to export; and no row below that one was left
unread. -/
def InTime (s : State) : Event → Prop
  | .commit id => s.lastID < id ∧ ∀ cursor, s.saved = some cursor → cursor < id
  | .finish => ∀ b, s.phase = .exporting b →
      ∀ id ∈ s.committed, s.lastID < id → id ≤ b.maxID → id ∈ b.read
  | _ => True

/-- The ids of the table and of the transactions in flight are those of the sequence. -/
structure Sequenced (nextID : Nat) (ids : List Nat) : Prop where
  nodup : ids.Nodup
  below : ∀ id ∈ ids, id < nextID

/-- The rows left are in order and above what was exported, and what was read was exported,
the row apart at which the loop has ended. -/
structure Batch.Sound (c : Config) (sent : List (Target × Nat)) (b : Batch) : Prop where
  ordered : b.left.Pairwise (· < ·)
  above : ∀ id ∈ b.left, b.maxID < id
  exported : ∀ id ∈ b.read, Exported c sent id ∨ b.maxID < id ∧ b.left = []

def Phase.Sound (c : Config) (s : State) : Phase → Prop
  | .idle => True
  | .exporting b => b.Sound c s.sent
  | .saving id => id = s.lastID

structure Sound (c : Config) (s : State) : Prop where
  sequenced : Sequenced s.nextID (s.pending ++ s.committed)
  phase : s.phase.Sound c s
  covered : Covered c s s.lastID
  stored : ∀ cursor, s.saved = some cursor → Covered c s cursor

section Invariants

variable {c : Config} {s t : State}

variable {nextID id : Nat} {ids ids' : List Nat} {succeeds : Target → Bool}

theorem sequenced_draw (h : Sequenced nextID ids) : Sequenced (nextID + 1) (nextID :: ids) := by
  refine ⟨List.nodup_cons.mpr ⟨fun hmem => Nat.lt_irrefl _ (h.below _ hmem), h.nodup⟩, ?_⟩
  intro id hid
  rcases List.mem_cons.mp hid with rfl | hid
  · exact Nat.lt_succ_self id
  · exact Nat.lt_succ_of_lt (h.below id hid)

theorem Sequenced.perm (h : Sequenced nextID ids) (hperm : ids'.Perm ids) : Sequenced nextID ids' :=
  ⟨hperm.nodup_iff.mpr h.nodup, fun id hid => h.below id (hperm.mem_iff.mp hid)⟩

theorem Sequenced.sublist (h : Sequenced nextID ids) (hsub : ids'.Sublist ids) :
    Sequenced nextID ids' :=
  ⟨h.nodup.sublist hsub, fun id hid => h.below id (hsub.subset hid)⟩

theorem perm_commit {pending committed : List Nat} (h : id ∈ pending) :
    (pending.erase id ++ (committed ++ [id])).Perm (pending ++ committed) := by
  have hperm : (id :: pending.erase id).Perm pending := (List.perm_cons_erase h).symm
  rw [← List.append_assoc]
  exact (List.perm_append_singleton id _).trans (hperm.append_right committed)

theorem exported_mono {sent sent' : List (Target × Nat)} (h : Exported c sent id) :
    Exported c (sent ++ sent') id :=
  fun target hconfigured => List.mem_append_left _ (h target hconfigured)

theorem exported_of_exportEvent (h : (exportEvent c succeeds id).2 = true)
    (sent : List (Target × Nat)) : Exported c (sent ++ (exportEvent c succeeds id).1) id := by
  intro target hconfigured
  have htarget : target ∈ [Target.webhook, Target.syslog].filter c.configured := by
    refine List.mem_filter.mpr ⟨?_, hconfigured⟩
    cases target <;> simp
  apply List.mem_append_right
  apply List.mem_map.mpr
  exact ⟨target, List.mem_filter.mpr ⟨htarget, List.all_eq_true.mp h target htarget⟩, rfl⟩

theorem query_ordered (h : Sequenced nextID (s.pending ++ s.committed)) :
    (query s).Pairwise (· < ·) := by
  have hnodup : (s.committed.filter fun id => s.lastID < id).Nodup :=
    (List.nodup_append.mp h.nodup).2.1.filter _
  have hsorted : ((s.committed.filter fun id => s.lastID < id).mergeSort fun a b => a ≤ b).Pairwise
      fun a b => decide (a ≤ b) = true :=
    List.pairwise_mergeSort (by simpa using fun a b c => Nat.le_trans)
      (by simpa using Nat.le_total) _
  have hdistinct := (List.mergeSort_perm (s.committed.filter fun id => s.lastID < id)
    fun a b => a ≤ b).nodup_iff.mpr hnodup
  refine List.Pairwise.sublist (List.take_sublist _ _) ((hsorted.and hdistinct).imp ?_)
  intro a b hab
  exact Nat.lt_of_le_of_ne (of_decide_eq_true hab.1) hab.2

theorem lastID_lt_of_mem_query (h : id ∈ query s) : s.lastID < id := by
  have hmem := List.mem_mergeSort.mp (List.mem_of_mem_take h)
  exact of_decide_eq_true (List.mem_filter.mp hmem).2

theorem sound_query (h : Sequenced nextID (s.pending ++ s.committed)) :
    Batch.Sound c s.sent ⟨[], query s, 0⟩ where
  ordered := query_ordered h
  above _ hid := Nat.zero_lt_of_lt (lastID_lt_of_mem_query hid)
  exported _ hid := absurd hid List.not_mem_nil

section Rows

variable {maxID id : Nat} {sent : List (Target × Nat)} {read rest left : List Nat}

theorem Batch.Sound.unread (h : Batch.Sound c sent ⟨read, id :: rest, maxID⟩) :
    Batch.Sound c sent ⟨read, rest, maxID⟩ := by
  refine ⟨h.ordered.of_cons, fun id hid => h.above id (List.mem_cons_of_mem _ hid), ?_⟩
  intro id hid
  rcases h.exported id hid with hexported | ⟨_, hleft⟩
  · exact .inl hexported
  · cases hleft

theorem Batch.Sound.cut (h : Batch.Sound c sent ⟨read, left, maxID⟩) :
    Batch.Sound c sent ⟨read, [], maxID⟩ := by
  refine ⟨.nil, fun _ hid => absurd hid List.not_mem_nil, ?_⟩
  intro id hid
  rcases h.exported id hid with hexported | ⟨hlt, _⟩
  · exact .inl hexported
  · exact .inr ⟨hlt, rfl⟩

theorem Batch.Sound.deliver (h : Batch.Sound c sent ⟨read, id :: rest, maxID⟩)
    (succeeds : Target → Bool) :
    Batch.Sound c (sent ++ (exportEvent c succeeds id).1)
      (Batch.next ⟨read, id :: rest, maxID⟩ id rest (exportEvent c succeeds id).2) := by
  have hmax : maxID < id := h.above id List.mem_cons_self
  have hread : ∀ id' ∈ read, Exported c (sent ++ (exportEvent c succeeds id).1) id' := by
    intro id' hid'
    rcases h.exported id' hid' with hexported | ⟨_, hleft⟩
    · exact exported_mono hexported
    · cases hleft
  unfold Batch.next
  split
  · rename_i hexported
    refine ⟨h.ordered.of_cons, fun id' hid' => List.rel_of_pairwise_cons h.ordered hid', ?_⟩
    intro id' hid'
    rcases List.mem_append.mp hid' with hid' | hid'
    · exact .inl (hread id' hid')
    · obtain rfl := List.mem_singleton.mp hid'
      exact .inl (exported_of_exportEvent hexported sent)
  · refine ⟨.nil, fun _ hid => absurd hid List.not_mem_nil, ?_⟩
    intro id' hid'
    rcases List.mem_append.mp hid' with hid' | hid'
    · exact .inl (hread id' hid')
    · obtain rfl := List.mem_singleton.mp hid'
      exact .inr ⟨hmax, rfl⟩

end Rows

theorem sound_draw (h : Sound c s) : Sound c s.draw :=
  ⟨sequenced_draw h.sequenced, h.phase, h.covered, h.stored⟩

theorem sound_commit (hstep : s.commit id = some t) (hguard : InTime s (.commit id)) (h : Sound c s)
    :
    Sound c t := by
  unfold State.commit at hstep
  split at hstep
  · rename_i hid
    obtain rfl := Option.some.inj hstep
    have hcovered : ∀ cursor, cursor < id → Covered c s cursor →
        ∀ id' ∈ s.committed ++ [id], id' ≤ cursor → Exported c s.sent id' := by
      intro cursor hlt hcovered id' hid' hle
      rcases List.mem_append.mp hid' with hid' | hid'
      · exact hcovered id' hid' hle
      · obtain rfl := List.mem_singleton.mp hid'
        exact absurd hle (Nat.not_le_of_lt hlt)
    refine ⟨h.sequenced.perm (perm_commit hid), h.phase, hcovered _ hguard.1 h.covered, ?_⟩
    intro cursor hsaved
    exact hcovered cursor (hguard.2 cursor hsaved) (h.stored cursor hsaved)
  · cases hstep

theorem sound_rollback (hstep : s.rollback id = some t) (h : Sound c s) : Sound c t := by
  unfold State.rollback at hstep
  split at hstep
  · obtain rfl := Option.some.inj hstep
    exact ⟨h.sequenced.sublist (List.erase_sublist.append_right _), h.phase, h.covered, h.stored⟩
  · cases hstep

theorem sound_tick {answered : Bool} (hstep : s.tick c answered = some t) (h : Sound c s) :
    Sound c t := by
  unfold State.tick at hstep
  split at hstep
  · split at hstep
    · obtain rfl := Option.some.inj hstep
      exact h
    · split at hstep
      · obtain rfl := Option.some.inj hstep
        exact ⟨h.sequenced, sound_query h.sequenced, h.covered, h.stored⟩
      · obtain rfl := Option.some.inj hstep
        exact h
  · cases hstep

theorem Sound.batch {b : Batch} (h : Sound c s) (hphase : s.phase = .exporting b) :
    b.Sound c s.sent := by
  have hsound := h.phase
  rw [hphase] at hsound
  exact hsound

theorem sound_unread (hstep : s.unread = some t) (h : Sound c s) : Sound c t := by
  unfold State.unread at hstep
  split at hstep
  · rename_i hphase
    obtain rfl := Option.some.inj hstep
    exact ⟨h.sequenced, Batch.Sound.unread (h.batch hphase), h.covered, h.stored⟩
  · cases hstep

theorem sound_deliver (hstep : s.deliver c succeeds = some t) (h : Sound c s) : Sound c t := by
  unfold State.deliver at hstep
  split at hstep
  · rename_i hphase
    obtain rfl := Option.some.inj hstep
    refine ⟨h.sequenced, Batch.Sound.deliver (h.batch hphase) succeeds, ?_, ?_⟩
    · intro id hid hle
      exact exported_mono (h.covered id hid hle)
    · intro cursor hsaved id hid hle
      exact exported_mono (h.stored cursor hsaved id hid hle)
  · cases hstep

theorem sound_cut (hstep : s.cut = some t) (h : Sound c s) : Sound c t := by
  unfold State.cut at hstep
  split at hstep
  · rename_i hphase
    obtain rfl := Option.some.inj hstep
    exact ⟨h.sequenced, Batch.Sound.cut (h.batch hphase), h.covered, h.stored⟩
  · cases hstep

theorem sound_finish (hstep : s.finish = some t) (hguard : InTime s .finish) (h : Sound c s) :
    Sound c t := by
  unfold State.finish at hstep
  split at hstep
  · rename_i read maxID hphase
    split at hstep
    · obtain rfl := Option.some.inj hstep
      refine ⟨h.sequenced, rfl, ?_, h.stored⟩
      intro id hid hle
      rcases Nat.lt_or_ge s.lastID id with hlt | hge
      · have hread := hguard _ hphase id hid hlt hle
        rcases (h.batch hphase).exported id hread with hexported | ⟨hgt, _⟩
        · exact hexported
        · exact absurd hle (Nat.not_le_of_lt hgt)
      · exact h.covered id hid hge
    · obtain rfl := Option.some.inj hstep
      exact ⟨h.sequenced, trivial, h.covered, h.stored⟩
  · cases hstep

theorem sound_save {succeeds : Bool} (hstep : s.save succeeds = some t) (h : Sound c s) :
    Sound c t := by
  unfold State.save at hstep
  split at hstep
  · rename_i id hphase
    have hid : id = s.lastID := by
      have hsaving := h.phase
      rw [hphase] at hsaving
      exact hsaving
    obtain rfl := Option.some.inj hstep
    refine ⟨h.sequenced, trivial, h.covered, ?_⟩
    intro cursor hsaved
    split at hsaved
    · obtain rfl := Option.some.inj hsaved
      exact hid ▸ h.covered
    · exact h.stored cursor hsaved
  · cases hstep

theorem sound_restart (loaded : Bool) (h : Sound c s) : Sound c (s.restart loaded) := by
  have hzero : Covered c s 0 := by
    intro id hid hle
    exact h.covered id hid (Nat.le_trans hle (Nat.zero_le _))
  refine ⟨h.sequenced, trivial, ?_, h.stored⟩
  show Covered c s (if loaded then s.saved.getD 0 else 0)
  split
  · cases hsaved : s.saved with
    | none => exact hzero
    | some cursor => exact h.stored cursor hsaved
  · exact hzero

theorem sound_step {e : Event} (hstep : Guarded (Step c) InTime s e t) (h : Sound c s) :
    Sound c t := by
  obtain ⟨hstep, hguard⟩ := hstep
  cases e with
  | draw =>
    obtain rfl := Option.some.inj hstep
    exact sound_draw h
  | commit id => exact sound_commit hstep hguard h
  | rollback id => exact sound_rollback hstep h
  | tick answered => exact sound_tick hstep h
  | unread => exact sound_unread hstep h
  | deliver succeeds => exact sound_deliver hstep h
  | cut => exact sound_cut hstep h
  | finish => exact sound_finish hstep hguard h
  | save succeeds => exact sound_save hstep h
  | restart loaded =>
    obtain rfl := Option.some.inj hstep
    exact sound_restart loaded h

end Invariants

def drawn (committed pending : List Nat) : State := ⟨3, pending, committed, 0, none, [], .idle⟩

def accepted : Event := .deliver fun _ => true

end Outpost.SiemExport
