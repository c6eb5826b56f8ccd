import Mathlib.Data.List.Basic
import Mathlib.Logic.Function.Basic

/-!
# Keys with a time to live

The commands of a Redis database. A key may have a deadline, from which on it is gone.
Each command runs at one instant.
-/

namespace Outpost

open Function

structure Entry (ν : Type) where
  value : ν
  deadline : Option Int

def Entry.alive {ν : Type} (e : Entry ν) (now : Int) : Bool :=
  match e.deadline with
  | none => true
  | some d => now < d

structure Keyspace (ν : Type) where
  entries : String → Option (Entry ν)

namespace Keyspace

variable {ν α : Type}

def empty : Keyspace ν := ⟨fun _ => none⟩

def find (ks : Keyspace ν) (now : Int) (k : String) : Option (Entry ν) :=
  (ks.entries k).filter fun e => e.alive now

def get (ks : Keyspace ν) (now : Int) (k : String) : Option ν := (ks.find now k).map Entry.value

def put (ks : Keyspace ν) (k : String) (e : Entry ν) : Keyspace ν :=
  ⟨update ks.entries k (some e)⟩

def del (ks : Keyspace ν) (k : String) : Keyspace ν := ⟨update ks.entries k none⟩

def delAll (ks : Keyspace ν) (keys : List String) : Keyspace ν := keys.foldl del ks

/-- `SET`, as the Go client sends it: a positive duration becomes a deadline, and -1 keeps the old
one. -/
def set (ks : Keyspace ν) (now : Int) (k : String) (value : ν) (ttl : Int) : Keyspace ν :=
  ks.put k ⟨value, if 0 < ttl then some (now + ttl)
    else if ttl = -1 then (ks.find now k).bind Entry.deadline else none⟩

def expire (ks : Keyspace ν) (now : Int) (k : String) (ttl : Int) : Keyspace ν :=
  match ks.find now k with
  | none => ks
  | some e => ks.put k { e with deadline := some (now + ttl) }

section Sets

variable [DecidableEq α]

def sAdd (ks : Keyspace (List α)) (now : Int) (k : String) (a : α) : Keyspace (List α) :=
  match ks.find now k with
  | none => ks.put k ⟨[a], none⟩
  | some e => ks.put k { e with value := e.value.insert a }

def sRem (ks : Keyspace (List α)) (now : Int) (k : String) (a : α) : Keyspace (List α) :=
  match ks.find now k with
  | none => ks
  | some e =>
    if e.value.filter (· ≠ a) = [] then ks.del k
    else ks.put k { e with value := e.value.filter (· ≠ a) }

def sMembers (ks : Keyspace (List α)) (now : Int) (k : String) : List α :=
  (ks.get now k).getD []

end Sets

variable (ks : Keyspace ν) {now now' : Int} {k k' : String}

theorem find_put (e : Entry ν) : (ks.put k e).find now k' =
    if k' = k then (some e).filter fun e => e.alive now else ks.find now k' := by
  unfold find put
  by_cases h : k' = k
  · simp [h]
  · simp [h]

theorem find_del : (ks.del k).find now k' = if k' = k then none else ks.find now k' := by
  unfold find del
  by_cases h : k' = k
  · simp [h]
  · simp [h]

theorem find_delAll (keys : List String) :
    (ks.delAll keys).find now k = if k ∈ keys then none else ks.find now k := by
  unfold delAll
  induction keys generalizing ks with
  | nil => simp
  | cons k' keys ih =>
    rw [List.foldl_cons, ih, find_del]
    by_cases hk : k = k'
    · simp [hk]
    · simp [hk]

variable {ks}
variable {e : Entry ν} {value : ν} {ttl : Int}

theorem alive_of_find (h : ks.find now k = some e) : e.alive now = true :=
  (Option.filter_eq_some_iff.mp h).2

theorem lt_of_find {d : Int} (h : ks.find now k = some e) (hd : e.deadline = some d) : now < d := by
  have halive := alive_of_find h
  simp only [Entry.alive, hd] at halive
  exact of_decide_eq_true halive

theorem find_of_le (hle : now ≤ now') (h : ks.find now' k = some e) : ks.find now k = some e := by
  obtain ⟨hentry, halive⟩ := Option.filter_eq_some_iff.mp h
  refine Option.filter_eq_some_iff.mpr ⟨hentry, ?_⟩
  unfold Entry.alive at halive ⊢
  cases hd : e.deadline with
  | none => rfl
  | some d =>
    simp only [hd, decide_eq_true_eq] at halive ⊢
    omega

theorem find_later {d : Int} (h : ks.find now k = some e) (hd : e.deadline = some d)
    (hlt : now' < d) : ks.find now' k = some e := by
  refine Option.filter_eq_some_iff.mpr ⟨(Option.filter_eq_some_iff.mp h).1, ?_⟩
  simp only [Entry.alive, hd]
  exact decide_eq_true hlt

theorem find_put_alive (h : e.alive now = true) :
    (ks.put k e).find now k' = if k' = k then some e else ks.find now k' := by
  rw [find_put, Option.filter_some, if_pos h]

theorem find_put_value (h : ks.find now k = some e) (value : ν) :
    (ks.put k { e with value := value }).find now k' =
      if k' = k then some { e with value := value } else ks.find now k' := by
  have halive := alive_of_find h
  exact find_put_alive halive

theorem alive_add (h : 0 < ttl) : (⟨value, some (now + ttl)⟩ : Entry ν).alive now = true :=
  decide_eq_true (Int.lt_add_of_pos_right now h)

theorem find_set (h : 0 < ttl) : (ks.set now k value ttl).find now k' =
    if k' = k then some ⟨value, some (now + ttl)⟩ else ks.find now k' := by
  rw [set, if_pos h, find_put_alive (alive_add h)]

theorem find_set_of_ne (h : k' ≠ k) : (ks.set now k value ttl).find now k' = ks.find now k' := by
  rw [set, find_put, if_neg h]

theorem value_of_find_set (h : (ks.set now k value ttl).find now k = some e) : e.value = value := by
  rw [set, find_put, if_pos rfl] at h
  rw [← Option.some.inj (Option.filter_eq_some_iff.mp h).1]

theorem mem_sMembers {sets : Keyspace (List α)} {a : α} :
    a ∈ sets.sMembers now k ↔ ∃ e, sets.find now k = some e ∧ a ∈ e.value := by
  unfold sMembers get
  cases h : sets.find now k with
  | _ => simp

variable [DecidableEq α] {sets : Keyspace (List α)} {a b : α}

theorem find_sAdd_expire {ttl : Int} (h : 0 < ttl) :
    ((sets.sAdd now k a).expire now k ttl).find now k' =
      if k' = k then some ⟨(sets.sMembers now k).insert a, some (now + ttl)⟩
      else sets.find now k' := by
  have hexpire : ∀ e : Entry (List α), e.alive now = true →
      ((sets.put k e).expire now k ttl).find now k' =
        if k' = k then some ⟨e.value, some (now + ttl)⟩ else sets.find now k' := by
    intro e he
    rw [expire, find_put_alive he, if_pos rfl]
    rw [find_put_alive (alive_add h), find_put_alive he]
    by_cases hk : k' = k
    · simp [hk]
    · simp [hk]
  unfold sAdd sMembers get
  cases hfind : sets.find now k with
  | none => exact hexpire ⟨[a], none⟩ rfl
  | some e =>
    exact hexpire { e with value := e.value.insert a } (alive_of_find hfind : e.alive now = true)

theorem find_of_sRem {e : Entry (List α)} (h : (sets.sRem now k a).find now k' = some e) :
    ∃ e', sets.find now k' = some e' ∧ e.deadline = e'.deadline ∧ e.value.Sublist e'.value := by
  unfold sRem at h
  cases hfind : sets.find now k with
  | none =>
    rw [hfind] at h
    exact ⟨e, h, rfl, .refl _⟩
  | some e' =>
    rw [hfind] at h
    dsimp only at h
    split at h
    · rw [find_del] at h
      split at h
      · cases h
      · exact ⟨e, h, rfl, .refl _⟩
    · rw [find_put_value hfind] at h
      split at h
      · rename_i hk
        obtain rfl := Option.some.inj h
        rw [hk]
        exact ⟨e', hfind, rfl, List.filter_sublist⟩
      · exact ⟨e, h, rfl, .refl _⟩

theorem find_sRem {e : Entry (List α)} (h : sets.find now k' = some e) (hb : b ∈ e.value)
    (hne : b ≠ a) : ∃ e', (sets.sRem now k a).find now k' = some e' ∧ e'.deadline = e.deadline ∧
      b ∈ e'.value := by
  unfold sRem
  cases hfind : sets.find now k with
  | none => exact ⟨e, h, rfl, hb⟩
  | some e₀ =>
    dsimp only
    by_cases hk : k' = k
    · obtain rfl := Option.some.inj (h.symm.trans (hk ▸ hfind))
      have hmem : b ∈ e.value.filter (· ≠ a) := List.mem_filter.mpr ⟨hb, decide_eq_true hne⟩
      rw [if_neg (List.ne_nil_of_mem hmem), find_put_value hfind, if_pos hk]
      exact ⟨_, rfl, rfl, hmem⟩
    · split
      · rw [find_del, if_neg hk]
        exact ⟨e, h, rfl, hb⟩
      · rw [find_put_value hfind, if_neg hk]
        exact ⟨e, h, rfl, hb⟩

end Keyspace

end Outpost
