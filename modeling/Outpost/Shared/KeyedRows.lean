import Mathlib.Data.List.Nodup

/-!
# Rows with a unique key

`upsert` is `INSERT ... ON CONFLICT (key) DO UPDATE`: the row with the key of the new
one is updated, and where there is none the new row is added.
-/

namespace Outpost.KeyedRows

variable {α κ : Type} {key : α → κ} {rows : List α}

theorem nodup_append {row : α} (h : (rows.map key).Nodup) (hnew : ∀ r ∈ rows, key r ≠ key row) :
    ((rows ++ [row]).map key).Nodup := by
  rw [List.map_append]
  refine List.nodup_append.mpr ⟨h, List.nodup_singleton _, ?_⟩
  intro k hk k' hk' heq
  obtain ⟨r, hr, rfl⟩ := List.mem_map.mp hk
  exact hnew r hr (heq.trans (List.mem_singleton.mp hk'))

theorem nodup_map (h : (rows.map key).Nodup) {f : α → α} (hf : ∀ r, key (f r) = key r) :
    ((rows.map f).map key).Nodup := by
  rw [List.map_map, show key ∘ f = key from funext hf]
  exact h

variable [DecidableEq κ]

def upsert (key : α → κ) (row : α) (update : α → α) (rows : List α) : List α :=
  if ∃ r ∈ rows, key r = key row then rows.map fun r => if key r = key row then update r else r
  else rows ++ [row]

variable {row : α} {update : α → α}

theorem mem_upsert {r : α} : r ∈ upsert key row update rows ↔
    r ∈ rows ∧ key r ≠ key row ∨ (∃ old ∈ rows, key old = key row ∧ r = update old) ∨
      (∀ old ∈ rows, key old ≠ key row) ∧ r = row := by
  unfold upsert
  split
  · rename_i hexists
    obtain ⟨r₀, hr₀, hkey₀⟩ := hexists
    constructor
    · intro hr
      obtain ⟨old, hold, rfl⟩ := List.mem_map.mp hr
      by_cases hkey : key old = key row
      · rw [if_pos hkey]
        exact .inr (.inl ⟨old, hold, hkey, rfl⟩)
      · rw [if_neg hkey]
        exact .inl ⟨hold, hkey⟩
    · rintro (⟨hr, hkey⟩ | ⟨old, hold, hkey, rfl⟩ | ⟨hnone, _⟩)
      · exact List.mem_map.mpr ⟨r, hr, if_neg hkey⟩
      · exact List.mem_map.mpr ⟨old, hold, if_pos hkey⟩
      · exact absurd hkey₀ (hnone r₀ hr₀)
  · rename_i hnone
    push Not at hnone
    rw [List.mem_append, List.mem_singleton]
    constructor
    · rintro (hr | rfl)
      · exact .inl ⟨hr, hnone r hr⟩
      · exact .inr (.inr ⟨hnone, rfl⟩)
    · rintro (⟨hr, _⟩ | ⟨old, hold, hkey, _⟩ | ⟨_, rfl⟩)
      · exact .inl hr
      · exact absurd hkey (hnone old hold)
      · exact .inr rfl

theorem nodup_upsert_row (h : (rows.map key).Nodup)
    (hupdate : ∀ r, key r = key row → key (update r) = key r) :
    ((upsert key row update rows).map key).Nodup := by
  unfold upsert
  split
  · apply nodup_map h
    intro r
    split
    · rename_i hkey
      exact hupdate r hkey
    · rfl
  · rename_i hnone
    push Not at hnone
    exact nodup_append h hnone

theorem nodup_upsert (h : (rows.map key).Nodup) (hupdate : ∀ r, key (update r) = key r) :
    ((upsert key row update rows).map key).Nodup :=
  nodup_upsert_row h fun r _ => hupdate r

theorem find?_eq_some (h : (rows.map key).Nodup) {k : κ} {r : α} :
    (rows.find? fun r => key r = k) = some r ↔ r ∈ rows ∧ key r = k := by
  constructor
  · intro hfind
    exact ⟨List.mem_of_find?_eq_some hfind, by simpa using List.find?_some hfind⟩
  · rintro ⟨hr, rfl⟩
    cases hfind : rows.find? fun r' => key r' = key r with
    | none => exact absurd (decide_eq_true rfl) (List.find?_eq_none.mp hfind r hr)
    | some r' =>
      have hkey : key r' = key r := by simpa using List.find?_some hfind
      rw [List.inj_on_of_nodup_map h (List.mem_of_find?_eq_some hfind) hr hkey]

end Outpost.KeyedRows
