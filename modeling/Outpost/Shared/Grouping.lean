import Mathlib.Algebra.BigOperators.Group.List.Basic
import Mathlib.Data.List.Dedup

/-!
# Rows in groups

`groupBy key rows` is `GROUP BY`: one group for each value of the key that some row has.
-/

namespace Outpost.Grouping

variable {α κ M : Type} [DecidableEq κ] {key : α → κ} {rows : List α}

def groupBy (key : α → κ) (rows : List α) : List (κ × List α) :=
  (rows.map key).dedup.map fun k => (k, rows.filter fun r => key r = k)

section Sums

variable [AddCommMonoid M] (f : α → M)

omit [DecidableEq κ] in
theorem sum_filter_or {p q : α → Bool} (hdisjoint : ∀ a, p a = true → q a = false) :
    ((rows.filter fun a => p a || q a).map f).sum =
      ((rows.filter p).map f).sum + ((rows.filter q).map f).sum := by
  induction rows with
  | nil => simp
  | cons a rows ih =>
    cases hp : p a with
    | true => simp [hp, hdisjoint a hp, ih, add_assoc]
    | false =>
      cases hq : q a with
      | true => simp [hp, hq, ih, add_left_comm]
      | false => simp [hp, hq, ih]

theorem sum_keys {keys : List κ} (hnodup : keys.Nodup) :
    (keys.map fun k => ((rows.filter fun r => key r = k).map f).sum).sum =
      ((rows.filter fun r => key r ∈ keys).map f).sum := by
  induction keys with
  | nil => simp
  | cons k keys ih =>
    obtain ⟨hk, hnodup⟩ := List.nodup_cons.mp hnodup
    have hdisjoint : ∀ r, decide (key r = k) = true → decide (key r ∈ keys) = false := by
      intro r hr
      rw [of_decide_eq_true hr]
      exact decide_eq_false hk
    rw [List.map_cons, List.sum_cons, ih hnodup, ← sum_filter_or f hdisjoint]
    simp

theorem sum_groupBy : ((groupBy key rows).map fun g => (g.2.map f).sum).sum = (rows.map f).sum := by
  have hall : (rows.filter fun r => key r ∈ (rows.map key).dedup) = rows := by
    rw [List.filter_eq_self]
    intro r hr
    exact decide_eq_true (List.mem_dedup.mpr (List.mem_map_of_mem hr))
  rw [groupBy, List.map_map]
  exact (sum_keys f (List.nodup_dedup _)).trans (by rw [hall])

end Sums

theorem groupBy_of_const {k : κ} (hne : rows ≠ []) (h : ∀ r ∈ rows, key r = k) :
    groupBy key rows = [(k, rows)] := by
  have hkeys : (rows.map key).dedup = [k] := by
    rw [List.map_congr_left h, List.map_const']
    exact List.replicate_dedup (by simpa using hne)
  have hall : (rows.filter fun r => key r = k) = rows := by
    rw [List.filter_eq_self]
    intro r hr
    exact decide_eq_true (h r hr)
  rw [groupBy, hkeys, List.map_singleton, hall]

end Outpost.Grouping
