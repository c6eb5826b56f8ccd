import Mathlib.Data.List.Perm.Basic
import Mathlib.Order.Lattice

/-!
# Slices

Idioms of loops over Go slices: a filter that writes what it keeps over the array that it reads,
and `sort.Slice`, which leaves elements of equal rank in any order.
-/

namespace Outpost.Slices

variable {α : Type}

/-- `kept := array[:0]`, then `kept = append(kept, a)`: `i` is the next element to read, `k` the
next place to write. -/
def keepLoop (keep : α → Bool) : Nat → Nat → Nat → List α → List α
  | 0, _, k, array => array.take k
  | n + 1, i, k, array =>
    match array[i]? with
    | none => array.take k
    | some a =>
      if keep a then keepLoop keep n (i + 1) (k + 1) (array.set k a)
      else keepLoop keep n (i + 1) k array

def keepInPlace (keep : α → Bool) (array : List α) : List α := keepLoop keep array.length 0 0 array

theorem keepLoop_eq {keep : α → Bool} {n i k : Nat} {array : List α} (hk : k ≤ i)
    (hn : i + n = array.length) :
    keepLoop keep n i k array = array.take k ++ (array.drop i).filter keep := by
  induction n generalizing i k array with
  | zero =>
    have hdrop : array.drop i = [] := List.drop_eq_nil_of_le (Nat.le_of_eq hn.symm)
    rw [keepLoop, hdrop, List.filter_nil, List.append_nil]
  | succ n ih =>
    have hi : i < array.length := by omega
    rw [keepLoop, List.getElem?_eq_getElem hi, List.drop_eq_getElem_cons hi]
    dsimp only
    cases hkeep : keep array[i] with
    | true =>
      have htake : (array.set k array[i]).take (k + 1) = array.take k ++ [array[i]] := by
        have hlt : k < (array.set k array[i]).length := by
          rw [List.length_set]
          omega
        rw [List.take_succ_eq_append_getElem hlt, List.take_set_of_le (Nat.le_refl k),
          List.getElem_set_self]
      rw [if_pos rfl, ih (by omega) (by rw [List.length_set]; omega), htake,
        List.drop_set_of_lt (by omega), List.filter_cons_of_pos hkeep, List.append_assoc,
        List.singleton_append]
    | false =>
      rw [if_neg (by simp), ih (by omega) (by omega), List.filter_cons_of_neg (by simp [hkeep])]

theorem keepInPlace_eq (keep : α → Bool) (array : List α) :
    keepInPlace keep array = array.filter keep := by
  rw [keepInPlace, keepLoop_eq (Nat.le_refl 0) (Nat.zero_add _)]
  rfl

variable {κ : Type} [LinearOrder κ] (key : α → κ)

/-- `sort.Slice` by a key. -/
structure Sorting where
  sort : List α → List α
  perm : ∀ l, (sort l).Perm l
  sorted : ∀ l, (sort l).Pairwise fun a b => key a ≤ key b

structure SameUpToTies (l l' : List α) : Prop where
  keys : l.map key = l'.map key
  ties : ∀ k, (l.filter fun a => key a = k).Perm (l'.filter fun a => key a = k)

variable {key} {l l' : List α}

theorem sameUpToTies_of_perm (hperm : l.Perm l') (hl : l.Pairwise fun a b => key a ≤ key b)
    (hl' : l'.Pairwise fun a b => key a ≤ key b) : SameUpToTies key l l' where
  keys := (hperm.map key).eq_of_pairwise (fun _ _ _ _ h h' => le_antisymm h h')
    (List.pairwise_map.mpr hl) (List.pairwise_map.mpr hl')
  ties := fun _ => hperm.filter _

theorem key_le_of_find? {p : α → Bool} {a b : α} (hl : l.Pairwise fun a b => key a ≤ key b)
    (hfind : l.find? p = some a) (hb : b ∈ l) (hp : p b = true) : key a ≤ key b := by
  obtain ⟨_, before, after, rfl, hbefore⟩ := List.find?_eq_some_iff_append.mp hfind
  obtain ⟨_, hrest, _⟩ := List.pairwise_append.mp hl
  rcases List.mem_append.mp hb with hb | hb
  · have hnot := hbefore b hb
    rw [hp] at hnot
    cases hnot
  · rcases List.mem_cons.mp hb with rfl | hb
    · exact le_refl _
    · exact (List.pairwise_cons.mp hrest).1 b hb

end Outpost.Slices
