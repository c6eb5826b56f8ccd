import Outpost.Shared.GoMap

/-!
# Rows that are sorted on part of their columns

A query with an `ORDER BY` on some columns returns its rows in any order that agrees with it: any
reordering of the rows, followed by a stable sort.
-/

namespace Outpost.RangeOrder

variable {α β : Type}

theorem exists_visit [DecidableEq α] {l l' : List α} (h : l'.Perm l) :
    ∃ o : RangeOrder α, o.visit l = l' := by
  refine ⟨⟨fun m => if m = l then l' else m, ?_⟩, if_pos rfl⟩
  intro m
  split
  · rename_i heq
    rw [heq]
    exact h
  · exact .refl m

theorem sorted_perm (le : α → α → Bool) (o : RangeOrder α) (rows : List α) :
    ((o.visit rows).mergeSort le).Perm rows :=
  (List.mergeSort_perm _ le).trans (o.perm rows)

section Sorted

variable (le : α → α → Bool) (f : α → Option β)

def readSorted (o : RangeOrder α) (rows : List α) : List β :=
  ((o.visit rows).mergeSort le).filterMap f

theorem filterMap_eq_filter (l : List α) :
    l.filterMap f = (l.filter fun a => (f a).isSome).filterMap f := by
  rw [List.filterMap_filter]
  apply List.filterMap_congr
  intro a _
  cases f a <;> rfl

theorem length_readSorted (o : RangeOrder α) (rows : List α) :
    (o.readSorted le f rows).length = (rows.filter fun a => (f a).isSome).length := by
  have hperm := sorted_perm le o rows
  unfold readSorted
  rw [List.length_filterMap_eq_countP, List.countP_eq_length_filter, (hperm.filter _).length_eq]

variable {le}

variable {rows rows' : List α}

theorem readSorted_agree (nodup : rows.Nodup) (nodup' : rows'.Nodup)
    (hsub : rows ⊆ rows' ∨ rows' ⊆ rows) {o o' : RangeOrder α}
    (h : o'.readSorted le f rows' = o.readSorted le f rows) (a : α) (ha : (f a).isSome = true) :
    a ∈ rows ↔ a ∈ rows' := by
  have hlen : (rows'.filter fun a => (f a).isSome).length =
      (rows.filter fun a => (f a).isSome).length := by
    rw [← length_readSorted le f o', ← length_readSorted le f o, h]
  have hperm : (rows.filter fun a => (f a).isSome).Perm (rows'.filter fun a => (f a).isSome) := by
    rcases hsub with hsub | hsub
    · apply List.Subperm.perm_of_length_le _ (Nat.le_of_eq hlen)
      exact List.subperm_of_subset (nodup.filter _) (List.filter_subset _ hsub)
    · apply List.Perm.symm
      apply List.Subperm.perm_of_length_le _ (Nat.le_of_eq hlen.symm)
      exact List.subperm_of_subset (nodup'.filter _) (List.filter_subset _ hsub)
  have hmem := hperm.mem_iff (a := a)
  simpa [ha] using hmem

theorem exists_readSorted [DecidableEq α]
    (trans : ∀ a b c, le a b = true → le b c = true → le a c = true)
    (total : ∀ a b, (le a b || le b a) = true) (nodup : rows.Nodup) (nodup' : rows'.Nodup)
    (agree : ∀ a, (f a).isSome = true → (a ∈ rows ↔ a ∈ rows')) (o : RangeOrder α) :
    ∃ o' : RangeOrder α, o'.readSorted le f rows' = o.readSorted le f rows := by
  let sorted := (o.visit rows).mergeSort le
  let kept := sorted.filter fun a => (f a).isSome
  let skipped := rows'.filter fun a => !(f a).isSome
  have hsorted : sorted.Perm rows := sorted_perm le o rows
  have hkept : kept.Perm (rows'.filter fun a => (f a).isSome) := by
    apply (List.perm_ext_iff_of_nodup ((hsorted.nodup_iff.mpr nodup).filter _)
      (nodup'.filter _)).mpr
    intro a
    simp only [List.mem_filter, hsorted.mem_iff]
    constructor
    · rintro ⟨hin, hread⟩
      exact ⟨(agree a hread).mp hin, hread⟩
    · rintro ⟨hin, hread⟩
      exact ⟨(agree a hread).mpr hin, hread⟩
  have hperm : (kept ++ skipped).Perm rows' :=
    (hkept.append_right _).trans (List.filter_append_perm _ rows')
  obtain ⟨o', ho'⟩ := exists_visit hperm
  refine ⟨o', ?_⟩
  -- the kept rows are sorted already, and the sort is stable
  have hsub : kept.Sublist ((kept ++ skipped).mergeSort le) := by
    apply List.sublist_mergeSort trans total
    · exact (List.pairwise_mergeSort trans total _).sublist List.filter_sublist
    · exact List.sublist_append_left _ _
  have hall : kept.filter (fun a => (f a).isSome) = kept := by simp [kept]
  have heq : ((kept ++ skipped).mergeSort le).filter (fun a => (f a).isSome) = kept := by
    have hfilter := hsub.filter fun a => (f a).isSome
    rw [hall] at hfilter
    refine (hfilter.eq_of_length ?_).symm
    have hlen := (((List.mergeSort_perm (kept ++ skipped) le).trans hperm).filter
      fun a => (f a).isSome).length_eq
    rw [hlen, hkept.length_eq]
  unfold readSorted
  rw [ho', filterMap_eq_filter f ((kept ++ skipped).mergeSort le), heq]
  exact (filterMap_eq_filter f sorted).symm

end Sorted

variable {le : α → α → Bool}

variable (trans : ∀ a b c, le a b = true → le b c = true → le a c = true)
    (total : ∀ a b, (le a b || le b a) = true)

include trans total

theorem le_of_first {o : RangeOrder α} {rows : List α} {a b : α}
    (h : ((o.visit rows).mergeSort le).head? = some a) (hb : b ∈ rows) : le a b = true := by
  obtain ⟨rest, hrest⟩ := List.head?_eq_some_iff.mp h
  have hsorted := List.pairwise_mergeSort trans total (o.visit rows)
  have hin := (sorted_perm le o rows).mem_iff.mpr hb
  rw [hrest] at hsorted hin
  rcases List.mem_cons.mp hin with rfl | hin
  · simpa using total b b
  · exact List.rel_of_pairwise_cons hsorted hin

theorem first_eq {rows rows' : List α} (hmem : ∀ a, a ∈ rows ↔ a ∈ rows')
    (untied : ∀ a ∈ rows, ∀ b ∈ rows, le a b = true → le b a = true → a = b) (o o' : RangeOrder α) :
    ((o.visit rows).mergeSort le).head? = ((o'.visit rows').mergeSort le).head? := by
  have hboth : ∀ a, a ∈ (o.visit rows).mergeSort le ↔ a ∈ (o'.visit rows').mergeSort le := by
    intro a
    rw [(sorted_perm le o rows).mem_iff, (sorted_perm le o' rows').mem_iff, hmem]
  cases h : ((o.visit rows).mergeSort le).head? with
  | none =>
    rw [List.head?_eq_none_iff] at h
    rw [h] at hboth
    exact (List.head?_eq_none_iff.mpr (List.eq_nil_iff_forall_not_mem.mpr fun a ha =>
      List.not_mem_nil ((hboth a).mpr ha))).symm
  | some a =>
    have ha := (hboth a).mp (List.mem_of_head? h)
    cases h' : ((o'.visit rows').mergeSort le).head? with
    | none =>
      rw [List.head?_eq_none_iff.mp h'] at ha
      cases ha
    | some b =>
      have hb := (sorted_perm le o' rows').mem_iff.mp (List.mem_of_head? h')
      rw [(sorted_perm le o' rows').mem_iff] at ha
      rw [untied a ((hmem a).mpr ha) b ((hmem b).mpr hb) (le_of_first trans total h ((hmem b).mpr hb))
        (le_of_first trans total h' ha)]

end Outpost.RangeOrder
