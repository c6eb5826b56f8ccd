import Mathlib.Data.List.AList

/-!
# Go maps and the loops that fill them

A Go map is an association list with distinct keys. The order in which `range` visits the entries
is modelled by a `RangeOrder`, an arbitrary reordering.
-/

namespace Outpost

abbrev GoMap (κ ν : Type) := AList (fun _ : κ => ν)

structure RangeOrder (α : Type) where
  visit : List α → List α
  perm : ∀ l, (visit l).Perm l

namespace RangeOrder

variable {α : Type}

def asListed : RangeOrder α := ⟨id, fun _ => .refl _⟩

@[simp] theorem mem_visit (o : RangeOrder α) (l : List α) (a : α) : a ∈ o.visit l ↔ a ∈ l :=
  (o.perm l).mem_iff

end RangeOrder

namespace GoMap

variable {κ ν : Type} [DecidableEq κ]

def pairs (m : GoMap κ ν) : List (κ × ν) := m.entries.map fun e => (e.1, e.2)

variable {m : GoMap κ ν} {k : κ} {v : ν} {rows entries : List (κ × ν)} {f : κ → ν → Option ν}

theorem mem_pairs : (k, v) ∈ pairs m ↔ m.lookup k = some v := by
  constructor
  · intro h
    obtain ⟨⟨k', v'⟩, he, heq⟩ := List.mem_map.mp h
    obtain ⟨rfl, rfl⟩ := Prod.mk.inj heq
    exact AList.mem_lookup_iff.mpr he
  · intro h
    exact List.mem_map.mpr ⟨⟨k, v⟩, AList.mem_lookup_iff.mp h, rfl⟩

theorem pairs_functional {w : ν} (hv : (k, v) ∈ pairs m) (hw : (k, w) ∈ pairs m) : v = w := by
  rw [mem_pairs] at hv hw
  exact Option.some.inj (hv.symm.trans hw)

omit [DecidableEq κ] in
theorem pairs_nodup (m : GoMap κ ν) : (pairs m).Nodup := by
  apply List.Nodup.map _ m.nodupKeys.nodup
  rintro ⟨k, v⟩ ⟨k', v'⟩ h
  obtain ⟨rfl, rfl⟩ := Prod.mk.inj h
  rfl

theorem visit_filter_key (order : RangeOrder (κ × ν)) (m : GoMap κ ν) (k : κ) :
    (order.visit (pairs m)).filter (fun e => e.1 = k) =
      (m.lookup k).toList.map fun v => (k, v) := by
  have hnodup : ((order.visit (pairs m)).filter fun e => e.1 = k).Nodup :=
    ((order.perm _).nodup_iff.mpr (pairs_nodup m)).filter _
  have hmem : ∀ e, e ∈ (order.visit (pairs m)).filter (fun e => e.1 = k) ↔
      e.1 = k ∧ m.lookup k = some e.2 := by
    rintro ⟨k', v⟩
    simp only [List.mem_filter, RangeOrder.mem_visit, mem_pairs, decide_eq_true_eq]
    constructor
    · rintro ⟨h, rfl⟩
      exact ⟨rfl, h⟩
    · rintro ⟨rfl, h⟩
      exact ⟨h, rfl⟩
  cases hl : m.lookup k with
  | none =>
    apply List.eq_nil_iff_forall_not_mem.mpr
    intro e he
    have := ((hmem e).mp he).2
    rw [hl] at this
    cases this
  | some v =>
    apply List.perm_singleton.mp
    apply (List.perm_ext_iff_of_nodup hnodup (List.nodup_singleton _)).mpr
    rintro ⟨k', v'⟩
    rw [hmem, hl, List.mem_singleton, Prod.mk.injEq, Option.some.injEq]
    exact and_congr_right fun _ => eq_comm

def setEach (rows : List (κ × ν)) (m : GoMap κ ν) : GoMap κ ν :=
  rows.foldl (fun m r => m.insert r.1 r.2) m

theorem lookup_setEach_mem (h : (setEach rows m).lookup k = some v) :
    (k, v) ∈ rows ∨ m.lookup k = some v := by
  induction rows generalizing m with
  | nil => exact .inr h
  | cons r rows ih =>
    rcases ih (m := m.insert r.1 r.2) h with hin | hm
    · exact .inl (List.mem_cons_of_mem r hin)
    · by_cases hk : k = r.1
      · subst hk
        rw [AList.lookup_insert] at hm
        have hv : r.2 = v := Option.some.inj hm
        subst hv
        exact Or.inl List.mem_cons_self
      · rw [AList.lookup_insert_ne hk] at hm
        exact .inr hm

theorem lookup_setEach_isSome (h : (∃ v, (k, v) ∈ rows) ∨ (m.lookup k).isSome) :
    ((setEach rows m).lookup k).isSome := by
  induction rows generalizing m with
  | nil =>
    rcases h with ⟨v, hv⟩ | h
    · simp at hv
    · exact h
  | cons r rows ih =>
    apply ih
    by_cases hk : k = r.1
    · subst hk
      exact .inr (by rw [AList.lookup_insert]; rfl)
    · rcases h with ⟨v, hv⟩ | h
      · rcases List.mem_cons.mp hv with heq | hv
        · exact absurd (congrArg Prod.fst heq) hk
        · exact .inl ⟨v, hv⟩
      · exact .inr (by rw [AList.lookup_insert_ne hk]; exact h)

theorem lookup_setEach_iff (functional : ∀ v w, (k, v) ∈ rows → (k, w) ∈ rows → v = w) (v : ν) :
    (setEach rows (∅ : GoMap κ ν)).lookup k = some v ↔ (k, v) ∈ rows := by
  constructor
  · intro h
    rcases lookup_setEach_mem h with h | h
    · exact h
    · simp at h
  · intro h
    have hsome : ((setEach rows (∅ : GoMap κ ν)).lookup k).isSome :=
      lookup_setEach_isSome (.inl ⟨v, h⟩)
    obtain ⟨w, hw⟩ := Option.isSome_iff_exists.mp hsome
    rcases lookup_setEach_mem hw with hin | hin
    · rw [hw, functional v w h hin]
    · simp at hin

def appendEach (rows : List (κ × ν)) (m : GoMap κ (List ν)) : GoMap κ (List ν) :=
  rows.foldl (fun m r => m.insert r.1 ((m.lookup r.1).getD [] ++ [r.2])) m

def valuesOf (rows : List (κ × ν)) (k : κ) : List ν :=
  (rows.filter fun r => r.1 = k).map Prod.snd

theorem mem_valuesOf : v ∈ valuesOf rows k ↔ (k, v) ∈ rows := by
  constructor
  · intro h
    obtain ⟨⟨k', v'⟩, hr, hv⟩ := List.mem_map.mp h
    obtain ⟨hin, hk⟩ := List.mem_filter.mp hr
    have hk' : k' = k := by simpa using hk
    have hv' : v' = v := hv
    subst hk' hv'
    exact hin
  · intro h
    exact List.mem_map.mpr ⟨(k, v), List.mem_filter.mpr ⟨h, by simp⟩, rfl⟩

theorem lookup_appendEach (rows : List (κ × ν)) (m : GoMap κ (List ν)) (k : κ) :
    (appendEach rows m).lookup k =
      if valuesOf rows k = [] then m.lookup k
      else some ((m.lookup k).getD [] ++ valuesOf rows k) := by
  induction rows generalizing m with
  | nil => simp [appendEach, valuesOf]
  | cons r rows ih =>
    change (appendEach rows (m.insert r.1 ((m.lookup r.1).getD [] ++ [r.2]))).lookup k = _
    rw [ih]
    by_cases hk : r.1 = k
    · subst hk
      have hcons : valuesOf (r :: rows) r.1 = r.2 :: valuesOf rows r.1 := by
        simp [valuesOf]
      rw [hcons]
      by_cases he : valuesOf rows r.1 = []
      · simp [he]
      · simp [List.append_assoc]
    · have hcons : valuesOf (r :: rows) k = valuesOf rows k := by
        simp [valuesOf, hk]
      rw [hcons, AList.lookup_insert_ne (fun h => hk h.symm)]

def deleteEach (P : κ → ν → Bool) (entries : List (κ × ν)) (m : GoMap κ ν) : GoMap κ ν :=
  entries.foldl (fun m e => if P e.1 e.2 then m.erase e.1 else m) m

theorem lookup_deleteEach (P : κ → ν → Bool) (entries : List (κ × ν)) (m : GoMap κ ν) (k : κ) :
    (deleteEach P entries m).lookup k =
      if entries.any (fun e => e.1 = k && P e.1 e.2) then none else m.lookup k := by
  induction entries generalizing m with
  | nil => rfl
  | cons e entries ih =>
    change (deleteEach P entries (if P e.1 e.2 then m.erase e.1 else m)).lookup k = _
    rw [ih, List.any_cons]
    cases hrest : entries.any fun e => e.1 = k && P e.1 e.2 with
    | true => simp
    | false =>
      by_cases hk : e.1 = k
      · cases hP : P e.1 e.2 with
        | true => simp [hk]
        | false => simp
      · have hne : k ≠ e.1 := fun h => hk h.symm
        cases hP : P e.1 e.2 with
        | true => simp [hk, AList.lookup_erase_ne hne]
        | false => simp [hk]

theorem lookup_deleteEach_visit (P : κ → ν → Bool) (order : RangeOrder (κ × ν)) (m : GoMap κ ν)
    (k : κ) : (deleteEach P (order.visit (pairs m)) m).lookup k =
      (m.lookup k).filter fun v => !P k v := by
  have hany : (order.visit (pairs m)).any (fun e => e.1 = k && P e.1 e.2) = true ↔
      ∃ v, m.lookup k = some v ∧ P k v = true := by
    simp only [List.any_eq_true, RangeOrder.mem_visit, Bool.and_eq_true, decide_eq_true_eq,
      Prod.exists, mem_pairs]
    constructor
    · intro ⟨k', v, hv, hk, hP⟩
      exact ⟨v, hk ▸ hv, hk ▸ hP⟩
    · intro ⟨v, hv, hP⟩
      exact ⟨k, v, hv, rfl, hP⟩
  rw [lookup_deleteEach]
  cases hk : m.lookup k with
  | none => simp
  | some v =>
    cases hP : P k v with
    | true =>
      rw [if_pos (hany.mpr ⟨v, hk, hP⟩), Option.filter_some, hP]
      rfl
    | false =>
      rw [if_neg, Option.filter_some, hP]
      · rfl
      · intro h
        obtain ⟨v', hv', hP'⟩ := hany.mp h
        rw [hk, Option.some.injEq] at hv'
        rw [← hv', hP] at hP'
        cases hP'

def updateEntry (f : κ → ν → Option ν) (m : GoMap κ ν) (e : κ × ν) : GoMap κ ν :=
  match f e.1 e.2 with
  | none => m.erase e.1
  | some v => m.insert e.1 v

def updateEach (f : κ → ν → Option ν) (entries : List (κ × ν)) (m : GoMap κ ν) : GoMap κ ν :=
  entries.foldl (updateEntry f) m

theorem lookup_updateEntry_self (f : κ → ν → Option ν) (m : GoMap κ ν) (e : κ × ν) :
    (updateEntry f m e).lookup e.1 = f e.1 e.2 := by
  unfold updateEntry
  cases f e.1 e.2 with
  | none => exact AList.lookup_erase e.1 m
  | some v => exact AList.lookup_insert m

theorem lookup_updateEntry_ne (f : κ → ν → Option ν) (m : GoMap κ ν) {e : κ × ν} (h : e.1 ≠ k) :
    (updateEntry f m e).lookup k = m.lookup k := by
  unfold updateEntry
  cases f e.1 e.2 with
  | none => exact AList.lookup_erase_ne h.symm
  | some v => exact AList.lookup_insert_ne h.symm

theorem lookup_updateEach_of_ne (h : ∀ e ∈ entries, e.1 ≠ k) (m : GoMap κ ν) :
    (updateEach f entries m).lookup k = m.lookup k := by
  induction entries generalizing m with
  | nil => rfl
  | cons e entries ih =>
    refine (ih (fun e' he' => h e' (List.mem_cons_of_mem e he')) _).trans ?_
    exact lookup_updateEntry_ne f m (h e List.mem_cons_self)

theorem lookup_updateEach_of_mem (nodup : (entries.map Prod.fst).Nodup) (h : (k, v) ∈ entries)
    (m : GoMap κ ν) : (updateEach f entries m).lookup k = f k v := by
  induction entries generalizing m with
  | nil => cases h
  | cons e entries ih =>
    obtain ⟨hnew, hrest⟩ := List.nodup_cons.mp nodup
    rcases List.mem_cons.mp h with heq | h
    · have hothers : ∀ e' ∈ entries, e'.1 ≠ k := by
        intro e' he' hk
        exact hnew (List.mem_map.mpr ⟨e', he', hk.trans (congrArg Prod.fst heq)⟩)
      rw [← heq]
      exact (lookup_updateEach_of_ne hothers _).trans (lookup_updateEntry_self f m (k, v))
    · exact ih hrest h _

theorem lookup_updateEach_visit (f : κ → ν → Option ν) (order : RangeOrder (κ × ν)) (m : GoMap κ ν)
    (k : κ) : (updateEach f (order.visit (pairs m)) m).lookup k = (m.lookup k).bind (f k) := by
  have hnodup : ((order.visit (pairs m)).map Prod.fst).Nodup := by
    apply ((order.perm _).map _).nodup_iff.mpr
    rw [pairs, List.map_map]
    exact m.nodupKeys
  cases hk : m.lookup k with
  | none =>
    rw [lookup_updateEach_of_ne _ m, hk]
    · rfl
    · intro e he heq
      rw [RangeOrder.mem_visit, mem_pairs] at he
      cases heq
      rw [hk] at he
      cases he
  | some v =>
    exact lookup_updateEach_of_mem hnodup
      ((RangeOrder.mem_visit _ _ _).mpr (mem_pairs.mpr hk)) m

/-- `m[k]` of a `map[κ]bool`: a missing key reads as `false`. -/
def flag (m : GoMap κ Bool) (k : κ) : Bool := (m.lookup k).getD false

@[simp] theorem flag_empty (k : κ) : flag (∅ : GoMap κ Bool) k = false := rfl

theorem flag_insert_true (m : GoMap κ Bool) (j k : κ) :
    flag (m.insert k true) j = (decide (j = k) || flag m j) := by
  unfold flag
  by_cases h : j = k
  · subst h
    simp
  · simp [h]

theorem flag_foldl {ε : Type} {step : GoMap κ Bool → ε → GoMap κ Bool} {key : ε → κ}
    {P : ε → Bool}
    (hstep : ∀ m e j, flag (step m e) j = (flag m j || (decide (j = key e) && P e)))
    (entries : List ε) (m : GoMap κ Bool) (j : κ) :
    flag (entries.foldl step m) j = true ↔
      flag m j = true ∨ ∃ e ∈ entries, key e = j ∧ P e = true := by
  induction entries generalizing m with
  | nil => simp
  | cons e entries ih =>
    rw [List.foldl_cons, ih, hstep]
    simp only [Bool.or_eq_true, Bool.and_eq_true, decide_eq_true_eq, List.mem_cons,
      exists_eq_or_imp, or_assoc]
    constructor
    · rintro (h | ⟨h, hp⟩ | h)
      · exact .inl h
      · exact .inr (.inl ⟨h.symm, hp⟩)
      · exact .inr (.inr h)
    · rintro (h | ⟨h, hp⟩ | h)
      · exact .inl h
      · exact .inr (.inl ⟨h.symm, hp⟩)
      · exact .inr (.inr h)

/-- The map is used as a set: no key is bound to `false`. -/
def OnlyTrue (m : GoMap κ Bool) : Prop := ∀ k v, m.lookup k = some v → v = true

theorem onlyTrue_empty : OnlyTrue (∅ : GoMap κ Bool) := by
  intro k v h
  simp at h

theorem OnlyTrue.insert_true {m : GoMap κ Bool} (h : OnlyTrue m) (k : κ) :
    OnlyTrue (m.insert k true) := by
  intro j v hv
  by_cases hj : j = k
  · subst hj
    rw [AList.lookup_insert] at hv
    exact (Option.some.inj hv).symm
  · rw [AList.lookup_insert_ne hj] at hv
    exact h j v hv

theorem OnlyTrue.mem_iff {m : GoMap κ Bool} (h : OnlyTrue m) (k : κ) :
    (∃ v, (k, v) ∈ pairs m) ↔ flag m k = true := by
  simp only [mem_pairs]
  unfold flag
  cases hl : m.lookup k with
  | none => simp
  | some v => simp [h k v hl]

end GoMap

end Outpost
