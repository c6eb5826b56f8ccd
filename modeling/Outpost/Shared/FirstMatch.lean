import Mathlib.Data.List.Basic

/-!
# First-match rule lists

The first rule that hits an input decides it. When only one block of a list can hit an input,
that block decides it wherever it stands, as a list built while ranging over a map needs.
-/

namespace Outpost.FirstMatch

universe u v

variable {Rule : Type u} {Block : Type v} {hits : Rule → Bool}

def Silent (hits : Rule → Bool) (rules : List Rule) : Prop :=
  ∀ r ∈ rules, hits r = false

theorem find_eq_none_of_silent {rules : List Rule} (h : Silent hits rules) :
    rules.find? hits = none := by
  apply List.find?_eq_none.mpr
  intro r hr
  simp [h r hr]

variable {xs ys : List Rule} {blocks : List Block} {f : Block → List Rule}
  {attempts : List (Rule × Bool)}

theorem silent_append (hx : Silent hits xs) (hy : Silent hits ys) : Silent hits (xs ++ ys) := by
  intro r hr
  rcases List.mem_append.mp hr with hr | hr
  · exact hx r hr
  · exact hy r hr

theorem silent_flatMap (h : ∀ b ∈ blocks, Silent hits (f b)) : Silent hits (blocks.flatMap f) := by
  intro r hr
  obtain ⟨b, hb, hr⟩ := List.mem_flatMap.mp hr
  exact h b hb r hr

theorem find_append_of_silent_left (h : Silent hits xs) :
    (xs ++ ys).find? hits = ys.find? hits := by
  rw [List.find?_append, find_eq_none_of_silent h, Option.none_or]

theorem find_flatMap_of_unique {b : Block} (hb : b ∈ blocks)
    (others : ∀ c ∈ blocks, c ≠ b → Silent hits (f c)) :
    (blocks.flatMap f).find? hits = (f b).find? hits := by
  induction blocks with
  | nil => simp at hb
  | cons c blocks ih =>
    rw [List.flatMap_cons]
    have hrest : ∀ d ∈ blocks, d ≠ b → Silent hits (f d) :=
      fun d hd => others d (List.mem_cons_of_mem c hd)
    by_cases hc : c = b
    · subst c
      rw [List.find?_append]
      by_cases hin : b ∈ blocks
      · rw [ih hin hrest, Option.or_self]
      · have hs : Silent hits (blocks.flatMap f) := by
          apply silent_flatMap
          intro d hd
          apply hrest d hd
          rintro rfl
          exact hin hd
        rw [find_eq_none_of_silent hs, Option.or_none]
    · rw [find_append_of_silent_left (others c List.mem_cons_self hc)]
      apply ih _ hrest
      rcases List.mem_cons.mp hb with h | h
      · exact absurd h.symm hc
      · exact h

def survivors (attempts : List (Rule × Bool)) : List Rule :=
  (attempts.filter fun e => !e.2).map Prod.fst

theorem survivors_append (xs ys : List (Rule × Bool)) :
    survivors (xs ++ ys) = survivors xs ++ survivors ys := by
  simp [survivors]

theorem survivors_of_none_lost (h : ∀ e ∈ attempts, e.2 = false) :
    survivors attempts = attempts.map Prod.fst := by
  have hall : attempts.filter (fun e => !e.2) = attempts :=
    List.filter_eq_self.mpr fun e he => by rw [h e he]; rfl
  rw [survivors, hall]

theorem silent_survivors (h : Silent hits (attempts.map Prod.fst)) :
    Silent hits (survivors attempts) := by
  intro r hr
  exact h r ((List.filter_sublist.map Prod.fst).subset hr)

theorem find_map_split {r : Rule} (h : (attempts.map Prod.fst).find? hits = some r) :
    ∃ before lost after, attempts = before ++ (r, lost) :: after ∧
      Silent hits (before.map Prod.fst) ∧ hits r = true := by
  rw [List.find?_map] at h
  obtain ⟨e, he, rfl⟩ := Option.map_eq_some_iff.mp h
  obtain ⟨hhit, before, after, rfl, hbefore⟩ := List.find?_eq_some_iff_append.mp he
  refine ⟨before, e.2, after, rfl, ?_, hhit⟩
  intro r' hr'
  obtain ⟨e', he', rfl⟩ := List.mem_map.mp hr'
  have hquiet := hbefore e' he'
  simpa using hquiet

theorem find_at_split {before : List (Rule × Bool)} {r : Rule} {lost : Bool}
    {after : List (Rule × Bool)} (hbefore : Silent hits (before.map Prod.fst))
    (hr : hits r = true) : ((before ++ (r, lost) :: after).map Prod.fst).find? hits = some r := by
  rw [List.map_append, find_append_of_silent_left hbefore]
  exact List.find?_cons_of_pos hr

theorem find_survivors_iff (good : Rule → Prop) (attempts : List (Rule × Bool)) :
    (∀ r, (attempts.map Prod.fst).find? hits = some r → good r →
        ∃ s, (survivors attempts).find? hits = some s ∧ good s) ↔
      ∀ before r after, attempts = before ++ (r, true) :: after →
        Silent hits (before.map Prod.fst) → hits r = true → good r →
        ∃ s, (survivors after).find? hits = some s ∧ good s := by
  have hsplit : ∀ (before after : List (Rule × Bool)) (e : Rule × Bool),
      Silent hits (before.map Prod.fst) →
      (survivors (before ++ e :: after)).find? hits = (survivors (e :: after)).find? hits := by
    intro before after e hbefore
    rw [survivors_append, find_append_of_silent_left (silent_survivors hbefore)]
  constructor
  · intro hsafe before r after hattempts hbefore hr hgood
    subst hattempts
    have hfound := hsafe r (find_at_split hbefore hr) hgood
    rwa [hsplit before after _ hbefore] at hfound
  · intro hbacked r hfind hgood
    obtain ⟨before, lost, after, hattempts, hbefore, hr⟩ := find_map_split hfind
    subst hattempts
    rw [hsplit before after _ hbefore]
    cases lost with
    | false => exact ⟨r, List.find?_cons_of_pos hr, hgood⟩
    | true => exact hbacked before r after rfl hbefore hr hgood

end Outpost.FirstMatch
