import Outpost.Shared.Interleaving

/-!
# A program among the steps of others

One program runs to its end while others take steps of a known kind before, between and after its
actions. A chain of stable assertions, one for each point of the program, holds throughout.
-/

namespace Outpost.Interleaving.Prog

variable {σ α β : Type} {Other : σ → σ → Prop}

/-- The program starts in the first state, answers, and the last state is reached. -/
inductive Disturbed (Other : σ → σ → Prop) : Prog σ α → σ → α → σ → Prop where
  | ret (value : α) (s : σ) : Disturbed Other (ret value) s value s
  | other {p : Prog σ α} {s s' t : σ} {value : α} :
      Other s s' → Disturbed Other p s' value t → Disturbed Other p s value t
  | act {update : σ → σ} {next : σ → Prog σ α} {s t : σ} {value : α} :
      Disturbed Other (next s) (update s) value t → Disturbed Other (act update next) s value t

theorem disturbed_alone (p : Prog σ α) (s : σ) :
    Disturbed Other p s (p.alone s).2 (p.alone s).1 := by
  induction p generalizing s with
  | ret value => exact .ret value s
  | act update next ih => exact .act (ih s (update s))

variable {p : Prog σ α} {value : α}

theorem Disturbed.snoc {s t t' : σ} (h : Disturbed Other p s value t) (hother : Other t t') :
    Disturbed Other p s value t' := by
  induction h with
  | ret value s => exact .other hother (.ret value t')
  | other hfirst _ ih => exact .other hfirst (ih hother)
  | act _ ih => exact .act (ih hother)

variable {f : β → Prog σ α}

theorem Disturbed.of_bind {p : Prog σ β} {s t : σ} (h : Disturbed Other (p >>= f) s value t) :
    ∃ middle u, Disturbed Other p s middle u ∧ Disturbed Other (f middle) u value t := by
  change Disturbed Other (p.bind f) s value t at h
  generalize hq : p.bind f = q at h
  induction h generalizing p with
  | ret value s =>
    cases p with
    | ret middle =>
      change f middle = Prog.ret value at hq
      exact ⟨middle, s, .ret middle s, hq ▸ .ret value s⟩
    | act update next => cases hq
  | other hother _ ih =>
    obtain ⟨middle, u, hp, hf⟩ := ih hq
    exact ⟨middle, u, .other hother hp, hf⟩
  | act h ih =>
    rename_i update next s t value
    cases p with
    | ret middle =>
      change f middle = Prog.act update next at hq
      exact ⟨middle, s, .ret middle s, hq ▸ .act h⟩
    | act update' next' =>
      obtain ⟨rfl, rfl⟩ := Prog.act.inj hq
      obtain ⟨middle, u, hp, hf⟩ := ih rfl
      exact ⟨middle, u, .act hp, hf⟩

def Stable (Other : σ → σ → Prop) (P : σ → Prop) : Prop := ∀ s s', Other s s' → P s → P s'

theorem stable_given {P : Prop} {I : σ → Prop} (h : Stable Other I) :
    Stable Other fun s => P ∧ I s := by
  intro s s' hother hs
  exact ⟨hs.1, h s s' hother hs.2⟩

/-- Whatever the others do meanwhile, the program leads from `pre` to `post`. -/
def Ensures (Other : σ → σ → Prop) (pre : σ → Prop) (p : Prog σ α) (post : α → σ → Prop) : Prop :=
  ∀ s value t, pre s → Disturbed Other p s value t → post value t

variable {pre : σ → Prop} {post : α → σ → Prop}

theorem ensures_pure (stable : Stable Other pre) (h : ∀ s, pre s → post value s) :
    Ensures Other pre (pure value) post := by
  intro s value' t hs hrun
  change Disturbed Other (ret value) s value' t at hrun
  generalize hp : (ret value : Prog σ α) = p at hrun
  induction hrun with
  | ret value' s =>
    obtain rfl := ret.inj hp
    exact h s hs
  | other hother _ ih => exact ih (stable _ _ hother hs) hp
  | act _ _ => cases hp

theorem ensures_act {update : σ → σ} {next : σ → Prog σ α} (stable : Stable Other pre)
    (h : ∀ s value t, pre s → Disturbed Other (next s) (update s) value t → post value t) :
    Ensures Other pre (act update next) post := by
  intro s value t hs hrun
  generalize hp : act update next = p at hrun
  induction hrun with
  | ret value s => cases hp
  | other hother _ ih => exact ih (stable _ _ hother hs) hp
  | act hrun _ =>
    obtain ⟨rfl, rfl⟩ := act.inj hp
    exact h _ _ _ hs hrun

theorem ensures_modify {f : σ → σ × α} (stable : Stable Other pre)
    (h : ∀ s, pre s → post (f s).2 (f s).1) (stable' : ∀ value, Stable Other (post value)) :
    Ensures Other pre (modify f) post := by
  refine ensures_act stable ?_
  intro s value t hs hrun
  exact ensures_pure (stable' (f s).2) (fun _ hpost => hpost) _ _ _ (h s hs) hrun

theorem ensures_read {f : σ → α} (stable : Stable Other pre) (h : ∀ s, pre s → post (f s) s)
    (stable' : ∀ value, Stable Other (post value)) : Ensures Other pre (read f) post := by
  refine ensures_act stable ?_
  intro s value t hs hrun
  exact ensures_pure (stable' (f s)) (fun _ hpost => hpost) _ _ _ (h s hs) hrun

theorem ensures_bind {p : Prog σ β} {mid : β → σ → Prop} (hp : Ensures Other pre p mid)
    (hf : ∀ middle, Ensures Other (mid middle) (f middle) post) :
    Ensures Other pre (p >>= f) post := by
  intro s value t hs h
  obtain ⟨middle, u, hfirst, hsecond⟩ := h.of_bind
  exact hf middle u value t (hp s middle u hs hfirst) hsecond

theorem Ensures.mono {pre' : σ → Prop} {post' : α → σ → Prop} (h : Ensures Other pre p post)
    (hpre : ∀ s, pre' s → pre s) (hpost : ∀ value s, post value s → post' value s) :
    Ensures Other pre' p post' := by
  intro s value t hs hrun
  exact hpost value t (h s value t (hpre s hs) hrun)

theorem ensures_given {P : Prop} (h : P → Ensures Other pre p post) :
    Ensures Other (fun s => P ∧ pre s) p post := by
  intro s value t hs hrun
  exact h hs.1 s value t hs.2 hrun

end Outpost.Interleaving.Prog
