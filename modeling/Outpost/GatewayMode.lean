import Mathlib.Data.List.Induction

/-!
# A client as a site-to-site gateway

`Start` and `Stop` of `GatewayMode`. The channel that ends the sync loop is made once, and the
first `Stop` of a running gateway closes it.
-/

namespace Outpost.GatewayMode

inductive Stage where
  | fetch
  | mkdir
  | write
  | wgUp
deriving DecidableEq

structure Gateway where
  running : Bool := false
  stopClosed : Bool := false
  syncLoops : Nat := 0

/-- With the stage of `Start` that fails, and whether the interface comes down. -/
inductive Call where
  | start (failure : Option Stage)
  | stop (down : Bool)

inductive CallError where
  | alreadyRunning
  | failed (stage : Stage)
  | wgDown
deriving DecidableEq

def Gateway.call (g : Gateway) : Call → Gateway × Option CallError
  | .start failure =>
    if g.running then (g, some .alreadyRunning)
    else match failure with
      | some stage => ({ g with running := false }, some (.failed stage))
      | none => ({ g with running := true, syncLoops := g.syncLoops + 1 }, none)
  | .stop down =>
    if g.running then
      ({ g with running := false, stopClosed := true }, if down then none else some .wgDown)
    else (g, none)

/-- A loop that was started, and does not find the channel closed. -/
def Gateway.Serves (g : Gateway) : Prop := 0 < g.syncLoops ∧ g.stopClosed = false

def run (calls : List Call) : Gateway := calls.foldl (fun g c => (g.call c).1) {}

def Stopped (calls : List Call) : Prop :=
  ∃ past down rest, calls = past ++ .stop down :: rest ∧ (run past).running = true

variable {calls : List Call}

theorem run_concat (c : Call) : run (calls ++ [c]) = ((run calls).call c).1 := List.foldl_append

theorem stopped_concat (c : Call) : Stopped (calls ++ [c]) ↔
    Stopped calls ∨ (∃ down, c = .stop down) ∧ (run calls).running = true := by
  constructor
  · rintro ⟨past, down, rest, heq, hrunning⟩
    rcases List.eq_nil_or_concat rest with rfl | ⟨rest, c', rfl⟩
    · obtain ⟨rfl, hc⟩ := List.append_inj' heq rfl
      exact .inr ⟨⟨down, List.singleton_inj.mp hc⟩, hrunning⟩
    · rw [List.concat_eq_append, ← List.cons_append, ← List.append_assoc] at heq
      exact .inl ⟨past, down, rest, (List.append_inj' heq rfl).1, hrunning⟩
  · rintro (⟨past, down, rest, rfl, hrunning⟩ | ⟨⟨down, rfl⟩, hrunning⟩)
    · exact ⟨past, down, rest ++ [c], by simp, hrunning⟩
    · exact ⟨calls, down, [], rfl, hrunning⟩

theorem run_tracks (calls : List Call) :
    ((run calls).stopClosed = true ↔ Stopped calls) ∧
      ((run calls).stopClosed = false → (0 < (run calls).syncLoops ↔ (run calls).running = true)) := by
  induction calls using List.reverseRecOn with
  | nil => simp [run, Stopped]
  | append_singleton calls c ih =>
    obtain ⟨hclosed, hloops⟩ := ih
    rw [run_concat, stopped_concat, ← hclosed]
    cases c with
    | start failure =>
      cases hrunning : (run calls).running <;> cases failure <;>
        simp_all [Gateway.call]
    | stop down =>
      cases hrunning : (run calls).running <;> simp_all [Gateway.call]

/-- A loop serves a running gateway exactly if no `Stop` came before, and no other. -/
theorem loop_serves_iff (calls : List Call) :
    ((run calls).running = false → ¬ (run calls).Serves) ∧
    ((run calls).running = true → ((run calls).Serves ↔ ¬ Stopped calls)) := by
  obtain ⟨hclosed, hloops⟩ := run_tracks calls
  constructor
  · rintro hrunning ⟨hpos, hopen⟩
    exact absurd ((hloops hopen).mp hpos) (by simp [hrunning])
  · intro hrunning
    rw [← hclosed, Bool.not_eq_true]
    exact ⟨And.right, fun hopen => ⟨(hloops hopen).mpr hrunning, hopen⟩⟩

theorem restarted_without_loop :
    (run [.start none, .stop true, .start none]).running = true ∧
      ¬ (run [.start none, .stop true, .start none]).Serves :=
  ⟨rfl, fun h => nomatch h.2⟩

end Outpost.GatewayMode
