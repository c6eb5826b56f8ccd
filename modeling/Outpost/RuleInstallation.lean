import Outpost.FirewallManagerStructure

/-!
# Failures while the rules are installed

`Apply` empties `OUTPOST-FWD` and then appends the rules one by one. Only a failed flush is
reported, and then nothing has changed; a rule whose command fails is logged and left out.
-/

namespace Outpost.RuleInstallation

open Iptables FirewallManager FirstMatch

/-- What the config drops is dropped by the chain, or `Apply` failed and the chain is
what it was. -/
def FailSafe (env : Env) (config : FirewallConfig) (h : Host) : Prop :=
  ((apply env (some config) h).1 ≠ none ∧
    chain (apply env (some config) h).2 outpostChain = chain h outpostChain) ∨
  ∀ p : Packet, p.state = .new → decides (config.rules.filterMap installed) p = some .drop →
    ∃ rules, chain (apply env (some config) h).2 outpostChain = some rules ∧
      decides rules p ≠ some .accept ∧ decides rules p ≠ none

/-- What a lost DROP rule would have dropped is dropped by the first rule behind it that hits it and
was not lost as well. -/
def Backed (attempted : List (Rule × Bool)) : Prop :=
  ∀ before r after, attempted = before ++ (r, true) :: after → r.target = some (.verdict .drop) →
    ∀ p : Packet, p.state = .new → Silent (Rule.hits p) (before.map Prod.fst) →
      r.hits p = true → decides (survivors after) p = some .drop

theorem decides_eq_some {rules : List Rule} {p : Packet} {v : Verdict} :
    decides rules p = some v ↔
      ∃ r, rules.find? (Rule.hits p) = some r ∧ r.target = some (.verdict v) := by
  unfold decides
  cases rules.find? (Rule.hits p) with
  | none => simp
  | some r =>
    simp only [Option.bind_some, Option.some.injEq, exists_eq_left']
    split
    · rename_i v' hv
      simp [hv]
    · rename_i hv
      simp only [reduceCtorEq, false_iff]
      exact hv v

theorem drop_iff (decided : Option Verdict) :
    decided = some .drop ↔ decided ≠ some .accept ∧ decided ≠ none := by
  cases decided with
  | none => simp
  | some v => cases v <;> simp

theorem backed_iff (attempted : List (Rule × Bool)) :
    (∀ p : Packet, p.state = .new → decides (attempted.map Prod.fst) p = some .drop →
      decides (survivors attempted) p = some .drop) ↔ Backed attempted := by
  simp only [decides_eq_some, Backed]
  constructor
  · intro hsafe before r after hattempted hdrop p hnew hbefore hr
    refine (find_survivors_iff _ attempted).mp ?_ before r after hattempted hbefore hr hdrop
    intro r' hfind hdrop'
    exact hsafe p hnew ⟨r', hfind, hdrop'⟩
  · intro hbacked p hnew hdropped
    obtain ⟨r, hfind, hdrop⟩ := hdropped
    refine (find_survivors_iff _ attempted).mpr ?_ r hfind hdrop
    intro before r' after hattempted hbefore hr' hdrop'
    exact hbacked before r' after hattempted hdrop' p hnew hbefore hr'

theorem decides_behind_conntrack (lost : Bool) (attempted : List (Rule × Bool)) {p : Packet}
    (hnew : p.state = .new) :
    decides (survivors ((conntrackRule, lost) :: attempted)) p =
      decides (survivors attempted) p := by
  have hsilent : Silent (Rule.hits p) (survivors [(conntrackRule, lost)]) := by
    apply silent_survivors
    intro r hr
    obtain rfl := List.mem_singleton.mp hr
    simp [Rule.hits, conntrackRule, hnew]
  have hsplit := survivors_append [(conntrackRule, lost)] attempted
  rw [List.singleton_append] at hsplit
  unfold decides
  rw [hsplit, find_append_of_silent_left hsilent]

/-- The installation is fail-safe exactly when the chain cannot be flushed or every lost DROP rule
is backed by the rules behind it. The flush has the number `h.issued`, the first rule `h.issued +
2`. -/
theorem fail_safe_iff (env : Env) (config : FirewallConfig) (h : Host) :
    FailSafe env config h ↔
      env.fault h.issued = true ∨ chain h outpostChain = none ∨
        Backed (attempts env.fault (h.issued + 2) config.rules) := by
  by_cases hflush : env.fault h.issued = true ∨ chain h outpostChain = none
  · obtain ⟨herror, hsame⟩ := apply_not_flushed config hflush
    have hsafe : FailSafe env config h := by
      refine .inl ⟨?_, hsame outpostChain⟩
      rw [herror]
      exact Option.some_ne_none _
    rw [← or_assoc]
    exact ⟨fun _ => .inl hflush, fun _ => hsafe⟩
  · obtain ⟨hok, hchain⟩ := not_or.mp hflush
    rw [Bool.not_eq_true] at hok
    obtain ⟨old, hold⟩ := Option.ne_none_iff_exists'.mp hchain
    obtain ⟨hnone, hrules, _⟩ := apply_flushed config hok hold
    simp only [hok, hchain, Bool.false_eq_true]
    rw [← backed_iff, map_attempts]
    unfold FailSafe
    rw [hnone, hrules]
    simp only [ne_eq, not_true, false_and, false_or, Option.some.injEq, exists_eq_left']
    refine forall_congr' fun p => forall_congr' fun hnew => forall_congr' fun _ => ?_
    rw [decides_behind_conntrack _ _ hnew, drop_iff]

def blockDevice : FirewallConfig := ⟨[⟨"10.8.0.2/32", "", "", "", .drop⟩], false, ""⟩

def emptyChainHost : Host where
  nf := { filter := (∅ : Table).insert outpostChain [], nat := ∅ }
  conntrack := []
  issued := 0

def thirdFails : Env := ⟨fun n => n == 2, none⟩

/-- `Apply` reports success and the device's connections are no longer dropped. -/
theorem lost_rule_not_reported :
    (apply thirdFails (some blockDevice) emptyChainHost).1 = none ∧
    ∃ rules p, chain (apply thirdFails (some blockDevice) emptyChainHost).2 outpostChain =
        some rules ∧ p.state = .new ∧
      decides (blockDevice.rules.filterMap installed) p = some .drop ∧ decides rules p = none := by
  have hchain : chain emptyChainHost outpostChain = some [] := by decide
  have hflushes : thirdFails.fault emptyChainHost.issued = false := rfl
  obtain ⟨hnone, hrules, _⟩ := apply_flushed blockDevice hflushes hchain
  refine ⟨hnone, _, ⟨0x0A080002, 0x0A010203, "tcp", 22, .new⟩, hrules, rfl, ?_, ?_⟩
  · decide +kernel
  · decide +kernel

end Outpost.RuleInstallation
