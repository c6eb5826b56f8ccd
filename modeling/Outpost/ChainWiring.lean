import Outpost.ForwardPath

/-!
# The wiring of the two chains

`Init`, `Apply` and `ApplySmartRoutes` in any order, on tables where nothing refers to the two
chains: the jumps stand above what `FORWARD` held at first, that to `OUTPOST-SMART` on top.
`Cleanup` puts `FORWARD` back as it was.
-/

namespace Outpost.ChainWiring

open Iptables FirewallManager ForwardPath

inductive Call where
  | init
  | apply (config : Option FirewallConfig)
  | applySmartRoutes (config : Option SmartRouteConfig)

def exec (env : Env) (h : Host) : Call → Host
  | .init => (FirewallManager.init env h).2
  | .apply config => (FirewallManager.apply env config h).2
  | .applySmartRoutes config => (FirewallManager.applySmartRoutes env config h).2

def runCalls (env : Env) (h : Host) (calls : List Call) : Host :=
  (Call.init :: calls).foldl (exec env) h

def Call.applied : Call → Option FirewallConfig
  | .apply config => config
  | _ => none

def Call.routed : Call → Option (Option SmartRouteConfig)
  | .applySmartRoutes config => some config
  | _ => none

def lastApplied (calls : List Call) : Option FirewallConfig :=
  calls.foldl (fun last call => call.applied.or last) none

def lastRouted (calls : List Call) : Option (Option SmartRouteConfig) :=
  calls.foldl (fun last call => call.routed.or last) none

theorem lastApplied_snoc (calls : List Call) (call : Call) :
    lastApplied (calls ++ [call]) = call.applied.or (lastApplied calls) := by
  rw [lastApplied, List.foldl_append]
  rfl

theorem lastRouted_snoc (calls : List Call) (call : Call) :
    lastRouted (calls ++ [call]) = call.routed.or (lastRouted calls) := by
  rw [lastRouted, List.foldl_append]
  rfl

def jumpsTo (c : String) (r : Rule) : Bool := r.target = some (.jump c)

def Free (rules : List Rule) : Prop :=
  ∀ r ∈ rules, jumpsTo outpostChain r = false ∧ jumpsTo smartChain r = false

def jumps (hooked : Bool) : List Rule :=
  if hooked then [smartJump, outpostJump] else [outpostJump]

structure Laid (h : Host) (fwd : List Rule) (hooked : Bool) (outpost : List Rule)
    (smart : Option (List Rule)) : Prop where
  forward : chain h "FORWARD" = some (jumps hooked ++ fwd)
  outpost : chain h outpostChain = some outpost
  smart : chain h smartChain = smart
  free : Free fwd
  others : ∀ c rules, c ≠ "FORWARD" → chain h c = some rules → Free rules

variable {rules : List Rule}

theorem free_of_verdicts (h : ∀ r ∈ rules, ∃ v, r.target = some (.verdict v)) : Free rules := by
  intro r hr
  obtain ⟨v, hv⟩ := h r hr
  simp [jumpsTo, hv]

theorem smartJump_not_mem (h : Free rules) : smartJump ∉ rules := by
  intro hin
  exact absurd (h smartJump hin).2 (by decide)

theorem not_jump_of_free (h : Free rules) : ∀ r ∈ rules, r.target ≠ some (.jump outpostChain) := by
  intro r hr htarget
  have hnot := (h r hr).1
  simp [jumpsTo, htarget] at hnot

theorem outpostJump_not_mem (h : Free rules) : outpostJump ∉ rules := by
  intro hin
  exact absurd (h outpostJump hin).1 (by decide)

section Laid

variable {h h' : Host} {fwd outpost : List Rule} {hooked : Bool} {smart : Option (List Rule)}

theorem Laid.wired (laid : Laid h fwd hooked outpost smart) : Wired h where
  forward := by
    refine ⟨_, laid.forward, ?_⟩
    rw [List.count_append, List.count_eq_zero.mpr (smartJump_not_mem laid.free)]
    cases hooked <;> decide
  outpost := ⟨outpost, laid.outpost⟩
  refs := by
    intro c rules hc r hr htarget
    have hjump : jumpsTo smartChain r = true := by simp [jumpsTo, htarget]
    by_cases hfw : c = "FORWARD"
    · subst hfw
      obtain rfl := Option.some.inj (laid.forward.symm.trans hc)
      rcases List.mem_append.mp hr with hr | hr
      · refine ⟨rfl, ?_⟩
        cases hooked with
        | true =>
          rcases List.mem_cons.mp hr with rfl | hr
          · rfl
          · obtain rfl := List.mem_singleton.mp hr
            exact absurd htarget (by decide)
        | false =>
          obtain rfl := List.mem_singleton.mp hr
          exact absurd htarget (by decide)
      · rw [(laid.free r hr).2] at hjump
        cases hjump
    · rw [(laid.others c rules hfw hc r hr).2] at hjump
      cases hjump

theorem Laid.update (laid : Laid h fwd hooked outpost smart) {hooked' : Bool}
    {outpost' : List Rule} {smart' : Option (List Rule)}
    (hforward : chain h' "FORWARD" = some (jumps hooked' ++ fwd))
    (houtpost : chain h' outpostChain = some outpost') (hfree : Free outpost')
    (hsmart : chain h' smartChain = smart') (hfree' : ∀ rules, smart' = some rules → Free rules)
    (hrest : ∀ c, c ≠ "FORWARD" → c ≠ outpostChain → c ≠ smartChain → chain h' c = chain h c) :
    Laid h' fwd hooked' outpost' smart' := by
  refine ⟨hforward, houtpost, hsmart, laid.free, ?_⟩
  intro c rules hfw hc
  by_cases ho : c = outpostChain
  · subst ho
    obtain rfl := Option.some.inj (houtpost.symm.trans hc)
    exact hfree
  · by_cases hs : c = smartChain
    · subst hs
      exact hfree' rules (hsmart.symm.trans hc)
    · rw [hrest c hfw ho hs] at hc
      exact laid.others c rules hfw hc

theorem Laid.free_outpost (laid : Laid h fwd hooked outpost smart) : Free outpost :=
  laid.others _ _ (by decide) laid.outpost

theorem Laid.free_smart (laid : Laid h fwd hooked outpost smart) :
    ∀ rules, smart = some rules → Free rules := by
  intro rules hrules
  exact laid.others smartChain rules (by decide) (laid.smart.trans hrules)

theorem free_smartRules {config : Option SmartRouteConfig} {rules : List Rule}
    (h : smartRules config = some rules) : Free rules := by
  cases config with
  | none => cases h
  | some config =>
    rw [smartRules] at h
    split at h
    · cases h
    · obtain rfl := Option.some.inj h
      exact free_of_verdicts (installedSmart_verdict config.rules)

variable {env : Env} (reliable : env.Reliable)
include reliable

theorem laid_first_init (hf : chain h "FORWARD" = some fwd)
    (hfree : ∀ c rules, chain h c = some rules → Free rules) :
    Laid (exec env h .init) fwd false ((chain h outpostChain).getD []) (chain h smartChain) := by
  obtain ⟨_, hfwd, houtpost, hrest⟩ := init_spec reliable hf
  rw [if_neg (outpostJump_not_mem (hfree _ _ hf))] at hfwd
  refine ⟨hfwd, houtpost, hrest _ (by decide) (by decide), hfree _ _ hf, ?_⟩
  intro c rules hfw hc
  by_cases ho : c = outpostChain
  · subst ho
    obtain rfl := Option.some.inj (houtpost.symm.trans hc)
    cases hl : chain h outpostChain with
    | none =>
      intro r hr
      cases hr
    | some old => exact hfree _ _ hl
  · exact hfree c rules ((hrest c ho hfw).symm.trans hc)

theorem laid_init (laid : Laid h fwd hooked outpost smart) :
    Laid (exec env h .init) fwd hooked outpost smart := by
  obtain ⟨_, hfwd, houtpost, hrest⟩ := init_spec reliable laid.forward
  have hin : outpostJump ∈ jumps hooked ++ fwd := by
    apply List.mem_append_left
    cases hooked <;> decide
  rw [if_pos hin] at hfwd
  rw [laid.outpost, Option.getD_some] at houtpost
  refine laid.update hfwd houtpost laid.free_outpost
    ((hrest _ (by decide) (by decide)).trans laid.smart) laid.free_smart ?_
  intro c hfw ho _
  exact hrest c ho hfw

theorem laid_apply (laid : Laid h fwd hooked outpost smart) (config : Option FirewallConfig) :
    Laid (exec env h (.apply config)) fwd hooked
      ((config.map forwardRules).getD outpost) smart := by
  cases config with
  | none => exact laid
  | some config =>
    obtain ⟨hself, hrest⟩ := apply_forwardRules reliable laid.wired config
    refine laid.update ((hrest _ (by decide)).trans laid.forward) hself
      (free_of_verdicts (forwardRules_verdict config)) ((hrest _ (by decide)).trans laid.smart)
      laid.free_smart ?_
    intro c _ ho _
    exact hrest c ho

theorem laid_applySmartRoutes (laid : Laid h fwd hooked outpost smart)
    (config : Option SmartRouteConfig) :
    Laid (exec env h (.applySmartRoutes config)) fwd (smartRules config).isSome outpost
      (smartRules config) := by
  obtain ⟨hsmart, hrest⟩ := applySmartRoutes_smartRules reliable laid.wired config
  have hforward := applySmartRoutes_forward reliable laid.wired laid.forward config
  have hnot := smartJump_not_mem laid.free
  have hjumps : (if (smartRules config).isSome = true then
      if smartJump ∈ jumps hooked ++ fwd then jumps hooked ++ fwd
      else smartJump :: (jumps hooked ++ fwd)
      else (jumps hooked ++ fwd).erase smartJump) = jumps (smartRules config).isSome ++ fwd := by
    have hne := outpostJump_ne_smartJump
    cases (smartRules config).isSome <;> cases hooked <;>
      simp [jumps, hne.symm, hnot, List.erase_of_not_mem]
  rw [hjumps] at hforward
  refine laid.update hforward ((hrest _ (by decide) (by decide)).trans laid.outpost)
    laid.free_outpost hsmart (fun rules => free_smartRules) ?_
  intro c hfw _ hs
  exact hrest c hs hfw

theorem laid_run (hf : chain h "FORWARD" = some fwd)
    (hfree : ∀ c rules, chain h c = some rules → Free rules) (calls : List Call) :
    Laid (runCalls env h calls) fwd
      (((lastRouted calls).map fun config => (smartRules config).isSome).getD false)
      (((lastApplied calls).map forwardRules).getD ((chain h outpostChain).getD []))
      (((lastRouted calls).map smartRules).getD (chain h smartChain)) := by
  induction calls using List.reverseRecOn with
  | nil => exact laid_first_init reliable hf hfree
  | append_singleton calls call ih =>
    have hrun : runCalls env h (calls ++ [call]) = exec env (runCalls env h calls) call := by
      rw [runCalls, ← List.cons_append, List.foldl_append]
      rfl
    rw [hrun, lastApplied_snoc, lastRouted_snoc]
    cases call with
    | init => exact laid_init reliable ih
    | apply config =>
      have hlaid := laid_apply reliable ih config
      cases config with
      | _ => exact hlaid
    | applySmartRoutes config => exact laid_applySmartRoutes reliable ih config

theorem cleanup_spec (laid : Laid h fwd hooked outpost smart) :
    chain (cleanup env h) "FORWARD" = some fwd ∧ chain (cleanup env h) outpostChain = none ∧
    chain (cleanup env h) smartChain = none ∧
    ∀ c, c ≠ "FORWARD" → c ≠ outpostChain → c ≠ smartChain →
      chain (cleanup env h) c = chain h c := by
  have hsdiff : smartChain ≠ outpostChain := by decide
  have hsf : smartChain ≠ "FORWARD" := by decide
  -- the smart chain goes first
  obtain ⟨hsmart, hforward, hrest⟩ := removeSmartChain_spec reliable laid.wired laid.forward
  have herase : (jumps hooked ++ fwd).erase smartJump = outpostJump :: fwd := by
    have hne := outpostJump_ne_smartJump
    have hnot := smartJump_not_mem laid.free
    cases hooked <;> simp [jumps, hne, List.erase_of_not_mem, hnot]
  rw [herase] at hforward
  have hfwd : ∀ r ∈ (outpostJump :: fwd).erase outpostJump,
      r.target ≠ some (.jump outpostChain) := by
    exact not_jump_of_free laid.free
  have hothers : ∀ c rules, c ≠ "FORWARD" → c ≠ outpostChain →
      chain (removeSmartChain env h) c = some rules →
      ∀ r ∈ rules, r.target ≠ some (.jump outpostChain) := by
    intro c rules hfw _ hc
    by_cases hs : c = smartChain
    · rw [hs, hsmart] at hc
      cases hc
    · rw [hrest c hs hfw] at hc
      exact not_jump_of_free (laid.others c rules hfw hc)
  obtain ⟨hgone, hforward', hrest'⟩ := removeChain_spec reliable (by decide) (by decide)
    parseRule_outpostJump hforward hfwd hothers rfl
  refine ⟨hforward', hgone, (hrest' _ hsdiff hsf).trans hsmart, ?_⟩
  intro c hfw ho hs
  exact (hrest' c ho hfw).trans (hrest c hs hfw)

theorem cleanup_free (laid : Laid h fwd hooked outpost smart) {c : String} {rules : List Rule}
    (hc : chain (cleanup env h) c = some rules) : Free rules := by
  obtain ⟨hforward, houtpost, hsmart, hrest⟩ := cleanup_spec reliable laid
  by_cases hfw : c = "FORWARD"
  · subst hfw
    obtain rfl := Option.some.inj (hforward.symm.trans hc)
    exact laid.free
  · by_cases ho : c = outpostChain
    · rw [ho, houtpost] at hc
      cases hc
    · by_cases hs : c = smartChain
      · rw [hs, hsmart] at hc
        cases hc
      · rw [hrest c hfw ho hs] at hc
        exact laid.others c rules hfw hc

end Laid

theorem countP_free (h : Free rules) :
    rules.countP (jumpsTo outpostChain) = 0 ∧ rules.countP (jumpsTo smartChain) = 0 := by
  constructor
  · apply List.countP_eq_zero.mpr
    intro r hr
    simp [(h r hr).1]
  · apply List.countP_eq_zero.mpr
    intro r hr
    simp [(h r hr).2]

theorem countP_jumps (hooked : Bool) {fwd : List Rule} (h : Free fwd) :
    (jumps hooked ++ fwd).countP (jumpsTo outpostChain) = 1 ∧
    (jumps hooked ++ fwd).countP (jumpsTo smartChain) ≤ 1 := by
  obtain ⟨houtpost, hsmart⟩ := countP_free h
  rw [List.countP_append, List.countP_append, houtpost, hsmart]
  cases hooked <;> decide

theorem jumps_append (hooked : Bool) (fwd : List Rule) :
    jumps hooked ++ fwd = outpostJump :: fwd ∨
      jumps hooked ++ fwd = smartJump :: outpostJump :: fwd := by
  cases hooked with
  | false => exact .inl rfl
  | true => exact .inr rfl

theorem isSome_smartRules (config : Option SmartRouteConfig) :
    (smartRules config).isSome = true ↔ ∃ routes, config = some routes ∧ routes.rules ≠ [] := by
  cases config with
  | none => simp [smartRules]
  | some routes =>
    by_cases hempty : routes.rules = []
    · simp [smartRules]
    · simp [smartRules]

/-- Calls in any order after `Init`: `FORWARD` has one jump to `OUTPOST-FWD` and at most one to
`OUTPOST-SMART`, which then stands first; each chain holds what the last config made of it; and
`Cleanup` leaves neither chain nor jump. -/
theorem chain_wiring {env : Env} (reliable : env.Reliable) {h : Host} {fwd : List Rule}
    (hf : chain h "FORWARD" = some fwd)
    (hfree : ∀ c rules, chain h c = some rules → Free rules) (calls : List Call) :
    (∃ rules, chain (runCalls env h calls) "FORWARD" = some rules ∧
      rules.countP (jumpsTo outpostChain) = 1 ∧ rules.countP (jumpsTo smartChain) ≤ 1 ∧
      (rules = outpostJump :: fwd ∨ rules = smartJump :: outpostJump :: fwd)) ∧
    (∀ config, lastRouted calls = some config →
      ((chain (runCalls env h calls) smartChain).isSome = true ↔
        ∃ routes, config = some routes ∧ routes.rules ≠ []) ∧
      chain (runCalls env h calls) smartChain = smartRules config) ∧
    (lastRouted calls = none →
      chain (runCalls env h calls) smartChain = chain h smartChain) ∧
    (∀ config, lastApplied calls = some config →
      chain (runCalls env h calls) outpostChain = some (forwardRules config)) ∧
    (lastApplied calls = none →
      chain (runCalls env h calls) outpostChain = some ((chain h outpostChain).getD [])) ∧
    (chain (cleanup env (runCalls env h calls)) outpostChain = none ∧
      chain (cleanup env (runCalls env h calls)) smartChain = none ∧
      ∀ c rules, chain (cleanup env (runCalls env h calls)) c = some rules → Free rules) := by
  have laid := laid_run reliable hf hfree calls
  obtain ⟨hone, hatMost⟩ := countP_jumps
    (((lastRouted calls).map fun config => (smartRules config).isSome).getD false) laid.free
  obtain ⟨_, hgone, hsmartGone, _⟩ := cleanup_spec reliable laid
  have hsmart := laid.smart
  have houtpost := laid.outpost
  refine ⟨⟨_, laid.forward, hone, hatMost, jumps_append _ fwd⟩, ?_, ?_, ?_, ?_, hgone, hsmartGone,
    fun c rules => cleanup_free reliable laid⟩
  · intro config hlast
    rw [hlast, Option.map_some, Option.getD_some] at hsmart
    exact ⟨by rw [hsmart, isSome_smartRules], hsmart⟩
  · intro hlast
    rw [hlast] at hsmart
    exact hsmart
  · intro config hlast
    rw [hlast] at houtpost
    exact houtpost
  · intro hlast
    rw [hlast] at houtpost
    exact houtpost

open GatewayAgent FirewallRefresh

def someCalls : List Call :=
  [.apply (some blockedConfig), .applySmartRoutes (some (routed "block")), .init,
    .applySmartRoutes none, .applySmartRoutes (some (routed "direct"))]

theorem bareHost_free (c : String) (rules : List Rule) (hc : chain bareHost c = some rules) :
    Free rules := by
  obtain rfl := bareHost_rules hc
  intro r hr
  cases hr

theorem wiring_in_use :
    chain bareHost "FORWARD" = some [] ∧
    chain (runCalls textKeys.fw bareHost someCalls) outpostChain =
      some (forwardRules blockedConfig) ∧
    chain (runCalls textKeys.fw bareHost someCalls) smartChain =
      smartRules (some (routed "direct")) ∧
    chain (cleanup textKeys.fw (runCalls textKeys.fw bareHost someCalls)) outpostChain = none := by
  have hwiring := chain_wiring textKeys_reliable rfl bareHost_free someCalls
  obtain ⟨_, hrouted, _, happlied, _, hcleaned⟩ := hwiring
  exact ⟨rfl, happlied _ rfl, (hrouted _ rfl).2, hcleaned.1⟩

end Outpost.ChainWiring
