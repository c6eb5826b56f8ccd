import Outpost.FirewallManagerStructure

/-!
# The smart-route chain

`Wired` is what every operation of the manager keeps: `FORWARD` and `OUTPOST-FWD` exist, and
nothing but one plain jump in `FORWARD` refers to `OUTPOST-SMART`.
-/

namespace Outpost.FirewallManager

open Iptables

def installedSmart (rule : SmartRouteRule) : Option Rule :=
  if rule.entryType = "cidr" then
    (smartAction rule.action).bind fun action => parseRule ["-d", rule.value, "-j", action]
  else none

def jumpTo (c : String) : Rule := { target := some (.jump c) }

abbrev smartJump : Rule := jumpTo smartChain

theorem parseRule_smartJump : parseRule ["-j", smartChain] = some smartJump := by decide

theorem parseRule_outpostJump : parseRule ["-j", outpostChain] = some (jumpTo outpostChain) := by
  decide

theorem installedSmart_target {rule : SmartRouteRule} {action : String} {r : Rule}
    (ha : smartAction rule.action = some action)
    (hr : parseRule ["-d", rule.value, "-j", action] = some r) :
    ∃ v, r.target = some (.verdict v) := by
  have htarget : ∃ v, parseTarget action = .verdict v := by
    unfold smartAction at ha
    split at ha
    · obtain rfl := Option.some.inj ha
      exact ⟨.drop, rfl⟩
    · split at ha
      · obtain rfl := Option.some.inj ha
        exact ⟨.accept, rfl⟩
      · cases ha
  obtain ⟨v, hv⟩ := htarget
  obtain ⟨r', _, hr⟩ := Option.bind_eq_some_iff.mp hr
  obtain rfl : { r' with target := some (parseTarget action) } = r := Option.some.inj hr
  exact ⟨v, congrArg some hv⟩

/-- `FORWARD` and `OUTPOST-FWD` exist, and at most one rule jumps to `OUTPOST-SMART`, the plain jump
in `FORWARD`. -/
structure Wired (h : Host) : Prop where
  forward : ∃ rules, chain h "FORWARD" = some rules ∧ rules.count smartJump ≤ 1
  outpost : ∃ rules, chain h outpostChain = some rules
  refs : ∀ c rules, chain h c = some rules → ∀ r ∈ rules,
    r.target = some (.jump smartChain) → c = "FORWARD" ∧ r = smartJump

variable {env : Env} (reliable : env.Reliable)
include reliable

variable {h h' : Host} {rules fwd : List Rule} {c : String}

theorem applySmartRoute_chain (hc : chain h smartChain = some rules) (rule : SmartRouteRule) :
    chain (applySmartRoute env h rule) smartChain = some (rules ++ (installedSmart rule).toList) ∧
    ∀ c ≠ smartChain, chain (applySmartRoute env h rule) c = chain h c := by
  unfold applySmartRoute installedSmart
  by_cases hcidr : rule.entryType = "cidr"
  · simp only [hcidr, if_true]
    cases ha : smartAction rule.action with
    | none => simp [hc]
    | some action =>
      rw [Option.bind_some]
      cases hr : parseRule ["-d", rule.value, "-j", action] with
      | none =>
        refine ⟨?_, ?_⟩
        · rw [chain_append_refused hr, hc]
          simp
        · intro c _
          exact chain_append_refused hr c
      | some r =>
        obtain ⟨v, hv⟩ := installedSmart_target ha hr
        exact chain_append (reliable _) hc hr hv
  · simp [hcidr, hc]

theorem applySmartRules_chain (config : List SmartRouteRule) (hc : chain h smartChain = some rules)
    :
    chain (config.foldl (applySmartRoute env) h) smartChain =
      some (rules ++ config.filterMap installedSmart) ∧
    ∀ c ≠ smartChain, chain (config.foldl (applySmartRoute env) h) c = chain h c := by
  induction config generalizing h rules with
  | nil => simp [hc]
  | cons rule config ih =>
    obtain ⟨hself, hother⟩ := applySmartRoute_chain reliable hc rule
    obtain ⟨hself', hother'⟩ := ih hself
    rw [List.foldl_cons]
    refine ⟨?_, ?_⟩
    · rw [hself', List.append_assoc]
      cases hi : installedSmart rule <;> simp [hi]
    · intro c hne
      rw [hother' c hne, hother c hne]

theorem chain_newChain (h : Host) (c : String) :
    chain (run env ["-N", c] h).2 c = some ((chain h c).getD []) ∧
    ∀ c' ≠ c, chain (run env ["-N", c] h).2 c' = chain h c' := by
  have hf := (run_filter h (reliable _) "-N" [c] (by decide)).2
  rw [execOn_newChain] at hf
  unfold chain
  rw [hf, newChain]
  cases hl : h.nf.filter.lookup c with
  | some rules => simp [hl]
  | none =>
    refine ⟨AList.lookup_insert _, ?_⟩
    intro c' hne
    exact AList.lookup_insert_ne hne

theorem ensureJump_chain (hj : parseRule ["-j", c] = some (jumpTo c))
    (hf : chain h "FORWARD" = some fwd) (hs : chain h c = some rules) :
    (ensureJump env c h).1 = true ∧
    chain (ensureJump env c h).2 "FORWARD" =
      some (if jumpTo c ∈ fwd then fwd else jumpTo c :: fwd) ∧
    ∀ c' ≠ "FORWARD", chain (ensureJump env c h).2 c' = chain h c' := by
  obtain ⟨hok, hcheck⟩ := run_filter h (reliable _) "-C" ["FORWARD", "-j", c] (by decide)
  have hf' : h.nf.filter.lookup "FORWARD" = some fwd := hf
  rw [execOn_check, check, hf', hj] at hok hcheck
  unfold ensureJump
  cases hrun : run env ["-C", "FORWARD", "-j", c] h with
  | mk ok h₁ =>
    rw [hrun] at hok hcheck
    by_cases hin : jumpTo c ∈ fwd
    · simp only [hin, if_true, Option.isSome_some, Option.getD_some] at hok hcheck ⊢
      subst hok
      unfold chain
      simp only [hcheck, hf', implies_true, and_self]
    · simp only [hin, if_false, Option.isSome_none, Option.getD_none] at hok hcheck ⊢
      subst hok
      obtain ⟨hok, hins⟩ := run_filter h₁ (reliable _) "-I" ["FORWARD", "1", "-j", c] (by decide)
      have hexists : targetExists h₁.nf.filter (jumpTo c) = true := by
        have hs' : h.nf.filter.lookup c = some rules := hs
        simp [targetExists, jumpTo, hcheck, hs']
      have hinsert : insertAt "FORWARD" 1 ["-j", c] h₁.nf.filter =
          some (h₁.nf.filter.insert "FORWARD" (jumpTo c :: fwd)) := by
        rw [insertAt, hcheck, hf', hj]
        rw [hcheck] at hexists
        simp [hexists]
      rw [execOn_insertFirst, hinsert] at hok hins
      refine ⟨hok, ?_, ?_⟩
      · unfold chain
        rw [hins]
        exact AList.lookup_insert _
      · intro c' hne
        unfold chain
        rw [hins, Option.getD_some, AList.lookup_insert_ne hne, hcheck]

theorem applySmartRoutes_install {config : SmartRouteConfig} (hne : config.rules ≠ [])
    (hf : chain h "FORWARD" = some fwd) :
    (applySmartRoutes env (some config) h).1 = none ∧
    chain (applySmartRoutes env (some config) h).2 smartChain =
      some (config.rules.filterMap installedSmart) ∧
    chain (applySmartRoutes env (some config) h).2 "FORWARD" =
      some (if smartJump ∈ fwd then fwd else smartJump :: fwd) ∧
    ∀ c, c ≠ smartChain → c ≠ "FORWARD" →
      chain (applySmartRoutes env (some config) h).2 c = chain h c := by
  have hdiff : "FORWARD" ≠ smartChain := by decide
  obtain ⟨hnew, hnewrest⟩ := chain_newChain reliable h smartChain
  obtain ⟨hok, hempty⟩ := flush_succeeds (reliable _) hnew
  have hflushrest := (chain_flush (run env ["-N", smartChain] h).2 (reliable _) smartChain).2
  unfold applySmartRoutes
  simp only [hne, if_false]
  cases hrun : run env ["-F", smartChain] (run env ["-N", smartChain] h).2 with
  | mk ok h₁ =>
    rw [hrun] at hok hempty hflushrest
    subst hok
    have hfwd : chain h₁ "FORWARD" = some fwd := by
      rw [hflushrest _ hdiff, hnewrest _ hdiff, hf]
    obtain ⟨hjok, hjump, hjumprest⟩ := ensureJump_chain reliable parseRule_smartJump hfwd hempty
    dsimp only
    cases hens : ensureJump env smartChain h₁ with
    | mk ok h₂ =>
      rw [hens] at hjok hjump hjumprest
      subst hjok
      have hsmart : chain h₂ smartChain = some [] := by rw [hjumprest _ hdiff.symm, hempty]
      obtain ⟨hrules, hrulesrest⟩ := applySmartRules_chain reliable config.rules hsmart
      refine ⟨rfl, hrules, ?_, ?_⟩
      · rw [hrulesrest _ hdiff, hjump]
      · intro c hs hfw
        rw [hrulesrest c hs, hjumprest c hfw, hflushrest c hs, hnewrest c hs]

theorem chain_delete {args : List String} {r : Rule} (hc : chain h c = some rules)
    (hr : parseRule args = some r) :
    chain (run env ("-D" :: c :: args) h).2 c = some (rules.erase r) ∧
    ∀ c' ≠ c, chain (run env ("-D" :: c :: args) h).2 c' = chain h c' := by
  have hf := (run_filter h (reliable _) "-D" (c :: args) (by decide)).2
  have hc' : h.nf.filter.lookup c = some rules := hc
  rw [execOn_delete, delete, hc', hr] at hf
  unfold chain
  rw [hf]
  by_cases hin : r ∈ rules
  · simp only [hin, if_true, Option.getD_some]
    refine ⟨AList.lookup_insert _, ?_⟩
    intro c' hne
    exact AList.lookup_insert_ne hne
  · simp [hin, hc', List.erase_of_not_mem hin]

theorem chain_deleteChain (hb : builtin c = false) (hc : chain h c = some [] ∨ chain h c = none)
    (hrefs : ∀ c' rules, chain h c' = some rules → ∀ r ∈ rules, r.target ≠ some (.jump c)) :
    chain (run env ["-X", c] h).2 c = none ∧
    ∀ c' ≠ c, chain (run env ["-X", c] h).2 c' = chain h c' := by
  have hf := (run_filter h (reliable _) "-X" [c] (by decide)).2
  have hunref : referenced h.nf.filter c = false := by
    apply List.any_eq_false.mpr
    intro e he hany
    obtain ⟨r, hr, htarget⟩ := List.any_eq_true.mp hany
    exact hrefs e.1 e.2 (GoMap.mem_pairs.mp he) r hr (by simpa using htarget)
  rw [execOn_deleteChain, deleteChain] at hf
  rcases hc with hc | hc
  · have hc' : h.nf.filter.lookup c = some [] := hc
    rw [if_pos ⟨hc', hunref, hb⟩, Option.getD_some] at hf
    unfold chain
    rw [hf]
    refine ⟨AList.lookup_erase _ _, ?_⟩
    intro c' hne
    exact AList.lookup_erase_ne hne
  · have hc' : h.nf.filter.lookup c = none := hc
    rw [if_neg (by simp [hc']), Option.getD_none] at hf
    unfold chain
    rw [hf]
    exact ⟨hc', fun _ _ => rfl⟩

theorem removeChain_spec (hb : builtin c = false) (hdiff : "FORWARD" ≠ c)
    (hj : parseRule ["-j", c] = some (jumpTo c)) (hf : chain h "FORWARD" = some fwd)
    (hfwd : ∀ r ∈ fwd.erase (jumpTo c), r.target ≠ some (.jump c))
    (hothers : ∀ c' rules, c' ≠ "FORWARD" → c' ≠ c → chain h c' = some rules → ∀ r ∈ rules, r.target ≠ some (.jump c))
    (hh' : h' = (run env ["-X", c] (run env ["-F", c] (run env ["-D", "FORWARD", "-j", c] h).2).2).2)
    :
    chain h' c = none ∧ chain h' "FORWARD" = some (fwd.erase (jumpTo c)) ∧
    ∀ c', c' ≠ c → c' ≠ "FORWARD" → chain h' c' = chain h c' := by
  obtain ⟨hdel, hdelrest⟩ := chain_delete reliable hf hj
  generalize (run env ["-D", "FORWARD", "-j", c] h).2 = h₁ at hdel hdelrest hh'
  obtain ⟨hflush, hflushrest⟩ := chain_flush h₁ (reliable _) c
  generalize (run env ["-F", c] h₁).2 = h₂ at hflush hflushrest hh'
  have hrefs : ∀ c' rules, chain h₂ c' = some rules → ∀ r ∈ rules, r.target ≠ some (.jump c) := by
    intro c' rules hc' r hr
    by_cases hc : c' = c
    · subst hc
      rw [hflush] at hc'
      obtain ⟨_, _, rfl⟩ := Option.map_eq_some_iff.mp hc'
      cases hr
    · rw [hflushrest c' hc] at hc'
      by_cases hfw : c' = "FORWARD"
      · subst hfw
        obtain rfl := Option.some.inj (hdel.symm.trans hc')
        exact hfwd r hr
      · rw [hdelrest c' hfw] at hc'
        exact hothers c' rules hfw hc hc' r hr
  have hcleared : chain h₂ c = some [] ∨ chain h₂ c = none := by
    rw [hflush]
    cases chain h₁ c with
    | none => exact .inr rfl
    | some _ => exact .inl rfl
  obtain ⟨hgone, hrest⟩ := chain_deleteChain reliable hb hcleared hrefs
  rw [hh']
  refine ⟨hgone, ?_, ?_⟩
  · exact (hrest _ hdiff).trans ((hflushrest _ hdiff).trans hdel)
  · intro c' hc hfw
    exact (hrest c' hc).trans ((hflushrest c' hc).trans (hdelrest c' hfw))

theorem removeSmartChain_spec (wired : Wired h) (hf : chain h "FORWARD" = some fwd) :
    chain (removeSmartChain env h) smartChain = none ∧
    chain (removeSmartChain env h) "FORWARD" = some (fwd.erase smartJump) ∧
    ∀ c, c ≠ smartChain → c ≠ "FORWARD" → chain (removeSmartChain env h) c = chain h c := by
  refine removeChain_spec reliable (by decide) (by decide) parseRule_smartJump hf ?_ ?_ rfl
  · intro r hr htarget
    obtain ⟨_, rfl⟩ := wired.refs _ _ hf r (List.mem_of_mem_erase hr) htarget
    obtain ⟨fwd', hf', hcount⟩ := wired.forward
    obtain rfl : fwd = fwd' := Option.some.inj (hf.symm.trans hf')
    have hpos := List.count_pos_iff.mpr hr
    rw [List.count_erase_self] at hpos
    omega
  · intro c rules hfw _ hc r hr htarget
    exact hfw (wired.refs c rules hc r hr htarget).1

omit reliable

def forwardRules (config : FirewallConfig) : List Rule :=
  conntrackRule :: config.rules.filterMap installed

def smartRules : Option SmartRouteConfig → Option (List Rule)
  | none => none
  | some config => if config.rules = [] then none else some (config.rules.filterMap installedSmart)

theorem forwardRules_verdict (config : FirewallConfig) :
    ∀ r ∈ forwardRules config, ∃ v, r.target = some (.verdict v) := by
  intro r hr
  rcases List.mem_cons.mp hr with rfl | hr
  · exact ⟨.accept, rfl⟩
  · obtain ⟨rule, _, hi⟩ := List.mem_filterMap.mp hr
    exact installed_target hi

theorem installedSmart_verdict (rules : List SmartRouteRule) :
    ∀ r ∈ rules.filterMap installedSmart, ∃ v, r.target = some (.verdict v) := by
  intro r hr
  obtain ⟨rule, _, hi⟩ := List.mem_filterMap.mp hr
  unfold installedSmart at hi
  split at hi
  · obtain ⟨action, ha, hparse⟩ := Option.bind_eq_some_iff.mp hi
    exact installedSmart_target ha hparse
  · cases hi

theorem Wired.of_verdicts (wired : Wired h) (hne : c ≠ "FORWARD") (hc : chain h' c = some rules)
    (hverdict : ∀ r ∈ rules, ∃ v, r.target = some (.verdict v))
    (hrest : ∀ c' ≠ c, chain h' c' = chain h c') : Wired h' where
  forward := by
    rw [hrest _ hne.symm]
    exact wired.forward
  outpost := by
    by_cases ho : outpostChain = c
    · exact ⟨rules, by rw [ho]; exact hc⟩
    · rw [hrest _ ho]
      exact wired.outpost
  refs := by
    intro c' rules' hc' r hr htarget
    by_cases heq : c' = c
    · subst heq
      obtain rfl := Option.some.inj (hc.symm.trans hc')
      obtain ⟨v, hv⟩ := hverdict r hr
      rw [hv] at htarget
      cases htarget
    · rw [hrest c' heq] at hc'
      exact wired.refs c' rules' hc' r hr htarget

include reliable

theorem apply_forwardRules (wired : Wired h) (config : FirewallConfig) :
    chain (apply env (some config) h).2 outpostChain = some (forwardRules config) ∧
    ∀ c ≠ outpostChain, chain (apply env (some config) h).2 c = chain h c := by
  obtain ⟨rules, hc⟩ := wired.outpost
  exact (apply_spec reliable config hc).2

theorem wired_apply (wired : Wired h) (config : Option FirewallConfig) :
    Wired (apply env config h).2 := by
  cases config with
  | none => exact wired
  | some config =>
    obtain ⟨hself, hrest⟩ := apply_forwardRules reliable wired config
    exact wired.of_verdicts (by decide) hself (forwardRules_verdict config) hrest

theorem applySmartRoutes_smartRules (wired : Wired h) (config : Option SmartRouteConfig) :
    chain (applySmartRoutes env config h).2 smartChain = smartRules config ∧
    ∀ c, c ≠ smartChain → c ≠ "FORWARD" → chain (applySmartRoutes env config h).2 c =
      chain h c := by
  obtain ⟨fwd, hf, _⟩ := wired.forward
  have hremove := removeSmartChain_spec reliable wired hf
  cases config with
  | none => exact ⟨hremove.1, hremove.2.2⟩
  | some config =>
    by_cases hempty : config.rules = []
    · unfold applySmartRoutes smartRules
      simp only [hempty, if_true]
      exact ⟨hremove.1, hremove.2.2⟩
    · obtain ⟨_, hsmart, _, hrest⟩ := applySmartRoutes_install reliable hempty hf
      refine ⟨?_, hrest⟩
      rw [hsmart, smartRules, if_neg hempty]

theorem wired_removeSmartChain (wired : Wired h) : Wired (removeSmartChain env h) := by
  obtain ⟨fwd, hf, hcount⟩ := wired.forward
  obtain ⟨hgone, hfwd, hrest⟩ := removeSmartChain_spec reliable wired hf
  refine ⟨⟨_, hfwd, ?_⟩, ?_, ?_⟩
  · exact (List.erase_sublist.count_le _).trans hcount
  · rw [hrest _ (by decide) (by decide)]
    exact wired.outpost
  · intro c rules hc r hr htarget
    by_cases hs : c = smartChain
    · rw [hs, hgone] at hc
      cases hc
    · by_cases hfw : c = "FORWARD"
      · subst hfw
        obtain rfl := Option.some.inj (hfwd.symm.trans hc)
        exact wired.refs _ _ hf r (List.mem_of_mem_erase hr) htarget
      · rw [hrest c hs hfw] at hc
        exact wired.refs c rules hc r hr htarget

theorem wired_applySmartRoutes (wired : Wired h) (config : Option SmartRouteConfig) :
    Wired (applySmartRoutes env config h).2 := by
  cases config with
  | none => exact wired_removeSmartChain reliable wired
  | some config =>
    by_cases hempty : config.rules = []
    · unfold applySmartRoutes
      simp only [hempty, if_true]
      exact wired_removeSmartChain reliable wired
    · obtain ⟨fwd, hf, hcount⟩ := wired.forward
      obtain ⟨_, hsmart, hfwd, hrest⟩ := applySmartRoutes_install reliable hempty hf
      refine ⟨⟨_, hfwd, ?_⟩, ?_, ?_⟩
      · split
        · exact hcount
        · rename_i hnotin
          rw [List.count_cons_self, List.count_eq_zero.mpr hnotin]
      · rw [hrest _ (by decide) (by decide)]
        exact wired.outpost
      · intro c rules hc r hr htarget
        by_cases hs : c = smartChain
        · subst hs
          obtain rfl := Option.some.inj (hsmart.symm.trans hc)
          obtain ⟨v, hv⟩ := installedSmart_verdict config.rules r hr
          rw [hv] at htarget
          cases htarget
        · by_cases hfw : c = "FORWARD"
          · subst hfw
            obtain rfl := Option.some.inj (hfwd.symm.trans hc)
            split at hr
            · exact wired.refs _ _ hf r hr htarget
            · rcases List.mem_cons.mp hr with rfl | hr
              · exact ⟨rfl, rfl⟩
              · exact wired.refs _ _ hf r hr htarget
          · rw [hrest c hs hfw] at hc
            exact wired.refs c rules hc r hr htarget

theorem init_spec (hf : chain h "FORWARD" = some fwd) :
    (init env h).1 = none ∧
    chain (init env h).2 "FORWARD" =
      some (if jumpTo outpostChain ∈ fwd then fwd else jumpTo outpostChain :: fwd) ∧
    chain (init env h).2 outpostChain = some ((chain h outpostChain).getD []) ∧
    ∀ c, c ≠ outpostChain → c ≠ "FORWARD" → chain (init env h).2 c = chain h c := by
  have hdiff : "FORWARD" ≠ outpostChain := by decide
  obtain ⟨hnew, hnewrest⟩ := chain_newChain reliable h outpostChain
  have hf₁ : chain (run env ["-N", outpostChain] h).2 "FORWARD" = some fwd := by
    rw [hnewrest _ hdiff, hf]
  obtain ⟨hok, hfwd, hrest⟩ := ensureJump_chain reliable parseRule_outpostJump hf₁ hnew
  unfold init
  cases hens : ensureJump env outpostChain (run env ["-N", outpostChain] h).2 with
  | mk ok h₁ =>
    rw [hens] at hok hfwd hrest
    subst hok
    refine ⟨rfl, hfwd, (hrest _ hdiff.symm).trans hnew, ?_⟩
    intro c ho hfw
    exact (hrest c hfw).trans (hnewrest c ho)

theorem wired_init (hf : chain h "FORWARD" = some fwd)
    (hrefs : ∀ c rules, chain h c = some rules → ∀ r ∈ rules, r.target ≠ some (.jump smartChain)) :
    (init env h).1 = none ∧ Wired (init env h).2 := by
  obtain ⟨hok, hfwd, houtpost, hrest⟩ := init_spec reliable hf
  have hnot : ∀ c rules, chain (init env h).2 c = some rules → ∀ r ∈ rules,
      r.target ≠ some (.jump smartChain) := by
    intro c rules hc r hr htarget
    by_cases hfw : c = "FORWARD"
    · subst hfw
      obtain rfl := Option.some.inj (hfwd.symm.trans hc)
      split at hr
      · exact hrefs _ _ hf r hr htarget
      · rcases List.mem_cons.mp hr with rfl | hr
        · exact absurd htarget (by decide)
        · exact hrefs _ _ hf r hr htarget
    · by_cases ho : c = outpostChain
      · subst ho
        obtain rfl := Option.some.inj (houtpost.symm.trans hc)
        cases hl : chain h outpostChain with
        | none => simp [hl] at hr
        | some old =>
          simp only [hl, Option.getD_some] at hr
          exact hrefs _ _ hl r hr htarget
      · rw [hrest c ho hfw] at hc
        exact hrefs c rules hc r hr htarget
  refine ⟨hok, ⟨_, hfwd, ?_⟩, ⟨_, houtpost⟩, ?_⟩
  · rw [List.count_eq_zero.mpr]
    · exact Nat.zero_le _
    · intro hin
      exact hnot _ _ hfwd smartJump hin rfl
  · intro c rules hc r hr htarget
    exact absurd htarget (hnot c rules hc r hr)

end Outpost.FirewallManager
