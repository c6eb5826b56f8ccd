import Outpost.FirewallManager
import Outpost.Shared.FirstMatch

/-!
# What the firewall manager installs

On a machine where no command fails for a reason of its own, the content of each chain is computed
from the config alone. Rules that `iptables` refuses are skipped, as in the source.
-/

namespace Outpost.FirewallManager

open Iptables FirstMatch

def chain (h : Host) (c : String) : Option (List Rule) := h.nf.filter.lookup c

section Run

variable {env : Env}

theorem run_issued (env : Env) (args : List String) (h : Host) :
    (run env args h).2.issued = h.issued + 1 := by
  unfold run
  split
  · rfl
  · cases exec args h.nf <;> rfl

theorem run_faulty {h : Host} (hfault : env.fault h.issued = true) (args : List String) :
    run env args h = (false, { h with issued := h.issued + 1 }) := by
  unfold run
  rw [if_pos hfault]

theorem run_filter (h : Host) (hok : env.fault h.issued = false) (op : String) (args : List String)
    (hop : op ≠ "-t") :
    (run env (op :: args) h).1 = (execOn (op :: args) h.nf.filter).isSome ∧
    (run env (op :: args) h).2.nf.filter = (execOn (op :: args) h.nf.filter).getD h.nf.filter := by
  have hexec : exec (op :: args) h.nf =
      (execOn (op :: args) h.nf.filter).map fun t => { h.nf with filter := t } := by
    unfold exec
    split
    · rename_i heq
      exact absurd (List.cons.inj heq).1 hop
    · rfl
  unfold run
  rw [hok, hexec]
  cases execOn (op :: args) h.nf.filter <;> simp

theorem run_nat_filter (env : Env) (h : Host) (cmd : List String) :
    (run env ("-t" :: "nat" :: cmd) h).2.nf.filter = h.nf.filter := by
  unfold run
  split
  · rfl
  · simp only [exec]
    cases execOn cmd h.nf.nat <;> simp

theorem configureNat_filter (h : Host) (config : FirewallConfig) :
    (configureNat env config h).nf.filter = h.nf.filter := by
  unfold configureNat
  dsimp only
  generalize (if config.natInterface = "" then detectDefaultInterface env
    else config.natInterface) = natIface
  split
  · rfl
  · have hcheck := run_nat_filter env h
      ["-C", "POSTROUTING", "-o", natIface, "-j", "MASQUERADE"]
    split
    · rename_i h' heq
      rw [heq] at hcheck
      exact hcheck
    · rename_i h' heq
      rw [heq] at hcheck
      rw [run_nat_filter]
      exact hcheck

end Run

theorem conntrackDelete_nf (ip : List Char) (h : Host) : (conntrackDelete ip h).nf = h.nf := by
  unfold conntrackDelete
  split <;> rfl

theorem flushConntrack_nf (config : FirewallConfig) (h : Host) :
    (flushConntrackForDroppedSources config h).nf = h.nf := by
  unfold flushConntrackForDroppedSources
  generalize ([] : List String) = seen
  induction config.rules generalizing seen h with
  | nil => rfl
  | cons rule rules ih =>
    rw [List.foldl_cons]
    split
    · exact ih h seen
    · split
      · exact ih h seen
      · rw [ih]
        exact conntrackDelete_nf _ h

theorem parseOptions_append (r : Rule) {xs : List String} (even : xs.length % 2 = 0)
    (ys : List String) :
    parseOptions r (xs ++ ys) = (parseOptions r xs).bind fun r => parseOptions r ys := by
  induction xs using List.twoStepInduction generalizing r with
  | nil => rfl
  | singleton x => simp at even
  | cons_cons f v xs ih _ =>
    simp only [List.cons_append, parseOptions]
    cases applyOption r f v with
    | none => rfl
    | some r =>
      apply ih r
      simp only [List.length_cons] at even
      omega

def ruleOptions (rule : FirewallRule) : List String :=
  ["-s", rule.source] ++
    (if rule.destination ≠ "" then ["-d", rule.destination] else []) ++
    (if rule.protocol ≠ "" then
      ["-p", rule.protocol] ++ (if rule.port ≠ "" then ["--dport", rule.port] else [])
    else [])

theorem ruleOptions_even (rule : FirewallRule) : (ruleOptions rule).length % 2 = 0 := by
  unfold ruleOptions
  split_ifs <;> simp

def actionTarget : FirewallAction → Option String
  | .accept => some "ACCEPT"
  | .drop => some "DROP"
  | .unspecified => none

theorem buildRuleArgs_eq (rule : FirewallRule) :
    buildRuleArgs rule =
      if rule.source = "" then none
      else (actionTarget rule.action).map fun target =>
        "-A" :: outpostChain :: (ruleOptions rule ++ ["-j", target]) := by
  unfold buildRuleArgs ruleOptions
  cases rule.action <;> split_ifs <;> rfl

def installed (rule : FirewallRule) : Option Rule :=
  (buildRuleArgs rule).bind fun args => parseRule (args.drop 2)

variable {rule : FirewallRule} {r : Rule}

theorem installed_eq_some (h : installed rule = some r) :
    ∃ target, actionTarget rule.action = some target ∧
      buildRuleArgs rule = some ("-A" :: outpostChain :: (ruleOptions rule ++ ["-j", target])) ∧
      parseRule (ruleOptions rule ++ ["-j", target]) = some r := by
  obtain ⟨args, hargs, hparse⟩ := Option.bind_eq_some_iff.mp h
  have heq := buildRuleArgs_eq rule
  rw [hargs] at heq
  split at heq
  · cases heq
  · obtain ⟨target, htarget, rfl⟩ := Option.map_eq_some_iff.mp heq.symm
    exact ⟨target, htarget, hargs, hparse⟩

theorem parseTarget_actionTarget {action : FirewallAction} {target : String}
    (h : actionTarget action = some target) : ∃ v, parseTarget target = .verdict v := by
  cases action with
  | unspecified => cases h
  | accept =>
    obtain rfl : "ACCEPT" = target := Option.some.inj h
    exact ⟨.accept, rfl⟩
  | drop =>
    obtain rfl : "DROP" = target := Option.some.inj h
    exact ⟨.drop, rfl⟩

theorem installed_target (h : installed rule = some r) :
    ∃ v, r.target = some (.verdict v) := by
  obtain ⟨target, htarget, _, hparse⟩ := installed_eq_some h
  obtain ⟨v, hv⟩ := parseTarget_actionTarget htarget
  unfold parseRule at hparse
  rw [parseOptions_append _ (ruleOptions_even rule)] at hparse
  obtain ⟨r', _, hr⟩ := Option.bind_eq_some_iff.mp hparse
  obtain rfl : { r' with target := some (parseTarget target) } = r := Option.some.inj hr
  exact ⟨v, congrArg some hv⟩

def conntrackRule : Rule :=
  { ctstate := some [.established, .related], target := some (.verdict .accept) }

theorem parseRule_conntrack :
    parseRule ["-m", "conntrack", "--ctstate", "ESTABLISHED,RELATED", "-j", "ACCEPT"] =
      some conntrackRule := by decide

section Commands

variable {env : Env}
variable {h : Host} {c : String} {rules : List Rule} {args : List String}

theorem chain_append (hok : env.fault h.issued = false) {r : Rule} {v : Verdict}
    (hc : chain h c = some rules) (hr : parseRule args = some r) (hv : r.target = some (.verdict v))
    :
    chain (run env ("-A" :: c :: args) h).2 c = some (rules ++ [r]) ∧
    ∀ c' ≠ c, chain (run env ("-A" :: c :: args) h).2 c' = chain h c' := by
  have ht : targetExists h.nf.filter r = true := by simp [targetExists, hv]
  have hf := (run_filter h hok "-A" (c :: args) (by decide)).2
  rw [execOn_append, append_eq hc hr ht] at hf
  unfold chain
  rw [hf]
  refine ⟨AList.lookup_insert _, ?_⟩
  intro c' hc'
  exact AList.lookup_insert_ne hc'

theorem chain_append_refused (hr : parseRule args = none) (c' : String) :
    chain (run env ("-A" :: c :: args) h).2 c' = chain h c' := by
  cases hfault : env.fault h.issued with
  | true =>
    rw [run_faulty hfault]
    rfl
  | false =>
    unfold chain
    rw [(run_filter h hfault "-A" (c :: args) (by decide)).2, execOn_append, append_eq_none hr]
    rfl

theorem chain_flush (h : Host) (hok : env.fault h.issued = false) (c : String) :
    chain (run env ["-F", c] h).2 c = (chain h c).map (fun _ => []) ∧
    ∀ c' ≠ c, chain (run env ["-F", c] h).2 c' = chain h c' := by
  have hf := (run_filter h hok "-F" [c] (by decide)).2
  rw [execOn_flush, flush] at hf
  unfold chain
  rw [hf]
  cases hl : h.nf.filter.lookup c with
  | none => simp [hl]
  | some rules =>
    refine ⟨AList.lookup_insert _, ?_⟩
    intro c' hne
    exact AList.lookup_insert_ne hne

theorem flush_succeeds (hok : env.fault h.issued = false) (hc : chain h c = some rules) :
    (run env ["-F", c] h).1 = true ∧ chain (run env ["-F", c] h).2 c = some [] := by
  have hrun := (run_filter h hok "-F" [c] (by decide)).1
  have hc' : h.nf.filter.lookup c = some rules := hc
  rw [execOn_flush, flush, hc'] at hrun
  refine ⟨hrun, ?_⟩
  rw [(chain_flush h hok c).1, hc]
  rfl

theorem flush_fails (hc : env.fault h.issued = true ∨ chain h c = none) :
    (run env ["-F", c] h).1 = false ∧ ∀ c', chain (run env ["-F", c] h).2 c' = chain h c' := by
  cases hfault : env.fault h.issued with
  | true =>
    rw [run_faulty hfault]
    exact ⟨rfl, fun _ => rfl⟩
  | false =>
    have hnone : h.nf.filter.lookup c = none := hc.resolve_left (by simp [hfault])
    obtain ⟨hrun, hf⟩ := run_filter h hfault "-F" [c] (by decide)
    rw [execOn_flush, flush, hnone] at hrun hf
    refine ⟨hrun, ?_⟩
    intro c'
    unfold chain
    rw [hf]
    rfl

end Commands

/-- The rules that `iptables` takes, each with whether its command fails; `n` is the number of the
next command. -/
def attempts (fault : Nat → Bool) : Nat → List FirewallRule → List (Rule × Bool)
  | _, [] => []
  | n, rule :: rules =>
    match buildRuleArgs rule with
    | none => attempts fault n rules
    | some args =>
      ((parseRule (args.drop 2)).map fun r => (r, fault n)).toList ++ attempts fault (n + 1) rules

theorem map_attempts (fault : Nat → Bool) (n : Nat) (rules : List FirewallRule) :
    (attempts fault n rules).map Prod.fst = rules.filterMap installed := by
  induction rules generalizing n with
  | nil => rfl
  | cons rule rules ih =>
    cases hargs : buildRuleArgs rule with
    | none =>
      have hi : installed rule = none := by rw [installed, hargs]; rfl
      rw [attempts, hargs, List.filterMap_cons_none hi]
      exact ih n
    | some args =>
      have hi : installed rule = parseRule (args.drop 2) := by rw [installed, hargs]; rfl
      rw [attempts, hargs]
      rw [List.map_append, ih (n + 1)]
      cases hr : parseRule (args.drop 2) with
      | none => rw [List.filterMap_cons_none (hi.trans hr)]; rfl
      | some r => rw [List.filterMap_cons_some (hi.trans hr)]; rfl

theorem attempts_reliable {fault : Nat → Bool} (h : ∀ n, fault n = false) (n : Nat)
    (rules : List FirewallRule) : ∀ e ∈ attempts fault n rules, e.2 = false := by
  induction rules generalizing n with
  | nil =>
    intro e he
    cases he
  | cons rule rules ih =>
    rw [attempts]
    split
    · exact ih n
    · intro e he
      rcases List.mem_append.mp he with he | he
      · obtain ⟨r, _, rfl⟩ := Option.map_eq_some_iff.mp (Option.mem_toList.mp he)
        exact h n
      · exact ih (n + 1) e he

variable {env : Env}
variable {h : Host} {rules : List Rule}

theorem run_ruleArgs (env : Env) {args : List String} (hargs : buildRuleArgs rule = some args)
    (hc : chain h outpostChain = some rules) :
    chain (run env args h).2 outpostChain = some (rules ++
      survivors ((parseRule (args.drop 2)).map fun r => (r, env.fault h.issued)).toList) ∧
    ∀ c ≠ outpostChain, chain (run env args h).2 c = chain h c := by
  obtain ⟨target, htarget, rfl⟩ : ∃ target, actionTarget rule.action = some target ∧
      args = "-A" :: outpostChain :: (ruleOptions rule ++ ["-j", target]) := by
    have heq := buildRuleArgs_eq rule
    rw [hargs] at heq
    split at heq
    · cases heq
    · obtain ⟨target, htarget, hargs'⟩ := Option.map_eq_some_iff.mp heq.symm
      exact ⟨target, htarget, hargs'.symm⟩
  cases hr : parseRule (ruleOptions rule ++ ["-j", target]) with
  | none =>
    have hsame : ∀ c, chain (run env ("-A" :: outpostChain :: (ruleOptions rule ++
        ["-j", target])) h).2 c = chain h c := chain_append_refused hr
    refine ⟨?_, fun c _ => hsame c⟩
    rw [hsame, hc, List.drop_succ_cons, List.drop_succ_cons, List.drop_zero, hr]
    simp [survivors]
  | some r =>
    have hi : installed rule = some r := by rw [installed, hargs]; exact hr
    obtain ⟨v, hv⟩ := installed_target hi
    rw [List.drop_succ_cons, List.drop_succ_cons, List.drop_zero, hr]
    cases hfault : env.fault h.issued with
    | true =>
      rw [run_faulty hfault]
      refine ⟨?_, fun _ _ => rfl⟩
      change chain h outpostChain = _
      simp [hc, survivors]
    | false => exact chain_append hfault hc hr hv

theorem applyRules_chain (env : Env) (config : List FirewallRule)
    (hc : chain h outpostChain = some rules) :
    chain (config.foldl (applyRule env) h) outpostChain =
      some (rules ++ survivors (attempts env.fault h.issued config)) ∧
    ∀ c ≠ outpostChain, chain (config.foldl (applyRule env) h) c = chain h c := by
  induction config generalizing h rules with
  | nil => simp [hc, attempts, survivors]
  | cons rule config ih =>
    rw [List.foldl_cons, attempts, applyRule]
    cases hargs : buildRuleArgs rule with
    | none => exact ih hc
    | some args =>
      obtain ⟨hself, hother⟩ := run_ruleArgs env hargs hc
      obtain ⟨hself', hother'⟩ := ih hself
      rw [run_issued] at hself'
      refine ⟨?_, ?_⟩
      · rw [hself', survivors_append, List.append_assoc]
      · intro c hne
        rw [hother' c hne, hother c hne]

theorem apply_flushed (config : FirewallConfig) (hok : env.fault h.issued = false)
    (hc : chain h outpostChain = some rules) :
    (apply env (some config) h).1 = none ∧
    chain (apply env (some config) h).2 outpostChain =
      some (survivors ((conntrackRule, env.fault (h.issued + 1)) ::
        attempts env.fault (h.issued + 2) config.rules)) ∧
    ∀ c ≠ outpostChain, chain (apply env (some config) h).2 c = chain h c := by
  obtain ⟨hflush, hempty⟩ := flush_succeeds hok hc
  have hrest := (chain_flush h hok outpostChain).2
  have hissued := run_issued env ["-F", outpostChain] h
  unfold apply
  cases hrun : run env ["-F", outpostChain] h with
  | mk ok h₁ =>
    rw [hrun] at hflush hempty hrest hissued
    obtain rfl : ok = true := hflush
    have hconntrack : chain (run env conntrackArgs h₁).2 outpostChain =
          some (survivors [(conntrackRule, env.fault (h.issued + 1))]) ∧
        ∀ c ≠ outpostChain, chain (run env conntrackArgs h₁).2 c = chain h₁ c := by
      rw [← hissued]
      cases hfault : env.fault h₁.issued with
      | true =>
        rw [run_faulty hfault]
        exact ⟨hempty, fun _ _ => rfl⟩
      | false => exact chain_append hfault hempty parseRule_conntrack rfl
    obtain ⟨hct, hctrest⟩ := hconntrack
    obtain ⟨hrules, hrulesrest⟩ := applyRules_chain env config.rules hct
    rw [run_issued, hissued, ← survivors_append] at hrules
    -- NAT and connection tracking leave the filter table alone
    have hsame : ∀ (h₂ : Host) (c : String),
        chain (flushConntrackForDroppedSources config
          (if config.natEnabled = true then configureNat env config h₂ else h₂)) c =
            chain h₂ c := by
      intro h₂ c
      unfold chain
      rw [flushConntrack_nf]
      split
      · rw [configureNat_filter]
      · rfl
    refine ⟨rfl, ?_, ?_⟩
    · rw [hsame]
      exact hrules
    · intro c hne
      rw [hsame]
      exact (hrulesrest c hne).trans ((hctrest c hne).trans (hrest c hne))

theorem apply_not_flushed (config : FirewallConfig)
    (hc : env.fault h.issued = true ∨ chain h outpostChain = none) :
    (apply env (some config) h).1 = some (.flushChain outpostChain) ∧
    ∀ c, chain (apply env (some config) h).2 c = chain h c := by
  obtain ⟨hflush, hsame⟩ := flush_fails hc
  unfold apply
  cases hrun : run env ["-F", outpostChain] h with
  | mk ok h₁ =>
    rw [hrun] at hflush hsame
    obtain rfl : ok = false := hflush
    exact ⟨rfl, hsame⟩

theorem apply_spec (reliable : env.Reliable) (config : FirewallConfig)
    (hc : chain h outpostChain = some rules) :
    (apply env (some config) h).1 = none ∧
    chain (apply env (some config) h).2 outpostChain =
      some (conntrackRule :: config.rules.filterMap installed) ∧
    ∀ c ≠ outpostChain, chain (apply env (some config) h).2 c = chain h c := by
  obtain ⟨hok, hrules, hrest⟩ := apply_flushed config (reliable _) hc
  refine ⟨hok, ?_, hrest⟩
  have hnone : ∀ e ∈ (conntrackRule, env.fault (h.issued + 1)) ::
      attempts env.fault (h.issued + 2) config.rules, e.2 = false := by
    intro e he
    rcases List.mem_cons.mp he with rfl | he
    · exact reliable _
    · exact attempts_reliable reliable _ _ e he
  rw [hrules, survivors_of_none_lost hnone, List.map_cons, map_attempts]

end Outpost.FirewallManager
