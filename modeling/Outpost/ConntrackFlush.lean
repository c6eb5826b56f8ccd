import Outpost.ForwardPath
import Outpost.RuleInstallation
import Outpost.Shared.Disturbance

/-!
# Connections that outlive a config

A connection that was let through once is accepted as established, so `Apply` ends by deleting
the tracked connections of every source with a DROP rule. Here `Apply` is a program of single
commands, and packets arrive between any two of them.
-/

namespace Outpost.ConntrackFlush

open Iptables FirewallManager Interleaving Prog FirstMatch

def conn (p : Packet) : Conn := ⟨p.src, p.dst⟩

structure Machine where
  host : Host
  opened : List Packet
  tracked : host.conntrack = opened.map conn

theorem run_conntrack (env : Env) (args : List String) (h : Host) :
    (run env args h).2.conntrack = h.conntrack := by
  unfold run
  split
  · rfl
  · cases exec args h.nf <;> rfl

namespace Machine

def command (env : Env) (args : List String) (m : Machine) : Machine × Bool :=
  ({ m with
     host := (run env args m.host).2
     tracked := (run_conntrack env args m.host).trans m.tracked }, (run env args m.host).1)

/-- `conntrack -D -s ip` -/
def forget (ip : List Char) (m : Machine) : Machine where
  host := conntrackDelete ip m.host
  opened :=
    match parseDotted ip with
    | none => m.opened
    | some a => m.opened.filter fun p => p.src ≠ a
  tracked := by
    unfold conntrackDelete
    cases parseDotted ip with
    | none => exact m.tracked
    | some a =>
      dsimp only
      rw [m.tracked, List.filter_map]
      rfl

def track (p : Packet) (m : Machine) : Machine where
  host := { m.host with conntrack := conn p :: m.host.conntrack }
  opened := p :: m.opened
  tracked := by rw [m.tracked, List.map_cons]

end Machine

section Commands

variable (env : Env)

def command (args : List String) : Prog Machine Bool := modify (Machine.command env args)

def installRules : List FirewallRule → Prog Machine Unit
  | [] => pure ()
  | rule :: rules =>
    match buildRuleArgs rule with
    | none => installRules rules
    | some args => do
      let _ ← command env args
      installRules rules

def masquerade (config : FirewallConfig) : Prog Machine Unit :=
  let natIface :=
    if config.natInterface = "" then detectDefaultInterface env else config.natInterface
  if natIface = "" then pure ()
  else do
    let present ← command env ["-t", "nat", "-C", "POSTROUTING", "-o", natIface, "-j", "MASQUERADE"]
    if present then pure ()
    else
      let _ ← command env ["-t", "nat", "-A", "POSTROUTING", "-o", natIface, "-j", "MASQUERADE"]
      pure ()

def natCommands (config : FirewallConfig) : Prog Machine Unit :=
  if config.natEnabled then masquerade env config else pure ()

def flushSources : List String → List FirewallRule → Prog Machine Unit
  | _, [] => pure ()
  | seen, rule :: rules =>
    if rule.action ≠ .drop then flushSources seen rules
    else if rule.source = "" ∨ rule.source ∈ seen then flushSources seen rules
    else do
      modify fun m => (m.forget (cutSlash rule.source.toList).1, ())
      flushSources (rule.source :: seen) rules

def applyCommands (config : FirewallConfig) : Prog Machine (Option FirewallError) := do
  let flushed ← command env ["-F", outpostChain]
  if flushed then
    let _ ← command env conntrackArgs
    installRules env config.rules
    natCommands env config
    flushSources [] config.rules
    pure none
  else pure (some (.flushChain outpostChain))

end Commands

section Alone

variable (env : Env) (m : Machine)

@[simp] theorem alone_command (args : List String) :
    (command env args).alone m = m.command env args := rfl

theorem command_run (args : List String) (m : Machine) :
    run env args m.host = (true, (m.command env args).1.host) ∧ (m.command env args).2 = true ∨
      run env args m.host = (false, (m.command env args).1.host) ∧
        (m.command env args).2 = false := by
  unfold Machine.command
  cases hok : (run env args m.host).1 with
  | true => exact .inl ⟨Prod.ext hok rfl, rfl⟩
  | false => exact .inr ⟨Prod.ext hok rfl, rfl⟩

theorem alone_installRules (rules : List FirewallRule) :
    ((installRules env rules).alone m).1.host = rules.foldl (applyRule env) m.host := by
  induction rules generalizing m with
  | nil => rfl
  | cons rule rules ih =>
    rw [installRules, List.foldl_cons, applyRule]
    cases buildRuleArgs rule with
    | none => exact ih m
    | some args =>
      exact ih (m.command env args).1

theorem alone_masquerade (config : FirewallConfig) :
    ((masquerade env config).alone m).1.host = configureNat env config m.host := by
  unfold masquerade configureNat
  dsimp only
  generalize (if config.natInterface = "" then detectDefaultInterface env
    else config.natInterface) = natIface
  split
  · rfl
  · rw [alone_bind, alone_command]
    rcases command_run env
      ["-t", "nat", "-C", "POSTROUTING", "-o", natIface, "-j", "MASQUERADE"] m with
      ⟨hrun, hpresent⟩ | ⟨hrun, hpresent⟩
    · rw [hrun, if_pos hpresent]
      rfl
    · rw [hrun, if_neg (Bool.eq_false_iff.mp hpresent)]
      rfl

theorem alone_natCommands (config : FirewallConfig) :
    ((natCommands env config).alone m).1.host =
      if config.natEnabled then configureNat env config m.host else m.host := by
  unfold natCommands
  split
  · exact alone_masquerade env m config
  · rfl

theorem alone_flushSources (rules : List FirewallRule) (seen : List String) :
    ((flushSources seen rules).alone m).1.host =
      (rules.foldl (fun (acc : List String × Host) rule =>
        if rule.action ≠ .drop then acc
        else if rule.source = "" ∨ rule.source ∈ acc.1 then acc
        else (rule.source :: acc.1, conntrackDelete (cutSlash rule.source.toList).1 acc.2))
        (seen, m.host)).2 := by
  induction rules generalizing m seen with
  | nil => rfl
  | cons rule rules ih =>
    rw [flushSources, List.foldl_cons]
    split
    · exact ih m seen
    · split
      · exact ih m seen
      · exact ih _ _

theorem alone_applyCommands (config : FirewallConfig) :
    ((applyCommands env config).alone m).2 = (apply env (some config) m.host).1 ∧
    ((applyCommands env config).alone m).1.host = (apply env (some config) m.host).2 := by
  unfold applyCommands apply
  rw [alone_bind, alone_command]
  rcases command_run env ["-F", outpostChain] m with ⟨hrun, hflushed⟩ | ⟨hrun, hflushed⟩
  · rw [hrun, if_pos hflushed]
    simp only [alone_bind, alone_pure, true_and]
    rw [alone_flushSources, alone_natCommands, alone_installRules]
    rfl
  · rw [hrun, if_neg (Bool.eq_false_iff.mp hflushed)]
    exact ⟨rfl, rfl⟩

end Alone

/-- What `FORWARD` decides before its jump to `OUTPOST-FWD`, and whether it lets through what comes
back undecided. -/
structure Path where
  ahead : Packet → Option Verdict
  onward : Packet → Bool

def Path.letsThrough (path : Path) (h : Host) (p : Packet) : Bool :=
  match (path.ahead p).or ((chain h outpostChain).bind fun rules => decides rules p) with
  | some .accept => true
  | some .drop => false
  | none => path.onward p

def Arrives (path : Path) (m m' : Machine) : Prop :=
  ∃ p : Packet, p.state = .new ∧ p ∉ m.opened ∧
    m' = if path.letsThrough m.host p then m.track p else m

theorem walk_append (call : String → Option Verdict) (p : Packet) (xs ys : List Rule) :
    walk call p (xs ++ ys) = (walk call p xs).or (walk call p ys) := by
  induction xs with
  | nil => rfl
  | cons r xs ih =>
    rw [List.cons_append, walk, walk, ih]
    split
    · split
      · rfl
      · rw [Option.or_assoc]
      · rfl
    · rfl

def Path.ofForward (call : Packet → String → Option Verdict) (above below : List Rule)
    (policy : Verdict) : Path where
  ahead p := walk (call p) p above
  onward p := (walk (call p) p below).getD policy = .accept

variable {p : Packet} {source : String} {a : BitVec 32} {rule : FirewallRule}
  {config : List FirewallRule}

theorem letsThrough_ofForward {call : Packet → String → Option Verdict} {above below : List Rule}
    {policy : Verdict} {h : Host}
    (hcall : call p outpostChain = (chain h outpostChain).bind fun rules => decides rules p) :
    (Path.ofForward call above below policy).letsThrough h p = true ↔
      (walk (call p) p (above ++ jumpTo outpostChain :: below)).getD policy = .accept := by
  rw [walk_append, ForwardPath.walk_jumpTo, hcall, ← Option.or_assoc]
  unfold Path.letsThrough Path.ofForward
  cases (walk (call p) p above).or ((chain h outpostChain).bind fun rules => decides rules p) with
  | none => simp
  | some v => cases v <;> simp

theorem hostLength : 32 ≤ 32 := Nat.le_refl 32

def SingleSource (source : String) (a : BitVec 32) : Prop :=
  parseAddress source = some (Prefix.ofAddr a 32 hostLength)

instance (source : String) (a : BitVec 32) : Decidable (SingleSource source a) :=
  inferInstanceAs (Decidable (parseAddress source = _))

theorem not_single_empty (a : BitVec 32) : ¬ SingleSource "" a := by
  intro h
  cases h

theorem parseDotted_of_single (h : SingleSource source a) :
    parseDotted (cutSlash source.toList).1 = some a := by
  have hofAddr : ∀ (x : BitVec 32) (n : Nat) (hn : n ≤ 32),
      Prefix.ofAddr x n hn = Prefix.ofAddr a 32 (Nat.le_refl 32) → x = a := by
    intro x n hn heq
    obtain rfl : n = 32 := congrArg Prefix.len heq
    have haddr := congrArg Prefix.addr heq
    simpa [Prefix.ofAddr] using haddr
  unfold SingleSource parseAddress at h
  split at h
  · rename_i text hcut
    obtain ⟨x, hx, heq⟩ := Option.map_eq_some_iff.mp h
    rw [hcut, hx, hofAddr x 32 _ heq]
  · rename_i text mask hcut
    split at h
    · rename_i x n hx _
      split at h
      · rw [hcut, hx, hofAddr x n _ (Option.some.inj h)]
      · cases h
    · cases h

/-- The packet passes before `OUTPOST-FWD`, or the rules do not drop it. -/
def Allowed (path : Path) (rules : List Rule) (p : Packet) : Prop :=
  path.ahead p = some .accept ∨ decides rules p ≠ some .drop

def Clean (path : Path) (rules : List Rule) (source : String) (m : Machine) : Prop :=
  ∀ a, SingleSource source a → ∀ p ∈ m.opened, p.src = a → Allowed path rules p

def Complete (rules : List Rule) (m : Machine) : Prop :=
  chain m.host outpostChain = some (conntrackRule :: rules)

def Swept (path : Path) (rules : List Rule) (sources : String → Prop) (m : Machine) : Prop :=
  Complete rules m ∧ ∀ source, sources source → Clean path rules source m

section Assertions

variable {path : Path} {rules : List Rule}

variable {m : Machine}

theorem host_nf_of_arrives {m' : Machine} (h : Arrives path m m') : m'.host.nf = m.host.nf := by
  obtain ⟨p, _, _, rfl⟩ := h
  split <;> rfl

theorem stable_chain (c : String) (content : Option (List Rule)) :
    Stable (Arrives path) fun m => chain m.host c = content := by
  intro m m' harrives hchain
  unfold chain at hchain ⊢
  rw [host_nf_of_arrives harrives]
  exact hchain

theorem allowed_of_letsThrough (hcomplete : Complete rules m) {p : Packet} (hnew : p.state = .new)
    (h : path.letsThrough m.host p = true) : Allowed path rules p := by
  have hdecides : decides (conntrackRule :: rules) p = decides rules p :=
    decides_conntrack rules hnew
  by_contra hnot
  obtain ⟨hahead, hdrop⟩ := not_or.mp hnot
  rw [not_not] at hdrop
  unfold Path.letsThrough at h
  rw [show chain m.host outpostChain = some (conntrackRule :: rules) from hcomplete,
    Option.bind_some, hdecides, hdrop] at h
  cases hv : path.ahead p with
  | none => simp [hv] at h
  | some v =>
    cases v with
    | accept => exact hahead hv
    | drop => simp [hv] at h

theorem stable_swept {sources : String → Prop} :
    Stable (Arrives path) (Swept path rules sources) := by
  intro m m' harrives hm
  refine ⟨stable_chain _ _ m m' harrives hm.1, ?_⟩
  intro source hsource
  have hclean := hm.2 source hsource
  obtain ⟨p, hnew, _, rfl⟩ := harrives
  split
  · rename_i hpasses
    intro a hsingle q hq hsrc
    rcases List.mem_cons.mp hq with rfl | hq
    · exact allowed_of_letsThrough hm.1 hnew hpasses
    · exact hclean a hsingle q hq hsrc
  · exact hclean

theorem clean_empty (m : Machine) : Clean path rules "" m := by
  intro a hsingle
  exact absurd hsingle (not_single_empty a)

theorem Swept.mono {sources sources' : String → Prop} (h : Swept path rules sources m)
    (hsub : ∀ source, sources' source → sources source ∨ source = "") :
    Swept path rules sources' m := by
  refine ⟨h.1, ?_⟩
  intro source hsource
  rcases hsub source hsource with hswept | rfl
  · exact h.2 source hswept
  · exact clean_empty m

theorem Swept.forget {seen : List String} (h : Swept path rules (fun source => source ∈ seen) m)
    (source : String) :
    Swept path rules (fun source' => source' ∈ source :: seen)
      (m.forget (cutSlash source.toList).1) := by
  refine ⟨?_, ?_⟩
  · unfold Complete chain
    rw [show (m.forget (cutSlash source.toList).1).host.nf = m.host.nf from
      conntrackDelete_nf _ m.host]
    exact h.1
  · intro source' hsource' a hsingle q hq hsrc
    rcases List.mem_cons.mp hsource' with rfl | hseen
    · have hip := parseDotted_of_single hsingle
      simp only [Machine.forget, hip, List.mem_filter, decide_eq_true_eq] at hq
      exact absurd hsrc hq.2
    · apply h.2 source' hseen a hsingle q ?_ hsrc
      unfold Machine.forget at hq
      cases hip : parseDotted (cutSlash source.toList).1 with
      | none => simpa [hip] using hq
      | some b =>
        simp only [hip] at hq
        exact List.mem_of_mem_filter hq

end Assertions

def Dropped (config : List FirewallRule) (source : String) : Prop :=
  ∃ rule ∈ config, rule.action = .drop ∧ rule.source = source

theorem dropped_nil : ¬ Dropped [] source := by
  intro h
  obtain ⟨_, hrule, _⟩ := h
  cases hrule

theorem dropped_cons :
    Dropped (rule :: config) source ↔
      (rule.action = .drop ∧ rule.source = source) ∨ Dropped config source := by
  simp [Dropped]

section Run

variable {env : Env} (reliable : env.Reliable) (path : Path)

theorem ensures_command {pre : Machine → Prop} {post : Bool → Machine → Prop} (args : List String)
    (stable : Stable (Arrives path) pre)
    (h : ∀ m, pre m → post (run env args m.host).1 (m.command env args).1)
    (stable' : ∀ ok, Stable (Arrives path) (post ok)) :
    Ensures (Arrives path) pre (command env args) post :=
  ensures_modify stable h stable'

include reliable

theorem ensures_installRules (config : List FirewallRule) (rules : List Rule) :
    Ensures (Arrives path) (fun m => chain m.host outpostChain = some rules)
      (installRules env config)
      fun _ m => chain m.host outpostChain = some (rules ++ config.filterMap installed) := by
  induction config generalizing rules with
  | nil =>
    rw [List.filterMap_nil, List.append_nil]
    exact ensures_pure (stable_chain _ _) fun _ hm => hm
  | cons rule config ih =>
    rw [installRules]
    cases hargs : buildRuleArgs rule with
    | none =>
      have hi : installed rule = none := by rw [installed, hargs]; rfl
      rw [List.filterMap_cons_none hi]
      exact ih rules
    | some args =>
      have hrest := ih (rules ++ (installed rule).toList)
      have hrules : rules ++ (installed rule).toList ++ config.filterMap installed =
          rules ++ (rule :: config).filterMap installed := by
        rw [List.append_assoc]
        cases hi : installed rule <;> simp [hi]
      rw [hrules] at hrest
      refine ensures_bind ?_ fun _ => hrest
      refine ensures_command path args (stable_chain _ _) ?_ fun _ => stable_chain _ _
      intro m hm
      have hrun := (run_ruleArgs env hargs hm).1
      have hi : installed rule = parseRule (args.drop 2) := by rw [installed, hargs]; rfl
      rw [reliable, ← hi] at hrun
      change chain (run env args m.host).2 outpostChain = _
      rw [hrun]
      cases installed rule <;> rfl

omit reliable in
theorem ensures_masquerade (env : Env) (config : FirewallConfig) (content : Option (List Rule)) :
    Ensures (Arrives path) (fun m => chain m.host outpostChain = content) (masquerade env config)
      fun _ m => chain m.host outpostChain = content := by
  have hnat : ∀ args, Ensures (Arrives path) (fun m => chain m.host outpostChain = content)
      (command env ("-t" :: "nat" :: args)) fun _ m => chain m.host outpostChain = content := by
    intro args
    refine ensures_command path _ (stable_chain _ _) ?_ fun _ => stable_chain _ _
    intro m hm
    rw [← hm]
    exact congrArg (AList.lookup outpostChain) (run_nat_filter env m.host args)
  have hnothing : Ensures (Arrives path) (fun m => chain m.host outpostChain = content) (pure ())
      fun _ m => chain m.host outpostChain = content :=
    ensures_pure (stable_chain _ _) fun _ hm => hm
  unfold masquerade
  dsimp only
  generalize (if config.natInterface = "" then detectDefaultInterface env
    else config.natInterface) = natIface
  split
  · exact hnothing
  · refine ensures_bind (hnat _) fun present => ?_
    split
    · exact hnothing
    · exact ensures_bind (hnat _) fun _ => hnothing

omit reliable in
theorem ensures_natCommands (env : Env) (config : FirewallConfig) (content : Option (List Rule)) :
    Ensures (Arrives path) (fun m => chain m.host outpostChain = content) (natCommands env config)
      fun _ m => chain m.host outpostChain = content := by
  unfold natCommands
  split
  · exact ensures_masquerade path env config content
  · exact ensures_pure (stable_chain _ _) fun _ hm => hm

omit reliable in
theorem ensures_flushSources (rules : List Rule) (config : List FirewallRule) (seen : List String) :
    Ensures (Arrives path) (Swept path rules fun source => source ∈ seen)
      (flushSources seen config)
      fun _ => Swept path rules fun source => source ∈ seen ∨ Dropped config source := by
  induction config generalizing seen with
  | nil =>
    refine ensures_pure stable_swept ?_
    intro m hm
    refine hm.mono ?_
    intro source hsource
    exact .inl (hsource.resolve_right dropped_nil)
  | cons rule config ih =>
    rw [flushSources]
    split
    · rename_i haction
      refine (ih seen).mono (fun _ hm => hm) fun _ m hm => hm.mono ?_
      intro source hsource
      rw [dropped_cons] at hsource
      exact .inl (hsource.imp_right fun h => h.resolve_left fun hself => haction hself.1)
    · split
      · rename_i hskip
        refine (ih seen).mono (fun _ hm => hm) fun _ m hm => hm.mono ?_
        intro source hsource
        rw [dropped_cons] at hsource
        rcases hsource with hseen | ⟨_, rfl⟩ | hrest
        · exact .inl (.inl hseen)
        · exact hskip.symm.imp .inl id
        · exact .inl (.inr hrest)
      · refine ensures_bind (ensures_modify stable_swept ?_ fun _ => stable_swept)
          fun _ => (ih (rule.source :: seen)).mono (fun _ hm => hm) fun _ m hm => hm.mono ?_
        · intro m hm
          exact hm.forget rule.source
        · intro source hsource
          rw [dropped_cons] at hsource
          rcases hsource with hseen | ⟨_, rfl⟩ | hrest
          · exact .inl (.inl (List.mem_cons_of_mem _ hseen))
          · exact .inl (.inl List.mem_cons_self)
          · exact .inl (.inr hrest)

theorem ensures_flush (old : List Rule) :
    Ensures (Arrives path) (fun m => chain m.host outpostChain = some old)
      (command env ["-F", outpostChain])
      fun flushed m => flushed = true ∧ chain m.host outpostChain = some [] := by
  refine ensures_command path _ (stable_chain _ _) ?_ ?_
  · intro m hm
    exact flush_succeeds (reliable _) hm
  · intro flushed m m' harrives hm
    exact ⟨hm.1, stable_chain _ _ m m' harrives hm.2⟩

theorem ensures_conntrackRule :
    Ensures (Arrives path) (fun m => chain m.host outpostChain = some [])
      (command env conntrackArgs) fun _ m => chain m.host outpostChain = some [conntrackRule] := by
  refine ensures_command path _ (stable_chain _ _) ?_ fun _ => stable_chain _ _
  intro m hm
  exact (chain_append (reliable _) hm parseRule_conntrack rfl).1

theorem ensures_rest (config : FirewallConfig) :
    Ensures (Arrives path) (fun m => chain m.host outpostChain = some [])
      (do
        let _ ← command env conntrackArgs
        installRules env config.rules
        natCommands env config
        flushSources [] config.rules
        pure none : Prog Machine (Option FirewallError))
      fun _ => Swept path (config.rules.filterMap installed) (Dropped config.rules) := by
  have hsweep := ensures_flushSources path (config.rules.filterMap installed) config.rules []
  refine ensures_bind (ensures_conntrackRule reliable path) fun _ => ?_
  refine ensures_bind (ensures_installRules reliable path config.rules _) fun _ => ?_
  refine ensures_bind (ensures_natCommands path env config _) fun _ => ?_
  refine ensures_bind (hsweep.mono ?_ fun _ _ hm => hm) fun _ => ensures_pure stable_swept ?_
  · intro m hm
    exact ⟨hm, fun source hsource => by cases hsource⟩
  · intro m hm
    exact hm.mono fun source hsource => .inl (.inr hsource)

theorem ensures_applyCommands (config : FirewallConfig) (old : List Rule) :
    Ensures (Arrives path) (fun m => chain m.host outpostChain = some old)
      (applyCommands env config)
      fun _ => Swept path (config.rules.filterMap installed) (Dropped config.rules) := by
  refine ensures_bind (ensures_flush reliable path old) fun flushed => ?_
  cases flushed with
  | false =>
    intro m value m' hm
    cases hm.1
  | true => exact (ensures_rest reliable path config).mono (fun _ hm => hm.2) fun _ _ hm => hm

end Run

def PlainDrop (rule : FirewallRule) : Prop :=
  rule.action = .drop ∧ rule.destination = "" ∧ rule.protocol = ""

theorem installed_plainDrop (h : PlainDrop rule) (hsingle : SingleSource rule.source a) :
    installed rule = some { src := some (Prefix.ofAddr a 32 (Nat.le_refl 32))
                            target := some (.verdict .drop) } := by
  obtain ⟨haction, hdestination, hprotocol⟩ := h
  have hsource : rule.source ≠ "" := by
    intro hempty
    rw [hempty] at hsingle
    exact not_single_empty a hsingle
  have hparse : parseAddress rule.source = some (Prefix.ofAddr a 32 (Nat.le_refl 32)) := hsingle
  unfold installed
  rw [buildRuleArgs_eq, if_neg hsource, haction]
  simp [ruleOptions, actionTarget, hdestination, hprotocol, parseRule, parseOptions, applyOption,
    parseTarget, hparse]

theorem decides_of_plainDrop (hrule : rule ∈ config) (hplain : PlainDrop rule)
    (hsingle : SingleSource rule.source p.src) : decides (config.filterMap installed) p ≠ none := by
  have hi := installed_plainDrop hplain hsingle
  have hsome : ((config.filterMap installed).find? (Rule.hits p)).isSome = true := by
    apply List.find?_isSome.mpr
    refine ⟨_, List.mem_filterMap.mpr ⟨rule, hrule, hi⟩, ?_⟩
    simp [Rule.hits, Prefix.contains_full]
  obtain ⟨r, hr⟩ := Option.isSome_iff_exists.mp hsome
  obtain ⟨rule', _, hi'⟩ := List.mem_filterMap.mp (List.mem_of_find?_eq_some hr)
  obtain ⟨v, hv⟩ := installed_target hi'
  rw [RuleInstallation.decides_eq_some.mpr ⟨r, hr, hv⟩]
  exact Option.some_ne_none v

/-- After `Apply`, a tracked connection of a source with a DROP rule was opened by a packet that
passes before `OUTPOST-FWD`, that the rules accept, or that they leave undecided. -/
theorem tracked_connections_allowed {env : Env} (reliable : env.Reliable) (path : Path)
    (config : FirewallConfig) {m m' : Machine} {old : List Rule}
    (hchain : chain m.host outpostChain = some old) {result : Option FirewallError}
    (hrun : Disturbed (Arrives path) (applyCommands env config) m result m') {rule : FirewallRule}
    (hrule : rule ∈ config.rules) (hdrop : rule.action = .drop) {p : Packet} (hp : p ∈ m'.opened)
    (hsingle : SingleSource rule.source p.src) :
    path.ahead p = some .accept ∨
      decides (config.rules.filterMap installed) p = some .accept ∨
      decides (config.rules.filterMap installed) p = none ∧
        ∀ rule' ∈ config.rules, SingleSource rule'.source p.src → ¬ PlainDrop rule' := by
  have hswept := ensures_applyCommands reliable path config old m result m' hchain hrun
  have hclean := hswept.2 rule.source ⟨rule, hrule, hdrop, rfl⟩
  rcases hclean p.src hsingle p hp rfl with hahead | hnot
  · exact .inl hahead
  · refine .inr ?_
    cases hdecided : decides (config.rules.filterMap installed) p with
    | none =>
      refine .inr ⟨rfl, ?_⟩
      intro rule' hrule' hsingle' hplain
      exact decides_of_plainDrop hrule' hplain hsingle' hdecided
    | some v =>
      cases v with
      | accept => exact .inl rfl
      | drop => exact absurd hdecided hnot

def quiet : Env := ⟨fun _ => false, none⟩

def openPath : Path := ⟨fun _ => none, fun _ => true⟩

def idle : Machine := ⟨RuleInstallation.emptyChainHost, [], rfl⟩

def toServer (dst : BitVec 32) : Packet := ⟨0x0A080002, dst, "tcp", 22, .new⟩

theorem arrives_of_passes {path : Path} {m : Machine} (hnew : p.state = .new)
    (hfirst : p ∉ m.opened) (hpasses : path.letsThrough m.host p = true) :
    Arrives path m (m.track p) :=
  ⟨p, hnew, hfirst, by rw [if_pos hpasses]⟩

def allowOne : FirewallConfig :=
  ⟨[⟨"10.8.0.2/32", "10.1.0.0/16", "", "", .accept⟩, ⟨"10.8.0.2/32", "", "", "", .drop⟩], false, ""⟩

/-- A connection from before the rules is gone, a later one was accepted by them. -/
theorem allowed_connection_tracked :
    ∃ result m', quiet.Reliable ∧ chain idle.host outpostChain = some [] ∧
      Disturbed (Arrives openPath) (applyCommands quiet allowOne) idle result m' ∧
      m'.opened = [toServer 0x0A010203] ∧
      (openPath.ahead (toServer 0x0A010203) = some .accept ∨
        decides (allowOne.rules.filterMap installed) (toServer 0x0A010203) = some .accept ∨
        decides (allowOne.rules.filterMap installed) (toServer 0x0A010203) = none ∧
          ∀ rule' ∈ allowOne.rules, SingleSource rule'.source (toServer 0x0A010203).src →
            ¬ PlainDrop rule') := by
  have hreliable : quiet.Reliable := fun _ => rfl
  have hchain : chain idle.host outpostChain = some [] := by decide
  have hearly : Arrives openPath idle (idle.track (toServer 0x08080808)) :=
    arrives_of_passes rfl (by simp [idle]) (by decide +kernel)
  have hlate : Arrives openPath
      ((applyCommands quiet allowOne).alone (idle.track (toServer 0x08080808))).1
      (((applyCommands quiet allowOne).alone (idle.track (toServer 0x08080808))).1.track
        (toServer 0x0A010203)) :=
    arrives_of_passes rfl (by decide +kernel) (by decide +kernel)
  have hrun := (Disturbed.other hearly (disturbed_alone _ _)).snoc hlate
  refine ⟨_, _, hreliable, hchain, hrun, by decide +kernel, ?_⟩
  exact tracked_connections_allowed hreliable openPath allowOne hchain hrun
    (List.mem_cons_of_mem _ List.mem_cons_self) rfl List.mem_cons_self (by decide +kernel)

def denyOne : FirewallConfig :=
  ⟨[⟨"10.8.0.2/32", "10.1.0.9/32", "", "", .drop⟩], false, ""⟩

/-- A DROP rule for one destination leaves the others undecided, and they are let through. -/
theorem undecided_connection_tracked :
    ∃ result m' rule, quiet.Reliable ∧ chain idle.host outpostChain = some [] ∧
      Disturbed (Arrives openPath) (applyCommands quiet denyOne) idle result m' ∧
      rule ∈ denyOne.rules ∧ rule.action = .drop ∧
      SingleSource rule.source (toServer 0x0A010203).src ∧ toServer 0x0A010203 ∈ m'.opened ∧
      openPath.ahead (toServer 0x0A010203) = none ∧
      decides (denyOne.rules.filterMap installed) (toServer 0x0A010203) ≠ some .accept := by
  have hlate : Arrives openPath ((applyCommands quiet denyOne).alone idle).1
      (((applyCommands quiet denyOne).alone idle).1.track (toServer 0x0A010203)) :=
    arrives_of_passes rfl (by decide +kernel) (by decide +kernel)
  exact ⟨_, _, _, fun _ => rfl, by decide, (disturbed_alone _ _).snoc hlate,
    .head _, rfl, by decide +kernel, .head _, rfl, by decide +kernel⟩

end Outpost.ConntrackFlush
