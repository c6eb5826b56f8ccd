import Outpost.FirewallRefresh

/-!
# A forwarded packet's path through the two chains

`FORWARD` jumps to `OUTPOST-SMART` and to `OUTPOST-FWD`; a called chain that leaves a packet
undecided returns to its caller. A jump that is installed anew goes on top.
-/

namespace Outpost.Iptables

/-- A chain read from the top; `call` is what a jump leads to. -/
def walk (call : String → Option Verdict) (p : Packet) : List Rule → Option Verdict
  | [] => none
  | r :: rules =>
    if r.hits p then
      match r.target with
      | some (.verdict v) => some v
      | some (.jump c) => (call c).or (walk call p rules)
      | _ => walk call p rules
    else walk call p rules

def traverse (t : Table) (p : Packet) : Nat → String → Option Verdict
  | 0, _ => none
  | depth + 1, c => walk (traverse t p depth) p ((t.lookup c).getD [])

theorem walk_of_verdicts (call : String → Option Verdict) (p : Packet) {rules : List Rule}
    (h : ∀ r ∈ rules, ∃ v, r.target = some (.verdict v)) : walk call p rules = decides rules p := by
  induction rules with
  | nil => rfl
  | cons r rules ih =>
    have hrest := ih fun r' hr' => h r' (List.mem_cons_of_mem r hr')
    obtain ⟨v, hv⟩ := h r List.mem_cons_self
    unfold walk decides
    by_cases hits : r.hits p = true
    · simp [hits, hv]
    · rw [if_neg hits, List.find?_cons_of_neg hits, hrest, decides]

end Outpost.Iptables

namespace Outpost.ForwardPath

open Iptables FirewallManager

abbrev outpostJump : Rule := jumpTo outpostChain

theorem walk_jumpTo (call : String → Option Verdict) (p : Packet) (c : String) (rules : List Rule) :
    walk call p (jumpTo c :: rules) = (call c).or (walk call p rules) := by
  simp [walk, jumpTo, Rule.hits]

theorem traverse_verdicts {h : Host} {c : String} {rules : List Rule} (hc : chain h c = some rules)
    (hverdict : ∀ r ∈ rules, ∃ v, r.target = some (.verdict v)) (p : Packet) (depth : Nat) :
    traverse h.nf.filter p (depth + 1) c = decides rules p := by
  have hlookup : h.nf.filter.lookup c = some rules := hc
  rw [Iptables.traverse, hlookup]
  exact walk_of_verdicts _ p hverdict

inductive Op where
  | apply (config : Option FirewallConfig)
  | applySmartRoutes (config : Option SmartRouteConfig)

def exec (env : Env) (h : Host) : Op → Host
  | .apply config => (FirewallManager.apply env config h).2
  | .applySmartRoutes config => (FirewallManager.applySmartRoutes env config h).2

structure Placement where
  config : Option SmartRouteConfig
  above : Bool

def Placement.jumps (place : Placement) : List Rule :=
  if (smartRules place.config).isSome then
    if place.above then [smartJump, outpostJump] else [outpostJump, smartJump]
  else [outpostJump]

def Placement.next (place : Placement) : Op → Placement
  | .apply _ => place
  | .applySmartRoutes config =>
    ⟨config, if (smartRules place.config).isSome then place.above else true⟩

/-- `FORWARD` starts with the jumps, and `OUTPOST-SMART` is as the last config made it. -/
structure Hooked (h : Host) (place : Placement) : Prop where
  wired : Wired h
  smart : chain h smartChain = smartRules place.config
  outpost : ∃ rules, chain h outpostChain = some rules ∧
    ∀ r ∈ rules, ∃ v, r.target = some (.verdict v)
  forward : ∃ rest, smartJump ∉ rest ∧ chain h "FORWARD" = some (place.jumps ++ rest)

theorem outpostJump_ne_smartJump : outpostJump ≠ smartJump := by decide

section Operations

variable {env : Env} (reliable : env.Reliable)
include reliable

variable {h : Host}

theorem applySmartRoutes_forward (wired : Wired h) {fwd : List Rule}
    (hf : chain h "FORWARD" = some fwd) (config : Option SmartRouteConfig) :
    chain (FirewallManager.applySmartRoutes env config h).2 "FORWARD" =
      some (if (smartRules config).isSome then
        if smartJump ∈ fwd then fwd else smartJump :: fwd else fwd.erase smartJump) := by
  have hremove := (removeSmartChain_spec reliable wired hf).2.1
  cases config with
  | none => exact hremove
  | some config =>
    by_cases hempty : config.rules = []
    · simp only [FirewallManager.applySmartRoutes, smartRules, hempty, if_true]
      exact hremove
    · rw [(applySmartRoutes_install reliable hempty hf).2.2.1, smartRules, if_neg hempty]
      rfl

variable {place : Placement}

theorem hooked_apply (hooked : Hooked h place) (config : Option FirewallConfig) :
    Hooked (exec env h (.apply config)) place := by
  cases config with
  | none => exact hooked
  | some config =>
    obtain ⟨hself, hrest⟩ := apply_forwardRules reliable hooked.wired config
    refine ⟨wired_apply reliable hooked.wired _, ?_, ⟨_, hself, forwardRules_verdict config⟩, ?_⟩
    · exact (hrest _ (by decide)).trans hooked.smart
    · obtain ⟨rest, hnot, hfwd⟩ := hooked.forward
      exact ⟨rest, hnot, (hrest _ (by decide)).trans hfwd⟩

theorem hooked_applySmartRoutes (hooked : Hooked h place) (config : Option SmartRouteConfig) :
    Hooked (exec env h (.applySmartRoutes config)) (place.next (.applySmartRoutes config)) := by
  obtain ⟨hsmart, hrest⟩ := applySmartRoutes_smartRules reliable hooked.wired config
  obtain ⟨rest, hnot, hfwd⟩ := hooked.forward
  have hforward := applySmartRoutes_forward reliable hooked.wired hfwd config
  refine ⟨wired_applySmartRoutes reliable hooked.wired config, hsmart, ?_, rest, hnot, ?_⟩
  · obtain ⟨rules, hrules, hverdict⟩ := hooked.outpost
    exact ⟨rules, (hrest _ (by decide) (by decide)).trans hrules, hverdict⟩
  · refine hforward.trans (congrArg some ?_)
    -- a jump that is there stays where it is, a new one goes on top
    have hne := outpostJump_ne_smartJump
    by_cases hold : (smartRules place.config).isSome = true
    · by_cases hnew : (smartRules config).isSome = true <;> cases habove : place.above <;>
        simp [Placement.jumps, Placement.next, hold, hnew, habove, hne]
    · by_cases hnew : (smartRules config).isSome = true <;>
        simp [Placement.jumps, Placement.next, hold, hnew, hne.symm, hnot,
          List.erase_of_not_mem]

theorem hooked_run (ops : List Op) (hooked : Hooked h place) :
    Hooked (ops.foldl (exec env) h) (ops.foldl Placement.next place) := by
  induction ops generalizing h place with
  | nil => exact hooked
  | cons op ops ih =>
    apply ih
    cases op with
    | apply config => exact hooked_apply reliable hooked config
    | applySmartRoutes config => exact hooked_applySmartRoutes reliable hooked config

end Operations

section Verdict

variable {h : Host} {place : Placement} (hooked : Hooked h place)
include hooked

theorem traverse_smartChain (p : Packet) (depth : Nat) :
    traverse h.nf.filter p (depth + 1) smartChain =
      (smartRules place.config).bind fun rules => decides rules p := by
  cases hs : smartRules place.config with
  | none =>
    have hlookup : h.nf.filter.lookup smartChain = none := hooked.smart.trans hs
    rw [Iptables.traverse, hlookup]
    rfl
  | some rules =>
    apply traverse_verdicts (hooked.smart.trans hs)
    cases hconfig : place.config with
    | none => simp [hconfig, smartRules] at hs
    | some config =>
      rw [hconfig, smartRules] at hs
      split at hs
      · cases hs
      · obtain rfl := Option.some.inj hs
        exact installedSmart_verdict config.rules

theorem traverse_of_drop {rules : List Rule} {p : Packet}
    (hrules : chain h outpostChain = some rules) (hdrop : decides rules p = some .drop)
    (depth : Nat) :
    traverse h.nf.filter p (depth + 2) "FORWARD" =
      if place.above then
        ((smartRules place.config).bind fun rules => decides rules p).or (some .drop)
      else some .drop := by
  obtain ⟨rules', hrules', hverdict⟩ := hooked.outpost
  obtain rfl : rules = rules' := Option.some.inj (hrules.symm.trans hrules')
  obtain ⟨rest, _, hfwd⟩ := hooked.forward
  have hlookup : h.nf.filter.lookup "FORWARD" = some (place.jumps ++ rest) := hfwd
  have houtpost : traverse h.nf.filter p (depth + 1) outpostChain = some .drop :=
    (traverse_verdicts hrules hverdict p depth).trans hdrop
  have hsmart := traverse_smartChain hooked p depth
  rw [Iptables.traverse, hlookup, Option.getD_some]
  cases hs : smartRules place.config with
  | none =>
    rw [Placement.jumps, hs]
    simp [walk_jumpTo, houtpost]
  | some smart =>
    cases habove : place.above with
    | true => simp [Placement.jumps, hs, habove, walk_jumpTo, houtpost, hsmart]
    | false => simp [Placement.jumps, hs, habove, walk_jumpTo, houtpost]

end Verdict

def covers (dst : BitVec 32) (entry : SmartRouteRule) : Bool :=
  entry.entryType = "cidr" && (smartAction entry.action).isSome &&
    (parseAddress entry.value).any (·.contains dst)

/-- The smart chain stands first, and the first entry for the destination is `direct`. -/
def Opens (place : Placement) (dst : BitVec 32) : Prop :=
  place.above = true ∧ ∃ config entry, place.config = some config ∧
    config.rules.find? (covers dst) = some entry ∧ entry.action = "direct"

theorem parseRule_destination (value action : String) :
    parseRule ["-d", value, "-j", action] = (parseAddress value).map fun network =>
      { dst := some network, target := some (parseTarget action) } := by
  simp only [parseRule, parseOptions, applyOption]
  cases parseAddress value <;> simp

theorem any_installedSmart (p : Packet) (entry : SmartRouteRule) :
    (installedSmart entry).any (Rule.hits p) = covers p.dst entry := by
  unfold installedSmart covers
  by_cases hcidr : entry.entryType = "cidr"
  · cases ha : smartAction entry.action with
    | none => simp [hcidr]
    | some action =>
      rw [Option.bind_some, parseRule_destination]
      cases parseAddress entry.value <;> simp [hcidr, Rule.hits]
  · simp [hcidr]

theorem installedSmart_accepts {entry : SmartRouteRule} {r : Rule} (hi : installedSmart entry = some r) :
    r.target = some (.verdict .accept) ↔ entry.action = "direct" := by
  unfold installedSmart at hi
  split at hi
  · obtain ⟨action, ha, hparse⟩ := Option.bind_eq_some_iff.mp hi
    rw [parseRule_destination] at hparse
    obtain ⟨network, _, rfl⟩ := Option.map_eq_some_iff.mp hparse
    unfold smartAction at ha
    split at ha
    · rename_i hblock
      obtain rfl := Option.some.inj ha
      simp [hblock, show parseTarget "DROP" = .verdict .drop from rfl]
    · split at ha
      · rename_i hdirect
        obtain rfl := Option.some.inj ha
        simp [hdirect, show parseTarget "ACCEPT" = .verdict .accept from rfl]
      · cases ha
  · cases hi

theorem decides_installedSmart {rules : List SmartRouteRule} {p : Packet} :
    decides (rules.filterMap installedSmart) p = some .accept ↔
      ∃ entry, rules.find? (covers p.dst) = some entry ∧ entry.action = "direct" := by
  have hfind : (rules.filterMap installedSmart).find? (Rule.hits p) =
      (rules.find? (covers p.dst)).bind installedSmart := by
    rw [List.find?_filterMap]
    simp only [any_installedSmart]
  unfold decides
  rw [hfind]
  cases hentry : rules.find? (covers p.dst) with
  | none => simp
  | some entry =>
    have hcovers : (installedSmart entry).any (Rule.hits p) = true := by
      rw [any_installedSmart]
      exact List.find?_some hentry
    cases hr : installedSmart entry with
    | none => simp [hr] at hcovers
    | some r =>
      obtain ⟨v, hv⟩ := installedSmart_verdict [entry] r (by simp [hr])
      have haccepts := installedSmart_accepts hr
      simpa [hr, hv] using haccepts

/-- A packet that `OUTPOST-FWD` drops is not accepted, unless the first smart-route entry for its
destination is `direct` and stands above. -/
theorem dropped_not_accepted_iff {env : Env} (reliable : env.Reliable) {h : Host}
    {place : Placement} (hooked : Hooked h place) (ops : List Op) {rules : List Rule} {p : Packet}
    (hrules : chain (ops.foldl (exec env) h) outpostChain = some rules)
    (hdrop : decides rules p = some .drop) (depth : Nat) :
    traverse (ops.foldl (exec env) h).nf.filter p (depth + 2) "FORWARD" ≠ some .accept ↔
      ¬ Opens (ops.foldl Placement.next place) p.dst := by
  rw [traverse_of_drop (hooked_run reliable ops hooked) hrules hdrop]
  apply not_congr
  generalize ops.foldl Placement.next place = last
  unfold Opens
  cases last.above with
  | false => simp
  | true =>
    cases last.config with
    | none => simp [smartRules]
    | some config =>
      by_cases hempty : config.rules = []
      · simp [smartRules, hempty]
      · have haccept : (decides (config.rules.filterMap installedSmart) p).or (some .drop) =
            some .accept ↔ decides (config.rules.filterMap installedSmart) p = some .accept := by
          cases decides (config.rules.filterMap installedSmart) p <;> simp
        rw [smartRules, if_neg hempty, if_pos rfl, Option.bind_some, haccept,
          decides_installedSmart]
        simp

open GatewayAgent FirewallRefresh

theorem startedHost_hooked : Hooked startedHost ⟨none, true⟩ where
  wired := startedHost_wired
  smart := rfl
  outpost := ⟨[], rfl, by simp⟩
  forward := ⟨[], by simp, rfl⟩

def blockedConfig : FirewallConfig := ⟨[⟨"10.8.0.2", "", "", "", .drop⟩], false, ""⟩

def blockedRule : Rule :=
  { src := parseAddress "10.8.0.2"
    target := some (.verdict .drop) }

def routed (action : String) : SmartRouteConfig := ⟨[⟨"cidr", "10.1.0.0/16", action, 100⟩]⟩

def blockedThenRouted (action : String) : List Op :=
  [.apply (some blockedConfig), .applySmartRoutes (some (routed action))]

def blockedPacket : Packet := ⟨0x0A080002, 0x0A010203, "tcp", 22, .new⟩

theorem blockedThenRouted_outpost (action : String) :
    chain ((blockedThenRouted action).foldl (exec textKeys.fw) startedHost) outpostChain =
      some (forwardRules blockedConfig) := by
  have hwired := wired_apply textKeys_reliable startedHost_wired (some blockedConfig)
  have hrest := (applySmartRoutes_smartRules textKeys_reliable hwired (some (routed action))).2
  exact (hrest outpostChain (by decide) (by decide)).trans
    (apply_forwardRules textKeys_reliable startedHost_wired blockedConfig).1

theorem blockedConfig_drops {p : Packet} (hsrc : p.src = 0x0A080002) (hnew : p.state = .new) :
    decides (forwardRules blockedConfig) p = some .drop := by
  have hrules : forwardRules blockedConfig = [conntrackRule, blockedRule] := by decide
  have hskip : conntrackRule.hits p = false := by simp [Rule.hits, conntrackRule, hnew]
  have hhit : blockedRule.hits p = true := by
    simp only [Rule.hits, blockedRule, hsrc, Option.all_none]
    decide
  rw [hrules, decides, List.find?_cons_of_neg (by simp [hskip]), List.find?_cons_of_pos hhit]
  rfl

theorem block_entry_keeps_drop :
    decides (forwardRules blockedConfig) blockedPacket = some .drop ∧
    traverse ((blockedThenRouted "block").foldl (exec textKeys.fw) startedHost).nf.filter
      blockedPacket 2 "FORWARD" ≠ some .accept := by
  have hdrop : decides (forwardRules blockedConfig) blockedPacket = some .drop :=
    blockedConfig_drops rfl rfl
  refine ⟨hdrop, ?_⟩
  apply (dropped_not_accepted_iff textKeys_reliable startedHost_hooked (blockedThenRouted "block")
    (blockedThenRouted_outpost "block") hdrop 0).mpr
  intro hopens
  obtain ⟨_, config, entry, hconfig, hentry, hdirect⟩ := hopens
  obtain rfl : routed "block" = config := Option.some.inj hconfig
  obtain rfl := List.mem_singleton.mp (List.mem_of_find?_eq_some hentry)
  exact absurd hdirect (by decide)

/-- A device that `OUTPOST-FWD` blocks reaches a `direct` network. -/
theorem direct_entry_admits_blocked :
    (∀ p : Packet, p.src = 0x0A080002 → p.state = .new →
      ((chain ((blockedThenRouted "direct").foldl (exec textKeys.fw) startedHost)
        outpostChain).bind fun rules => decides rules p) = some .drop) ∧
    blockedPacket.src = 0x0A080002 ∧ blockedPacket.state = .new ∧
    traverse ((blockedThenRouted "direct").foldl (exec textKeys.fw) startedHost).nf.filter
      blockedPacket 2 "FORWARD" = some .accept := by
  refine ⟨?_, rfl, rfl, ?_⟩
  · intro p hsrc hnew
    exact blockedConfig_drops hsrc hnew
  · decide

end Outpost.ForwardPath
