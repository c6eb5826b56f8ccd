import Outpost.Iptables
import Outpost.Messages

/-!
# The gateway's firewall manager

`Init`, `Apply`, `ApplySmartRoutes` and `Cleanup` of `FirewallManager`, over the
`iptables` interpreter. An `Env` fixes what the machine contributes: which of the
commands fail for a reason of their own, and the output of `ip route`.
-/

namespace Outpost.FirewallManager

open Iptables

def outpostChain : String := "OUTPOST-FWD"

def smartChain : String := "OUTPOST-SMART"

structure Conn where
  (origSrc origDst : BitVec 32)
deriving DecidableEq

/-- The gateway machine; `issued` counts the `iptables` commands so far. -/
structure Host where
  nf : Netfilter
  conntrack : List Conn
  issued : Nat

structure Env where
  /-- Whether the command with this number fails although `iptables` would accept it. -/
  fault : Nat → Bool
  /-- The output of `ip route show default`, when the command succeeds. -/
  defaultRoute : Option String

def Env.Reliable (env : Env) : Prop := ∀ n, env.fault n = false

inductive FirewallError where
  | flushChain (chain : String)
  | insertIntoForward (chain : String)
deriving DecidableEq

/-- `run`: whether the command succeeded, and the machine after it. -/
def run (env : Env) (args : List String) (h : Host) : Bool × Host :=
  if env.fault h.issued then (false, { h with issued := h.issued + 1 })
  else match exec args h.nf with
    | none => (false, { h with issued := h.issued + 1 })
    | some nf => (true, { h with nf := nf, issued := h.issued + 1 })

def buildRuleArgs (rule : FirewallRule) : Option (List String) :=
  if rule.source = "" then none
  else
    let args := ["-A", outpostChain] ++ ["-s", rule.source]
    let args := if rule.destination ≠ "" then args ++ ["-d", rule.destination] else args
    let args :=
      if rule.protocol ≠ "" then
        let args := args ++ ["-p", rule.protocol]
        if rule.port ≠ "" then args ++ ["--dport", rule.port] else args
      else args
    match rule.action with
    | .accept => some (args ++ ["-j", "ACCEPT"])
    | .drop => some (args ++ ["-j", "DROP"])
    | .unspecified => none

def applyRule (env : Env) (h : Host) (rule : FirewallRule) : Host :=
  match buildRuleArgs rule with
  | none => h
  | some args => (run env args h).2

def fields (s : String) : List String :=
  ((s.toList.splitOnP Char.isWhitespace).filter (· ≠ [])).map String.ofList

def fieldAfterDev : List String → String
  | f :: g :: rest => if f = "dev" then g else fieldAfterDev (g :: rest)
  | _ => ""

def detectDefaultInterface (env : Env) : String :=
  match env.defaultRoute with
  | none => ""
  | some out => fieldAfterDev (fields out)

def configureNat (env : Env) (config : FirewallConfig) (h : Host) : Host :=
  let natIface := if config.natInterface = "" then detectDefaultInterface env else config.natInterface
  if natIface = "" then h
  else
    match run env ["-t", "nat", "-C", "POSTROUTING", "-o", natIface, "-j", "MASQUERADE"] h with
    | (true, h) => h
    | (false, h) => (run env ["-t", "nat", "-A", "POSTROUTING", "-o", natIface, "-j", "MASQUERADE"] h).2

def conntrackDelete (ip : List Char) (h : Host) : Host :=
  match parseDotted ip with
  | none => h
  | some a => { h with conntrack := h.conntrack.filter fun c => c.origSrc ≠ a }

def flushConntrackForDroppedSources (config : FirewallConfig) (h : Host) : Host :=
  (config.rules.foldl (fun (acc : List String × Host) rule =>
    if rule.action ≠ .drop then acc
    else if rule.source = "" ∨ rule.source ∈ acc.1 then acc
    else (rule.source :: acc.1, conntrackDelete (cutSlash rule.source.toList).1 acc.2)) ([], h)).2

/-- Check, and insert on top if absent. -/
def ensureJump (env : Env) (chain : String) (h : Host) : Bool × Host :=
  match run env ["-C", "FORWARD", "-j", chain] h with
  | (true, h) => (true, h)
  | (false, h) => run env ["-I", "FORWARD", "1", "-j", chain] h

def init (env : Env) (h : Host) : Option FirewallError × Host :=
  match ensureJump env outpostChain (run env ["-N", outpostChain] h).2 with
  | (true, h) => (none, h)
  | (false, h) => (some (.insertIntoForward outpostChain), h)

def conntrackArgs : List String :=
  ["-A", outpostChain, "-m", "conntrack", "--ctstate", "ESTABLISHED,RELATED", "-j", "ACCEPT"]

def apply (env : Env) (config : Option FirewallConfig) (h : Host) : Option FirewallError × Host :=
  match config with
  | none => (none, h)
  | some config =>
    match run env ["-F", outpostChain] h with
    | (false, h) => (some (.flushChain outpostChain), h)
    | (true, h) =>
      let h := (run env conntrackArgs h).2
      let h := config.rules.foldl (applyRule env) h
      let h := if config.natEnabled then configureNat env config h else h
      (none, flushConntrackForDroppedSources config h)

def smartAction (action : String) : Option String :=
  if action = "block" then some "DROP"
  else if action = "direct" then some "ACCEPT"
  else none

def applySmartRoute (env : Env) (h : Host) (rule : SmartRouteRule) : Host :=
  if rule.entryType = "cidr" then
    match smartAction rule.action with
    | none => h
    | some action => (run env ["-A", smartChain, "-d", rule.value, "-j", action] h).2
  else h

def removeSmartChain (env : Env) (h : Host) : Host :=
  let h := (run env ["-D", "FORWARD", "-j", smartChain] h).2
  let h := (run env ["-F", smartChain] h).2
  (run env ["-X", smartChain] h).2

def applySmartRoutes (env : Env) (config : Option SmartRouteConfig) (h : Host) :
    Option FirewallError × Host :=
  match config with
  | none => (none, removeSmartChain env h)
  | some config =>
    if config.rules = [] then (none, removeSmartChain env h)
    else
      let h := (run env ["-N", smartChain] h).2
      match run env ["-F", smartChain] h with
      | (false, h) => (some (.flushChain smartChain), h)
      | (true, h) =>
        match ensureJump env smartChain h with
        | (false, h) => (some (.insertIntoForward smartChain), h)
        | (true, h) => (none, config.rules.foldl (applySmartRoute env) h)

def cleanup (env : Env) (h : Host) : Host :=
  let h := removeSmartChain env h
  let h := (run env ["-D", "FORWARD", "-j", outpostChain] h).2
  let h := (run env ["-F", outpostChain] h).2
  (run env ["-X", outpostChain] h).2

end Outpost.FirewallManager
