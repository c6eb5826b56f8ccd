import Outpost.Address
import Outpost.Shared.GoMap

/-!
# `iptables`

User-defined chains of the `filter` and `nat` tables and the commands `-N -F -X -A -I -C -D`, read
from their argument lists. A command that fails changes nothing. A host name, which `iptables`
would resolve, is refused here.
-/

namespace Outpost.Iptables

inductive CtState where
  | new
  | established
  | related
  | invalid
deriving DecidableEq

structure Packet where
  (src dst : BitVec 32)
  protocol : String
  dport : Nat
  state : CtState
deriving DecidableEq

inductive Verdict where
  | accept
  | drop
deriving DecidableEq

inductive Target where
  | verdict (v : Verdict)
  | masquerade
  | jump (chain : String)
deriving DecidableEq

structure Rule where
  src : Option (Prefix 32) := none
  dst : Option (Prefix 32) := none
  protocol : Option String := none
  dport : Option (Nat × Nat) := none
  ctstate : Option (List CtState) := none
  outIface : Option String := none
  target : Option Target := none
deriving DecidableEq

def Rule.hits (p : Packet) (r : Rule) : Bool :=
  r.src.all (·.contains p.src) && r.dst.all (·.contains p.dst) &&
  r.protocol.all (fun q => q = "all" || q = p.protocol) &&
  r.dport.all (fun range => range.1 ≤ p.dport && p.dport ≤ range.2) &&
  r.ctstate.all (·.contains p.state)

/-- The verdict of the first rule that hits; `none` leaves the chain undecided. -/
def decides (rules : List Rule) (p : Packet) : Option Verdict :=
  match (rules.find? (Rule.hits p)).bind Rule.target with
  | some (.verdict v) => some v
  | _ => none

/-- `address[/mask]`; the address is masked. -/
def parseAddress (s : String) : Option (Prefix 32) :=
  match cutSlash s.toList with
  | (a, none) => (parseDotted a).map fun x => Prefix.ofAddr x 32 (Nat.le_refl 32)
  | (a, some m) =>
    match parseDotted a, dtoi m with
    | some x, some n => if h : n ≤ 32 then some (Prefix.ofAddr x n h) else none
    | _, _ => none

def parseProtocol (s : String) : Option String :=
  if s ∈ ["all", "tcp", "udp", "udplite", "icmp", "esp", "ah", "sctp", "dccp"] then some s else none

def parsePort (s : String) : Option (Nat × Nat) :=
  match (s.toList.splitOn ':').mapM dtoi with
  | some [n] => if n ≤ 65535 then some (n, n) else none
  | some [lo, hi] => if lo ≤ hi ∧ hi ≤ 65535 then some (lo, hi) else none
  | _ => none

def parseCtState (cs : List Char) : Option CtState :=
  if cs = "NEW".toList then some .new
  else if cs = "ESTABLISHED".toList then some .established
  else if cs = "RELATED".toList then some .related
  else if cs = "INVALID".toList then some .invalid
  else none

def parseTarget (s : String) : Target :=
  if s = "ACCEPT" then .verdict .accept
  else if s = "DROP" then .verdict .drop
  else if s = "MASQUERADE" then .masquerade
  else .jump s

def applyOption (r : Rule) (flag value : String) : Option Rule :=
  if flag = "-s" then (parseAddress value).map fun p => { r with src := some p }
  else if flag = "-d" then (parseAddress value).map fun p => { r with dst := some p }
  else if flag = "-p" then (parseProtocol value).map fun q => { r with protocol := some q }
  else if flag = "--dport" then
    if r.protocol ∈ [some "tcp", some "udp", some "udplite", some "sctp", some "dccp"] then
      (parsePort value).map fun range => { r with dport := some range }
    else none
  else if flag = "-m" then if value = "conntrack" then some r else none
  else if flag = "--ctstate" then
    ((value.toList.splitOn ',').mapM parseCtState).map fun l => { r with ctstate := some l }
  else if flag = "-o" then some { r with outIface := some value }
  else if flag = "-j" then some { r with target := some (parseTarget value) }
  else none

def parseOptions : Rule → List String → Option Rule
  | r, [] => some r
  | _, [_] => none
  | r, flag :: value :: rest => (applyOption r flag value).bind fun r => parseOptions r rest

def parseRule (args : List String) : Option Rule := parseOptions {} args

abbrev Table := GoMap String (List Rule)

def builtin (chain : String) : Bool :=
  chain ∈ ["INPUT", "FORWARD", "OUTPUT", "PREROUTING", "POSTROUTING"]

def referenced (t : Table) (chain : String) : Bool :=
  t.pairs.any fun e => e.2.any fun r => r.target = some (.jump chain)

def targetExists (t : Table) (r : Rule) : Bool :=
  match r.target with
  | some (.jump chain) => (t.lookup chain).isSome
  | _ => true

def newChain (chain : String) (t : Table) : Option Table :=
  if (t.lookup chain).isSome then none else some (t.insert chain [])

def flush (chain : String) (t : Table) : Option Table :=
  (t.lookup chain).map fun _ => t.insert chain []

def deleteChain (chain : String) (t : Table) : Option Table :=
  if t.lookup chain = some [] ∧ referenced t chain = false ∧ builtin chain = false then
    some (t.erase chain)
  else none

def append (chain : String) (args : List String) (t : Table) : Option Table :=
  match t.lookup chain, parseRule args with
  | some rules, some r =>
    if targetExists t r then some (t.insert chain (rules ++ [r])) else none
  | _, _ => none

def insertAt (chain : String) (position : Nat) (args : List String) (t : Table) : Option Table :=
  match t.lookup chain, parseRule args with
  | some rules, some r =>
    if targetExists t r ∧ 1 ≤ position ∧ position ≤ rules.length + 1 then
      some (t.insert chain (rules.insertIdx (position - 1) r))
    else none
  | _, _ => none

def check (chain : String) (args : List String) (t : Table) : Option Table :=
  match t.lookup chain, parseRule args with
  | some rules, some r => if r ∈ rules then some t else none
  | _, _ => none

def delete (chain : String) (args : List String) (t : Table) : Option Table :=
  match t.lookup chain, parseRule args with
  | some rules, some r => if r ∈ rules then some (t.insert chain (rules.erase r)) else none
  | _, _ => none

def execOn : List String → Table → Option Table
  | op :: chain :: args, t =>
    if op = "-A" then append chain args t
    else if op = "-C" then check chain args t
    else if op = "-D" then delete chain args t
    else if op = "-I" then
      match args with
      | position :: args => (dtoi position.toList).bind fun n => insertAt chain n args t
      | [] => none
    else if args ≠ [] then none
    else if op = "-N" then newChain chain t
    else if op = "-F" then flush chain t
    else if op = "-X" then deleteChain chain t
    else none
  | _, _ => none

structure Netfilter where
  (filter nat : Table)

/-- One invocation of `iptables`; `none` is a non-zero exit status. -/
def exec : List String → Netfilter → Option Netfilter
  | "-t" :: "nat" :: cmd, nf => (execOn cmd nf.nat).map fun t => { nf with nat := t }
  | cmd, nf => (execOn cmd nf.filter).map fun t => { nf with filter := t }

section Commands

variable {t : Table} {chain : String}

theorem execOn_append (args : List String) : execOn ("-A" :: chain :: args) t = append chain args t := rfl

theorem execOn_flush : execOn ["-F", chain] t = flush chain t := rfl

theorem execOn_newChain : execOn ["-N", chain] t = newChain chain t := rfl

theorem execOn_deleteChain : execOn ["-X", chain] t = deleteChain chain t := rfl

theorem execOn_check (args : List String) : execOn ("-C" :: chain :: args) t = check chain args t := rfl

theorem execOn_delete (args : List String) : execOn ("-D" :: chain :: args) t = delete chain args t := rfl

theorem execOn_insertFirst (args : List String) :
    execOn ("-I" :: chain :: "1" :: args) t = insertAt chain 1 args t := by
  simp [execOn, dtoi, Nat.ofDigitChars]

variable {args : List String}

theorem append_eq {rules : List Rule} {r : Rule} (hc : t.lookup chain = some rules)
    (hr : parseRule args = some r) (ht : targetExists t r = true) :
    append chain args t = some (t.insert chain (rules ++ [r])) := by
  simp [append, hc, hr, ht]

theorem append_eq_none (hr : parseRule args = none) : append chain args t = none := by
  unfold append
  rw [hr]
  split
  · rename_i h
    cases h
  · rfl

end Commands

theorem parseAddress_text (p : Prefix 32) : parseAddress (Cidr.v4 p).text = some p := by
  have hs : ((Cidr.v4 p).text).toList = dotted p.addr ++ '/' :: Nat.toDigits 10 p.len := by
    simp [Cidr.text, host]
  unfold parseAddress
  rw [hs, cutSlash_append (mem_dotted_ne (by decide) (by decide))]
  simp [parseDotted_dotted, dtoi_toDigits, p.len_le, Prefix.ofAddr_self]

theorem parseAddress_host (a : BitVec 32) :
    parseAddress (host (.v4 a) ++ "/32") = some (Prefix.ofAddr a 32 (Nat.le_refl 32)) := by
  have hs : (host (.v4 a) ++ "/32").toList = dotted a ++ '/' :: Nat.toDigits 10 32 := by
    have h32 : "/32".toList = '/' :: Nat.toDigits 10 32 := by decide
    rw [String.toList_append, h32, host, String.toList_ofList]
  unfold parseAddress
  rw [hs, cutSlash_append (mem_dotted_ne (by decide) (by decide))]
  simp [parseDotted_dotted, dtoi_toDigits]

theorem parseAddress_colon (a : BitVec 128) (m : List Char) :
    parseAddress (String.ofList (colonText a ++ '/' :: m)) = none := by
  have hnone : parseDotted (colonText a) = none := by
    cases h : parseDotted (colonText a) with
    | none => rfl
    | some b =>
      rcases parseDotted_chars h ':' (colon_mem_colonText a) with hc | hc
      · exact absurd hc (by decide)
      · exact absurd hc (by decide)
  unfold parseAddress
  rw [String.toList_ofList, cutSlash_append (slash_not_mem_colonText a)]
  simp [hnone]

theorem parseAddress_text_v6 (p : Prefix 128) : parseAddress (Cidr.v6 p).text = none := by
  have hs : (Cidr.v6 p).text = String.ofList (colonText p.addr ++ '/' :: Nat.toDigits 10 p.len) := by
    apply String.toList_inj.mp
    simp [Cidr.text, host]
  rw [hs]
  exact parseAddress_colon _ _

theorem parseAddress_host_v6 (a : BitVec 128) : parseAddress (host (.v6 a) ++ "/32") = none := by
  have hs : host (.v6 a) ++ "/32" = String.ofList (colonText a ++ '/' :: Nat.toDigits 10 32) := by
    have h32 : "/32".toList = '/' :: Nat.toDigits 10 32 := by decide
    apply String.toList_inj.mp
    rw [String.toList_append, h32, host, String.toList_ofList, String.toList_ofList]
  rw [hs]
  exact parseAddress_colon _ _

end Outpost.Iptables
