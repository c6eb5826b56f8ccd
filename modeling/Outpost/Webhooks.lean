import Outpost.DeviceHandler
import Outpost.Shared.ReloadedCache
import Outpost.Tokens

/-!
# Webhook subscriptions

`createSubscription` and `deleteSubscription` reload the cache after their statement:
`LoadSubscriptions` queries the active rows and then assigns them under `d.mu`.
-/

namespace Outpost.Webhook

open Runs Interleaving ReloadedCache Function

structure Subscription where
  id : Uuid
  (url secret : String)
  events : List String
  isActive : Bool
  createdAt : Time
deriving DecidableEq

abbrev World := Cached (List Subscription) (List Subscription)

def activeRows (rows : List Subscription) : List Subscription :=
  rows.filter Subscription.isActive

def loadSubscriptions (order : RangeOrder Subscription) : Prog World Unit :=
  reload fun rows => order.visit (activeRows rows)

def matchesEvent (filters : List String) (eventType : String) : Bool :=
  filters.any fun f => f = "*" || f = eventType

def dispatch (w : World) (eventType : String) : List Subscription :=
  w.cache.filter fun s => matchesEvent s.events eventType

structure Env where
  /-- `url.Parse`: the scheme and the host, or its error. -/
  parseUrl : String → Except String (String × String)
  /-- `net.LookupIP`: for each address whether it is private, or its error. -/
  lookupIP : String → Except String (List Bool)
  toLower : String → String
  /-- `uuid.Parse`, with the canonical text of the result. -/
  parseUuid : String → Option Uuid

def validateWebhookURL (env : Env) (rawURL : String) : Option String :=
  match env.parseUrl rawURL with
  | .error message => some ("invalid URL: " ++ message)
  | .ok (scheme, host) =>
    if env.toLower scheme ≠ "https" ∧ env.toLower scheme ≠ "http" then
      some "URL scheme must be http or https"
    else if host = "" then some "URL must have a hostname"
    else match env.lookupIP host with
      | .error message => some ("cannot resolve hostname: " ++ message)
      | .ok ips =>
        if true ∈ ips then some "URL must not point to a private/internal address" else none

structure CreateSubscriptionRequest where
  (url secret : String)
  events : List String

structure Drawn where
  id : Uuid
  createdAt : Time
  secret : Option String
  order : RangeOrder Subscription

inductive Reply where
  | created (sub : Subscription)
  | deleted
  | refused (e : HandlerError)
deriving DecidableEq

def insertRow (sub : Subscription) (rows : List Subscription) : Option (List Subscription) :=
  if ∃ s ∈ rows, s.id = sub.id then none else some (rows ++ [sub])

def deleteRow (id : Uuid) (rows : List Subscription) : Option (List Subscription) :=
  if ∃ s ∈ rows, s.id = id then some (rows.filter fun s => s.id ≠ id) else none

section Handlers

variable (env : Env)

def createSubscription (drawn : Drawn) (req : CreateSubscriptionRequest) : Prog World Reply :=
  if req.url = "" then pure (.refused ⟨400, "url is required"⟩)
  else match validateWebhookURL env req.url with
    | some message => pure (.refused ⟨400, "invalid webhook URL: " ++ message⟩)
    | none =>
      match (if req.secret = "" ∨ req.secret = "auto" then drawn.secret else some req.secret) with
      | none => pure (.refused ⟨500, "failed to generate secret"⟩)
      | some secret =>
        let events := if req.events = [] then ["*"] else req.events
        let sub : Subscription := ⟨drawn.id, req.url, secret, events, true, drawn.createdAt⟩
        do
          let done ← Prog.modify (execute (insertRow sub))
          if done then do
            loadSubscriptions drawn.order
            pure (.created sub)
          else pure (.refused ⟨500, "failed to create subscription"⟩)

def deleteSubscription (drawn : Drawn) (id : String) : Prog World Reply :=
  match env.parseUuid id with
  | none => pure (.refused ⟨400, "invalid subscription ID"⟩)
  | some id => do
    let done ← Prog.modify (execute (deleteRow id))
    if done then do
      loadSubscriptions drawn.order
      pure .deleted
    else pure (.refused ⟨404, "subscription not found"⟩)

inductive Request where
  | create (drawn : Drawn) (req : CreateSubscriptionRequest)
  | delete (drawn : Drawn) (id : String)

def serve : Request → Prog World Reply
  | .create drawn req => createSubscription env drawn req
  | .delete drawn id => deleteSubscription env drawn id

end Handlers

def newDispatcher (order : RangeOrder Subscription) (rows : List Subscription) : World :=
  ((loadSubscriptions order).alone ⟨rows, []⟩).1

def UpToDate (rows subs : List Subscription) : Prop := subs.Perm (activeRows rows)

theorem upToDate_query (order : RangeOrder Subscription) (rows : List Subscription) :
    UpToDate rows (order.visit (activeRows rows)) :=
  order.perm _

theorem exists_outdated (rows : List Subscription) : ∃ subs, ¬ UpToDate rows subs := by
  refine ⟨⟨"", "", "", [], true, 0⟩ :: activeRows rows, ?_⟩
  intro h
  exact Nat.succ_ne_self _ h.length_eq

theorem stage_serve (env : Env) (r : Request) :
    Stage UpToDate (serve env r) ∧ ¬ Assigns (serve env r) := by
  cases r with
  | create drawn req =>
    rw [serve, createSubscription]
    split
    · exact ⟨.answer _, id⟩
    · split
      · exact ⟨.answer _, id⟩
      · split
        · exact ⟨.answer _, id⟩
        · exact ⟨.statement _ _ _ _ (upToDate_query drawn.order), not_assigns_changing _ _ _ _⟩
  | delete drawn id =>
    rw [serve, deleteSubscription]
    split
    · exact ⟨.answer _, False.elim⟩
    · exact ⟨.statement _ _ _ _ (upToDate_query drawn.order), not_assigns_changing _ _ _ _⟩

theorem mem_dispatch {w : World} (h : UpToDate w.table w.cache) {eventType : String}
    {s : Subscription} : s ∈ dispatch w eventType ↔
      s ∈ w.table ∧ s.isActive = true ∧ matchesEvent s.events eventType = true := by
  rw [dispatch, List.mem_filter, h.mem_iff, activeRows, List.mem_filter, and_assoc]

instance : Nontrivial (List Subscription) :=
  ⟨[], [⟨"", "", "", [], true, 0⟩], (List.cons_ne_nil _ _).symm⟩

/-- The cache is up to date or about to be exactly when requests assign only while one of them, left
alone, would bring it up to date. Then it holds the active rows whenever no request is in flight,
and events go to these alone. -/
theorem webhook_cache_converges {env : Env} {p q : Pool World Request Reply}
    {events : List (Event World Request Reply)} (hstart : ∀ n, p.threads n = .unused)
    (hcache : UpToDate p.shared.table p.shared.cache) :
    (Run (Through (Step (serve env) Nobody) (Settling UpToDate)) p events q ↔
        Run (Guarded (Step (serve env) Nobody) (InOrder UpToDate)) p events q) ∧
      (Run (Guarded (Step (serve env) Nobody) (InOrder UpToDate)) p events q →
        (∀ n request rest, q.threads n ≠ .running request rest) →
        q.shared.cache.Perm (activeRows q.shared.table) ∧
          ∀ eventType s, s ∈ dispatch q.shared eventType ↔
            s ∈ q.shared.table ∧ s.isActive = true ∧ matchesEvent s.events eventType = true) := by
  have hstaged : Staged UpToDate p := by
    intro n request rest hthread
    cases (hstart n).symm.trans hthread
  have hiff : Run (Through (Step (serve env) Nobody) (Settling UpToDate)) p events q ↔
      Run (Guarded (Step (serve env) Nobody) (InOrder UpToDate)) p events q :=
    settling_iff exists_outdated (fun r => (stage_serve env r).1) hstaged (.inl hcache)
  refine ⟨hiff, ?_⟩
  intro hrun hquiet
  have hsettling : Settling UpToDate q :=
    (hiff.mpr hrun).invariant (I := Settling UpToDate) (fun _ _ _ h _ => h.2) (.inl hcache)
  have hcurrent : UpToDate q.shared.table q.shared.cache := current_of_settling hsettling hquiet
  exact ⟨hcurrent, fun _ _ => mem_dispatch hcurrent⟩

def quietEnv : Env := ⟨fun _ => .ok ("https", "hooks"), fun _ => .ok [false], id, some⟩

def pager : Subscription := ⟨"pager", "https://hooks/pager", "s", ["*"], true, 0⟩

def chat : Subscription := ⟨"chat", "https://hooks/chat", "t", ["*"], true, 1⟩

def hooked : Pool World Request Reply := ⟨newDispatcher .asListed [pager], fun _ => .unused⟩

def addChat : Request := .create ⟨"chat", 1, none, .asListed⟩ ⟨"https://hooks/chat", "t", []⟩

def dropPager : Request := .delete ⟨"", 2, none, .asListed⟩ "pager"

/-- The creation has read the rows when the deletion comes, and assigns them after it. -/
theorem deleted_subscription_cached : ∃ events q,
    Run (Step (serve quietEnv) Nobody) hooked events q ∧
      (∀ n request rest, q.threads n ≠ .running request rest) ∧
      q.threads 1 = .answered dropPager .deleted ∧ q.shared.table = [chat] ∧
      q.shared.cache = [pager, chat] ∧ pager ∈ dispatch q.shared "device.created" := by
  refine ⟨_, _, Pool.run_play_step [.start 0 addChat, .act 0 2, .start 1 dropPager, .finish 1,
    .finish 0] hooked ⟨trivial, trivial, trivial, trivial, trivial, trivial⟩, ?_, rfl, rfl, rfl,
    by decide⟩
  intro n request rest hthread
  cases n with
  | zero => cases hthread
  | succ n =>
    cases n with
    | _ => cases hthread

theorem run_serve (env : Env) {p : Pool World Request Reply} {n : Nat} (request : Request)
    (hunused : p.threads n = .unused) :
    Run (Guarded (Step (serve env) Nobody) (InOrder UpToDate)) p
      (.start n request :: aloneEvents n (serve env request) p.shared)
      ⟨((serve env request).alone p.shared).1, update p.threads n
        (.answered request ((serve env request).alone p.shared).2)⟩ := by
  refine .cons ⟨.start hunused, trivial⟩ ?_
  have hrest : Run (Guarded (Step (serve env) Nobody) (InOrder UpToDate)) _ _ _ :=
    run_uninterrupted exists_outdated
      (p := ⟨p.shared, update p.threads n (.running request (serve env request))⟩)
      (serve env request) (update_self n _ p.threads) (stage_serve env request).1
      fun hassigns => absurd hassigns (stage_serve env request).2
  rw [update_idem] at hrest
  exact hrest

theorem chat_added_pager_dropped : ∃ events q,
    Run (Guarded (Step (serve quietEnv) Nobody) (InOrder UpToDate)) hooked events q ∧
      q.threads 1 = .answered dropPager .deleted ∧ q.shared.cache.Perm (activeRows [chat]) ∧
      pager ∉ dispatch q.shared "device.created" := by
  have hrun := (run_serve quietEnv (p := hooked) (n := 0) addChat rfl).trans
    (run_serve quietEnv (n := 1) dropPager rfl)
  refine ⟨_, _, hrun, rfl, ?_, by decide⟩
  refine ((webhook_cache_converges (fun _ => rfl) (upToDate_query .asListed [pager])).2 hrun ?_).1
  intro n request rest hthread
  cases n with
  | zero => cases hthread
  | succ n =>
    cases n with
    | _ => cases hthread

end Outpost.Webhook
