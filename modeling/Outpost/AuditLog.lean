import Outpost.Shared.Middleware
import Outpost.Shared.RowOrder
import Outpost.TokenRevocation

/-!
# The audit log

`AuditMiddleware` around all routes of the core, and `JWTMiddleware` before the protected ones,
whose claims go inwards only. Requests are served one at a time and within the timeout, inserts
into the log succeed, and the layers that add headers or a request id are left out.
-/

namespace Outpost

open Middleware

structure HttpRequest where
  (method path rawQuery remoteAddr userAgent authorization : String)
  claims : Option TokenClaims
deriving DecidableEq

structure HttpResponse where
  status : Nat
  message : String
deriving DecidableEq

structure AuditDetails where
  method : String
  statusCode : Nat
  query : Option String
deriving DecidableEq

structure AuditRow where
  id : Nat
  timestamp : Time
  userID : Option Uuid
  (action resource : String)
  details : AuditDetails
  (ipAddress userAgent : String)
deriving DecidableEq

structure Core where
  world : World
  auditLog : List AuditRow
  nextID : Nat
  fresh : ∀ row ∈ auditLog, row.id < nextID

namespace AuditLog

def nilUuid : Uuid := "00000000-0000-0000-0000-000000000000"

structure RouterEnv where
  auth : AuthEnv
  /-- Whether `/mail` is mounted. -/
  mailer : Bool
  /-- The address that `RealIP` puts into the request. -/
  realIP : HttpRequest → String
  splitHostPort : String → Option String
  parseUuid : String → Option Uuid
  parseUuid_empty : parseUuid "" = none
  castUuid : String → Option Uuid
  (protectedRoutes otherRoutes : Handler HttpRequest HttpResponse World)

variable (env : RouterEnv)

def auditUser (r : HttpRequest) : Option (Option Uuid) :=
  match r.claims with
  | none => some none
  | some claims =>
    if claims.userID = "" then some none
    else match env.parseUuid claims.userID with
      | none => none
      | some uid => some (if uid = nilUuid then none else some uid)

def auditRow (id : Nat) (timestamp : Time) (userID : Option Uuid) (r : HttpRequest)
    (statusCode : Nat) : AuditRow where
  id := id
  timestamp := timestamp
  userID := userID
  action := r.method ++ " " ++ r.path
  resource := r.path
  details := ⟨r.method, statusCode, if r.rawQuery = "" then none else some r.rawQuery⟩
  ipAddress := (env.splitHostPort r.remoteAddr).getD r.remoteAddr
  userAgent := r.userAgent

/-- The `INSERT` reads the clock of the database. -/
def logRequest (r : HttpRequest) (res : HttpResponse) (s : Core) : Core :=
  match auditUser env r with
  | none => s
  | some userID =>
    { s with
      auditLog := s.auditLog ++ [auditRow env s.nextID s.world.now userID r res.status]
      nextID := s.nextID + 1
      fresh := by
        intro row hrow
        rcases List.mem_append.mp hrow with hrow | hrow
        · exact Nat.lt_succ_of_lt (s.fresh row hrow)
        · rw [List.mem_singleton.mp hrow]
          exact Nat.lt_succ_self _ }

def stateChanging : List String := ["POST", "PUT", "PATCH", "DELETE"]

def auditMiddleware : Layer HttpRequest HttpResponse Core := fun next r =>
  if r.method ∉ stateChanging then next r
  else if ¬ "/api/".toList <+: r.path.toList then next r
  else afterwards (logRequest env) next r

def protectedMounts : List String :=
  ["users", "groups", "networks", "devices", "gateways", "mfa", "sessions", "audit", "webhooks",
    "s2s-tunnels", "settings"] ++ (if env.mailer then ["mail"] else []) ++
  ["smart-routes", "tenants", "notifications", "nat", "dashboard", "analytics", "compliance",
    "ztna"]

def mountedAt (path name : String) : Bool :=
  path = "/api/v1/" ++ name ∨ ("/api/v1/" ++ name ++ "/").toList <+: path.toList

def isProtected (path : String) : Bool := (protectedMounts env).any (mountedAt path)

def checkJWT (r : HttpRequest) (s : Core) : Except HttpResponse HttpRequest × Core :=
  let checked := (AuthHandler.jwtMiddleware env.auth r.authorization).alone s.world
  (match checked.2 with
    | .error e => .error ⟨e.status, e.message⟩
    | .ok claims => .ok { r with claims := some claims },
   { s with world := checked.1 })

def onWorld (handler : Handler HttpRequest HttpResponse World) :
    Handler HttpRequest HttpResponse Core :=
  focus Core.world (fun s w => { s with world := w }) handler

def routes : Handler HttpRequest HttpResponse Core := fun r =>
  if isProtected env r.path then guarded (checkJWT env) (onWorld env.protectedRoutes) r
  else onWorld env.otherRoutes r

def withRealIP (r : HttpRequest) : HttpRequest := { r with remoteAddr := env.realIP r }

def router : Handler HttpRequest HttpResponse Core :=
  chain [rewrite (withRealIP env), recover ⟨500, ""⟩, auditMiddleware env] (routes env)

inductive ActionPattern where
  | exact (action : String)
  /-- `LIKE` with a final `%`. -/
  | startsWith (text : String)
deriving DecidableEq

def ActionPattern.admits (action : String) : ActionPattern → Bool
  | .exact text => action = text
  | .startsWith text => text.toList <+: action.toList

def notificationActionPatterns : List ActionPattern :=
  [.exact "POST /api/v1/auth/login", .exact "POST /api/v1/auth/logout",
   .startsWith "POST /api/v1/devices", .startsWith "DELETE /api/v1/devices",
   .startsWith "POST /api/v1/users", .startsWith "DELETE /api/v1/users",
   .startsWith "POST /api/v1/networks", .startsWith "DELETE /api/v1/networks",
   .startsWith "POST /api/v1/gateways", .startsWith "DELETE /api/v1/gateways",
   .startsWith "PUT /api/v1/settings", .exact "gateway.connected", .exact "gateway.disconnected",
   .exact "device.approved", .exact "device.revoked"]

def notifies (action : String) : Bool :=
  notificationActionPatterns.any (ActionPattern.admits action)

structure NotificationItem where
  id : Nat
  timestamp : Time
  (action resource : String)
  details : AuditDetails
  userID : Option Uuid
deriving DecidableEq

def notificationItem (row : AuditRow) : NotificationItem :=
  ⟨row.id, row.timestamp, row.action, row.resource, row.details, row.userID⟩

def listLimit (limit : Int) : Nat := if limit < 1 ∨ limit > 100 then 30 else limit.toNat

/-- `ORDER BY timestamp DESC`. -/
def listedBefore (row row' : AuditRow) : Bool := row'.timestamp ≤ row.timestamp

def listItems (order : RangeOrder AuditRow) (rows : List AuditRow) (limit : Int) :
    List NotificationItem :=
  (((order.visit rows).mergeSort listedBefore).take (listLimit limit)).map notificationItem

/-- `list`: administrators see all rows, others the rows with their id. -/
def list (order : RangeOrder AuditRow) (log : List AuditRow) (claims : TokenClaims) (limit : Int) :
    Except HandlerError (List NotificationItem) :=
  if claims.isAdmin then .ok (listItems order (log.filter fun row => notifies row.action) limit)
  else match env.castUuid claims.userID with
    | none => .error ⟨500, "failed to query notifications"⟩
    | some uid => .ok (listItems order
        (log.filter fun row => row.userID = some uid ∧ notifies row.action) limit)

section Logged

variable {env} {r : HttpRequest} {s : Core} {w₁ w₂ : World} {res : HttpResponse} {c : TokenClaims}
  {uid : Uuid}

def Carries (env : RouterEnv) (r : HttpRequest) (uid : Uuid) : Prop :=
  ∃ claims, r.claims = some claims ∧ env.parseUuid claims.userID = some uid

theorem auditUser_eq_iff (hnil : uid ≠ nilUuid) :
    auditUser env r = some (some uid) ↔ Carries env r uid := by
  unfold auditUser Carries
  cases r.claims with
  | none => simp
  | some claims =>
    by_cases hempty : claims.userID = ""
    · simp [hempty, env.parseUuid_empty]
    · cases hparse : env.parseUuid claims.userID with
      | none => simp [hparse]
      | some uid' =>
        by_cases hzero : uid' = nilUuid
        · simp [hparse, hzero, hnil.symm]
        · simp [hempty, hparse, hzero]

theorem logRequest_auditLog (r : HttpRequest) (res : HttpResponse) (s : Core) :
    (logRequest env r res s).auditLog = s.auditLog ++ (auditUser env r).toList.map fun userID =>
      auditRow env s.nextID s.world.now userID r res.status := by
  unfold logRequest
  cases auditUser env r with
  | none => simp
  | some userID => rfl

theorem api_path {path : String} (h : isProtected env path = true) :
    "/api/".toList <+: path.toList := by
  have hroot : ∀ name : String, "/api/".toList <+: ("/api/v1/" ++ name).toList := by
    intro name
    rw [String.toList_append]
    exact List.IsPrefix.trans (by decide) (List.prefix_append _ _)
  obtain ⟨name, _, hmount⟩ := List.any_eq_true.mp h
  rcases of_decide_eq_true hmount with rfl | hbelow
  · exact hroot name
  · exact (hroot (name ++ "/")).trans hbelow

theorem checkJWT_passed
    (hpass : (AuthHandler.jwtMiddleware env.auth r.authorization).alone s.world = (w₁, .ok c)) :
    checkJWT env r s = (.ok { r with claims := some c }, { s with world := w₁ }) := by
  unfold checkJWT
  rw [hpass]

theorem router_replied (hmethod : r.method ∈ stateChanging) (hroute : isProtected env r.path = true)
    (hpass : (AuthHandler.jwtMiddleware env.auth r.authorization).alone s.world = (w₁, .ok c))
    (hreply : env.protectedRoutes { withRealIP env r with claims := some c } w₁ =
      (.replied res, w₂)) :
    router env r s =
      (.replied res, logRequest env (withRealIP env r) res { s with world := w₂ }) := by
  have hinner : routes env (withRealIP env r) s = (.replied res, { s with world := w₂ }) := by
    have hchecked := checkJWT_passed (r := withRealIP env r) hpass
    unfold routes
    rw [if_pos (show isProtected env (withRealIP env r).path = true from hroute),
      guarded_passed hchecked]
    exact focus_replied hreply
  have haudit : auditMiddleware env (routes env) (withRealIP env r) s =
      (.replied res, logRequest env (withRealIP env r) res { s with world := w₂ }) := by
    unfold auditMiddleware
    rw [if_neg (not_not.mpr (show (withRealIP env r).method ∈ stateChanging from hmethod)),
      if_neg (not_not.mpr (show "/api/".toList <+: (withRealIP env r).path.toList from
        api_path hroute))]
    exact afterwards_replied (logRequest env) hinner
  exact recover_replied ⟨500, ""⟩ haudit

end Logged

section Listed

variable {env} {order : RangeOrder AuditRow} {rows : List AuditRow} {row : AuditRow} {limit : Int}

theorem listLimit_pos (limit : Int) : 0 < listLimit limit := by
  unfold listLimit
  split
  · decide
  · omega

theorem listedBefore_trans (a b c : AuditRow) (h : listedBefore a b = true)
    (h' : listedBefore b c = true) : listedBefore a c = true := by
  simp only [listedBefore, decide_eq_true_eq] at h h' ⊢
  exact h'.trans h

theorem listedBefore_total (a b : AuditRow) : (listedBefore a b || listedBefore b a) = true := by
  simp only [listedBefore, Bool.or_eq_true, decide_eq_true_eq]
  exact le_total _ _

theorem mem_of_listItems {item : NotificationItem} (h : item ∈ listItems order rows limit) :
    ∃ row ∈ rows, notificationItem row = item := by
  obtain ⟨row, hrow, rfl⟩ := List.mem_map.mp h
  have hsorted := List.mem_of_mem_take hrow
  exact ⟨row, (RangeOrder.sorted_perm listedBefore order rows).mem_iff.mp hsorted, rfl⟩

theorem newest_mem_listItems (hrow : row ∈ rows)
    (hnewest : ∀ old ∈ rows, old ≠ row → old.timestamp < row.timestamp) :
    notificationItem row ∈ listItems order rows limit := by
  have hperm := RangeOrder.sorted_perm listedBefore order rows
  cases hsorted : (order.visit rows).mergeSort listedBefore with
  | nil =>
    rw [hsorted] at hperm
    exact absurd hrow (by rw [← hperm.nil_eq]; exact List.not_mem_nil)
  | cons first rest =>
    have hbefore := RangeOrder.le_of_first listedBefore_trans listedBefore_total
      (by rw [hsorted]; rfl) hrow
    have hfirst : first = row := by
      by_contra hne
      have hlt := hnewest first (hperm.mem_iff.mp (by rw [hsorted]; exact List.mem_cons_self)) hne
      exact absurd hlt (not_lt.mpr (of_decide_eq_true hbefore))
    have hpos := listLimit_pos limit
    unfold listItems
    rw [hsorted, hfirst]
    obtain ⟨k, hk⟩ := Nat.exists_eq_succ_of_ne_zero hpos.ne'
    rw [hk]
    exact .head _

end Listed

section Author

variable {env} {r : HttpRequest} {s : Core} {res : HttpResponse} {uid : Uuid}

theorem names_iff (hnil : uid ≠ nilUuid) :
    (∃ row, (logRequest env r res s).auditLog = s.auditLog ++ [row] ∧ row.userID = some uid) ↔
      Carries env r uid := by
  rw [← auditUser_eq_iff hnil, logRequest_auditLog]
  constructor
  · intro ⟨row, hrow, hauthor⟩
    cases huser : auditUser env r with
    | none => simp [huser] at hrow
    | some userID =>
      simp only [huser, Option.toList_some, List.map_cons, List.map_nil, List.append_cancel_left_eq,
        List.cons.injEq, and_true] at hrow
      rw [← hrow] at hauthor
      exact congrArg some hauthor
  · intro huser
    rw [huser]
    exact ⟨_, rfl, rfl⟩

theorem listed_iff {c : TokenClaims} (hadmin : c.isAdmin = false) (hnil : uid ≠ nilUuid)
    (hcast : env.castUuid c.userID = some uid)
    (hnotifies : notifies (r.method ++ " " ++ r.path) = true)
    (hnewest : ∀ old ∈ s.auditLog, old.timestamp < s.world.now) (order : RangeOrder AuditRow)
    (limit : Int) :
    (∃ items, list env order (logRequest env r res s).auditLog c limit = .ok items ∧
      ∃ item ∈ items, item.id = s.nextID) ↔ Carries env r uid := by
  unfold list
  rw [if_neg (by simp [hadmin]), hcast, ← auditUser_eq_iff hnil, logRequest_auditLog]
  constructor
  · intro ⟨items, hitems, item, hitem, hid⟩
    obtain rfl := Except.ok.inj hitems
    obtain ⟨row, hrow, rfl⟩ := mem_of_listItems hitem
    obtain ⟨hrow, hadmits⟩ := List.mem_filter.mp hrow
    have hauthor := (of_decide_eq_true hadmits).1
    rcases List.mem_append.mp hrow with hold | hnew
    · exact absurd hid (s.fresh row hold).ne
    · obtain ⟨userID, huser, rfl⟩ := List.mem_map.mp hnew
      rw [Option.mem_toList] at huser
      rw [huser]
      exact congrArg some hauthor
  · intro huser
    rw [huser]
    refine ⟨_, rfl, notificationItem (auditRow env s.nextID s.world.now (some uid) r res.status),
      newest_mem_listItems ?_ ?_, rfl⟩
    · exact List.mem_filter.mpr ⟨List.mem_append_right _ (.head _),
        decide_eq_true ⟨rfl, hnotifies⟩⟩
    · intro old hold hne
      rcases List.mem_append.mp (List.mem_filter.mp hold).1 with hold | hnew
      · exact hnewest old hold
      · exact absurd (List.mem_singleton.mp hnew) hne

end Author

/-- The row of a request that the token lets pass names its user, and their notifications show it,
exactly if the request had the claims before it came to the router. -/
theorem author_named_iff {env : RouterEnv} {r : HttpRequest} {s : Core} {w₁ w₂ : World}
    {res : HttpResponse} {c : TokenClaims} {uid : Uuid} (hmethod : r.method ∈ stateChanging)
    (hroute : isProtected env r.path = true)
    (hpass : (AuthHandler.jwtMiddleware env.auth r.authorization).alone s.world = (w₁, .ok c))
    (hreply : env.protectedRoutes { withRealIP env r with claims := some c } w₁ =
      (.replied res, w₂))
    (huser : env.parseUuid c.userID = some uid) (hnil : uid ≠ nilUuid) :
    ∃ s', router env r s = (.replied res, s') ∧
      ((∃ row, s'.auditLog = s.auditLog ++ [row] ∧ row.userID = some uid) ↔
        ∃ claims, r.claims = some claims ∧ env.parseUuid claims.userID = env.parseUuid c.userID) ∧
      (c.isAdmin = false → env.castUuid c.userID = some uid →
        notifies (r.method ++ " " ++ r.path) = true →
        (∀ old ∈ s.auditLog, old.timestamp < w₂.now) → ∀ order limit,
        ((∃ items, list env order s'.auditLog c limit = .ok items ∧
          ∃ item ∈ items, item.id = s.nextID) ↔
        ∃ claims, r.claims = some claims ∧
          env.parseUuid claims.userID = env.parseUuid c.userID)) := by
  refine ⟨_, router_replied hmethod hroute hpass hreply, ?_, ?_⟩
  · rw [huser]
    exact names_iff hnil
  · intro hadmin hcast hnotifies hnewest order limit
    rw [huser]
    exact listed_iff (r := withRealIP env r) (s := { s with world := w₂ }) hadmin hnil hcast
      hnotifies hnewest order limit

open SessionProvenance (sampleEnv carolClaims carolHeader)

open TokenRevocation (carolWorld carolHeader_eq carol_valid)

def routerEnv : RouterEnv where
  auth := sampleEnv
  mailer := false
  realIP := HttpRequest.remoteAddr
  splitHostPort := fun _ => none
  parseUuid := fun text => if text = "" then none else some text
  parseUuid_empty := rfl
  castUuid := some
  protectedRoutes := fun _ w => (.replied ⟨201, "created"⟩, w)
  otherRoutes := fun _ w => (.replied ⟨404, "not found"⟩, w)

def addDevice (claims : Option TokenClaims) : HttpRequest :=
  ⟨"POST", "/api/v1/devices", "", "192.0.2.1", "curl", carolHeader, claims⟩

def carolCore : Core := ⟨carolWorld, [], 1, by simp⟩

theorem carol_admitted : (AuthHandler.jwtMiddleware routerEnv.auth carolHeader).alone carolWorld =
    (carolWorld, .ok carolClaims) := by
  exact AuthHandler.jwtMiddleware_alone carol_valid (by decide) rfl

theorem carol_named : ∃ s', router routerEnv (addDevice (some carolClaims)) carolCore =
      (.replied ⟨201, "created"⟩, s') ∧
    ∃ row, s'.auditLog = [row] ∧ row.userID = some carolClaims.userID := by
  obtain ⟨s', hserve, hnamed, _⟩ := @author_named_iff routerEnv (addDevice (some carolClaims))
    carolCore _ _ _ _ _ (by decide) (by decide) carol_admitted rfl rfl (by decide)
  exact ⟨s', hserve, hnamed.mpr ⟨carolClaims, rfl, rfl⟩⟩

/-- A request from the network comes without claims, and its row without a user. -/
theorem carol_not_named : ∃ s', router routerEnv (addDevice none) carolCore =
      (.replied ⟨201, "created"⟩, s') ∧
    (∃ row, s'.auditLog = [row] ∧ row.action = "POST /api/v1/devices" ∧ row.userID = none) ∧
    list routerEnv .asListed s'.auditLog carolClaims 30 = .ok [] := by
  have hserve : router routerEnv (addDevice none) carolCore = (.replied ⟨201, "created"⟩, _) :=
    router_replied (by decide) (by decide) carol_admitted rfl
  exact ⟨_, hserve, ⟨_, rfl, rfl, rfl⟩, by decide +kernel⟩

end AuditLog

end Outpost
