import Outpost.DeviceHandler
import Outpost.Shared.ReadModifyWrite
import Outpost.Shared.Schedules
import Outpost.Tokens
import Outpost.TrustScore

/-!
# Tenants

`update` and `deactivate` read the whole row of a tenant, change it in memory and write the whole
row back.
-/

namespace Outpost.Tenants

open Interleaving ReadModifyWrite Runs Function

structure Tenant where
  id : Uuid
  (name slug plan : String)
  (maxUsers maxDevices maxNetworks : Int)
  isActive : Bool
  (createdAt updatedAt : Time)
deriving DecidableEq

structure World where
  tenants : List Tenant
  now : Time

namespace World

variable (w : World)

def find (id : Uuid) : Option Tenant := w.tenants.find? fun t => t.id = id

def store (t row : Tenant) : Tenant :=
  { row with
    name := t.name, slug := t.slug, plan := t.plan, maxUsers := t.maxUsers,
    maxDevices := t.maxDevices, maxNetworks := t.maxNetworks, isActive := t.isActive,
    updatedAt := w.now }

def Storable (t : Tenant) : Prop :=
  (∃ row ∈ w.tenants, row.id = t.id) ∧ (∀ row ∈ w.tenants, row.id ≠ t.id → row.slug ≠ t.slug) ∧
    TrustScore.fitsInt4 t.maxUsers = true ∧ TrustScore.fitsInt4 t.maxDevices = true ∧
    TrustScore.fitsInt4 t.maxNetworks = true

instance (t : Tenant) : Decidable (w.Storable t) := by
  unfold Storable
  infer_instance

def storeTenant (t : Tenant) : World :=
  { w with tenants := w.tenants.map fun row => if row.id = t.id then w.store t row else row }

end World

def get (id : Uuid) : Prog World (Option Tenant) := .read fun w => w.find id

def updateTenant (t : Tenant) (fails : Bool) : Prog World Bool :=
  .modify fun w => if fails = false ∧ w.Storable t then (w.storeTenant t, true) else (w, false)

structure UpdateTenantRequest where
  name : Option String := none
  slug : Option String := none
  plan : Option String := none
  maxUsers : Option Int := none
  maxDevices : Option Int := none
  maxNetworks : Option Int := none
  isActive : Option Bool := none
deriving DecidableEq

def UpdateTenantRequest.apply (req : UpdateTenantRequest) (existing : Tenant) : Tenant :=
  { existing with
    name := req.name.getD existing.name
    slug := req.slug.getD existing.slug
    plan := req.plan.getD existing.plan
    maxUsers := req.maxUsers.getD existing.maxUsers
    maxDevices := req.maxDevices.getD existing.maxDevices
    maxNetworks := req.maxNetworks.getD existing.maxNetworks
    isActive := req.isActive.getD existing.isActive }

def validPlans : List String := ["free", "pro", "enterprise"]

inductive Reply where
  | updated (t : Tenant)
  | noContent
deriving DecidableEq

def refetch (id : Uuid) : Prog World (Except HandlerError Reply) := do
  match ← get id with
  | none => return .error ⟨500, "failed to fetch updated tenant"⟩
  | some updated => return .ok (.updated updated)

def update (id : Uuid) (body : Except String UpdateTenantRequest) (fails : Bool) :
    Prog World (Except HandlerError Reply) :=
  if id = "" then return .error ⟨400, "id is required"⟩
  else match body with
  | .error message => return .error ⟨400, message⟩
  | .ok req =>
    if (req.plan.all fun plan => plan ∈ validPlans) = false then
      return .error ⟨400, "plan must be free, pro, or enterprise"⟩
    else do
      match ← get id with
      | none => return .error ⟨404, "tenant not found"⟩
      | some existing =>
        if ← updateTenant (req.apply existing) fails then refetch id
        else return .error ⟨500, "failed to update tenant"⟩

def deactivate (id : Uuid) (fails : Bool) : Prog World (Except HandlerError Reply) :=
  if id = "" then return .error ⟨400, "id is required"⟩
  else do
    match ← get id with
    | none => return .error ⟨404, "tenant not found"⟩
    | some existing =>
      if ← updateTenant { existing with isActive := false } fails then return .ok .noContent
      else return .error ⟨500, "failed to deactivate tenant"⟩

inductive Request where
  | update (body : Except String UpdateTenantRequest) (fails : Bool)
  | deactivate (fails : Bool)

def handle (id : Uuid) : Request → Prog World (Except HandlerError Reply)
  | .update body fails => update id body fails
  | .deactivate fails => deactivate id fails

inductive Field where
  | name
  | slug
  | plan
  | maxUsers
  | maxDevices
  | maxNetworks
  | isActive
deriving DecidableEq

abbrev Field.Value : Field → Type
  | .name | .slug | .plan => String
  | .maxUsers | .maxDevices | .maxNetworks => Int
  | .isActive => Bool

def Tenant.at (t : Tenant) : (k : Field) → k.Value
  | .name => t.name
  | .slug => t.slug
  | .plan => t.plan
  | .maxUsers => t.maxUsers
  | .maxDevices => t.maxDevices
  | .maxNetworks => t.maxNetworks
  | .isActive => t.isActive

def UpdateTenantRequest.at (req : UpdateTenantRequest) : (k : Field) → Option k.Value
  | .name => req.name
  | .slug => req.slug
  | .plan => req.plan
  | .maxUsers => req.maxUsers
  | .maxDevices => req.maxDevices
  | .maxNetworks => req.maxNetworks
  | .isActive => req.isActive

def Request.patch : Request → UpdateTenantRequest
  | .update (.ok req) _ => req
  | .update (.error _) _ => {}
  | .deactivate _ => { isActive := some false }

def Reflects (patch : UpdateTenantRequest) (t : Tenant) : Prop :=
  ∀ k v, patch.at k = some v → t.at k = v

/-- The requests set different fields, or the same field to the same value. -/
def Compatible (patch patch' : UpdateTenantRequest) : Prop :=
  ∀ k v v', patch.at k = some v → patch'.at k = some v' → v = v'

section Fields

variable {patch patch' : UpdateTenantRequest} {t : Tenant}

theorem at_apply (patch : UpdateTenantRequest) (t : Tenant) (k : Field) :
    (patch.apply t).at k = (patch.at k).getD (t.at k) := by
  cases k <;> rfl

theorem at_store (w : World) (t row : Tenant) (k : Field) : (w.store t row).at k = t.at k := by
  cases k <;> rfl

theorem reflects_apply (patch : UpdateTenantRequest) (t : Tenant) :
    Reflects patch (patch.apply t) := by
  intro k v hv
  rw [at_apply, hv]
  rfl

theorem reflects_congr {t' : Tenant} (h : ∀ k, t'.at k = t.at k) :
    Reflects patch t' ↔ Reflects patch t := by
  unfold Reflects
  simp only [h]

theorem reflects_apply_iff (hcompatible : Compatible patch patch') :
    Reflects patch' (patch.apply t) ↔
      ∀ k v, patch'.at k = some v → patch.at k = none → t.at k = v := by
  constructor
  · intro h k v hv hnone
    have hk := h k v hv
    rw [at_apply, hnone] at hk
    exact hk
  · intro h k v hv
    rw [at_apply]
    cases hk : patch.at k with
    | none => exact h k v hv hk
    | some v' => exact hcompatible k v' v hk hv

end Fields

abbrev Server := Pool World Request (Except HandlerError Reply)

abbrev Happening := Event World Request (Except HandlerError Reply)

def Other (id : Uuid) (w w' : World) : Prop := w'.find id = w.find id

def Finishing (id : Uuid) (rest : Prog World (Except HandlerError Reply)) : Prop :=
  rest = refetch id ∨ ∃ reply, rest = .ret (.ok reply)

def Writing (id : Uuid) (r : Request) (t : Tenant)
    (rest : Prog World (Except HandlerError Reply)) : Prop :=
  ∃ fails finish e, Finishing id finish ∧ rest =
    (updateTenant (r.patch.apply t) fails >>= fun stored =>
      if stored = true then finish else pure (.error e))

def Fits (id : Uuid) (r : Request) (found : List World)
    (rest : Prog World (Except HandlerError Reply)) : Phase (Option Tenant) → Prop
  | .idle => found = [] ∧ rest = handle id r
  | .holding snapshot => ∃ w later, found = w :: later ∧ w.find id = snapshot ∧
      (later = [] ∧ (∃ t, snapshot = some t ∧ Writing id r t rest) ∨ ∃ e, rest = .ret (.error e))
  | .wrote snapshot replaced => ∃ w w' later t t', found = w :: w' :: later ∧
      w.find id = some t ∧ w'.find id = some t' ∧ snapshot = some t ∧ replaced = some t' ∧
      Finishing id rest

def Applies (r : Request) (snapshot _found v : Option Tenant) : Prop :=
  ∃ t t', snapshot = some t ∧ v = some t' ∧ ∀ k, t'.at k = (r.patch.apply t).at k

section Requests

variable {id : Uuid} {r : Request} {w : World} {t t' : Tenant}

theorem id_of_find (h : w.find id = some t) : t.id = id := by
  simpa using List.find?_some h

theorem find_storeTenant (hid : t'.id = id) (h : w.find id = some t) :
    (w.storeTenant t').find id = some (w.store t' t) := by
  have hkey :
      (fun row : Tenant => decide ((if row.id = t'.id then w.store t' row else row).id = id)) =
      fun row => decide (row.id = id) := by
    funext row
    split <;> rfl
  unfold World.find World.storeTenant
  rw [List.find?_map]
  show Option.map _ (w.tenants.find? fun row =>
    decide ((if row.id = t'.id then w.store t' row else row).id = id)) = _
  rw [hkey]
  unfold World.find at h
  rw [h, Option.map_some, if_pos ((id_of_find h).trans hid.symm)]

variable {update : World → World} {next : World → Prog World (Except HandlerError Reply)}

theorem writing_of_read (hw : w.find id = some t) (h : handle id r = .act update next) :
    update w = w ∧ Writing id r t (next w) := by
  cases r with
  | update body fails =>
    change Tenants.update id body fails = _ at h
    unfold Tenants.update at h
    split at h
    · cases h
    · split at h
      · cases h
      · split at h
        · cases h
        · cases h
          refine ⟨rfl, fails, refetch id, ⟨500, "failed to update tenant"⟩, .inl rfl, ?_⟩
          simp only [hw]
          rfl
  | deactivate fails =>
    change deactivate id fails = _ at h
    unfold deactivate at h
    split at h
    · cases h
    · cases h
      refine ⟨rfl, fails, pure (.ok .noContent), ⟨500, "failed to deactivate tenant"⟩,
        .inr ⟨_, rfl⟩, ?_⟩
      simp only [hw]
      rfl

theorem handle_ne_ok (id : Uuid) (r : Request) (reply : Reply) :
    handle id r ≠ .ret (.ok reply) := by
  intro h
  cases r with
  | update body fails =>
    change Tenants.update id body fails = _ at h
    unfold Tenants.update at h
    split at h
    · cases h
    · split at h
      · cases h
      · split at h
        · cases h
        · cases h
  | deactivate fails =>
    change deactivate id fails = _ at h
    unfold deactivate at h
    split at h
    · cases h
    · cases h

theorem of_writing (hw : w.find id = some t') (hid : t.id = id)
    (h : Writing id r t (.act update next)) :
    (∃ e, update w = w ∧ next w = .ret (.error e)) ∨
      Finishing id (next w) ∧ (update w).find id = some (w.store (r.patch.apply t) t') := by
  obtain ⟨fails, finish, e, hfinish, hrest⟩ := h
  cases hrest
  by_cases hstores : fails = false ∧ w.Storable (r.patch.apply t)
  · refine .inr ?_
    simp only [hstores, Prog.bind]
    exact ⟨hfinish, find_storeTenant hid hw⟩
  · refine .inl ⟨e, ?_, ?_⟩
    · simp [hstores]
    · simp only [hstores]
      rfl

theorem protocol (id : Uuid) : Protocol (handle id) (Other id) (World.find · id)
    (fun w => ∃ t, w.find id = some t) (fun _ => True) Applies (Fits id) where
  start := fun _ _ => ⟨rfl, rfl⟩
  act := by
    intro r found update next ph w hfits hw
    obtain ⟨t, ht⟩ := hw
    cases ph with
    | idle =>
      obtain ⟨rfl, hrest⟩ := hfits
      obtain ⟨hsame, hwriting⟩ := writing_of_read ht hrest.symm
      rw [hsame]
      exact ⟨⟨t, ht⟩, _, .read rfl, w, [], rfl, rfl, .inl ⟨rfl, t, ht, hwriting⟩⟩
    | holding snapshot =>
      obtain ⟨w₀, later, rfl, hsnapshot, ⟨rfl, t₀, rfl, hwriting⟩ | ⟨e, he⟩⟩ := hfits
      · rcases of_writing ht (id_of_find hsnapshot) hwriting with
          ⟨e, hsame, hnext⟩ | ⟨hfinishing, hstored⟩
        · rw [hsame, hnext]
          exact ⟨⟨t, ht⟩, _, .quiet rfl, w₀, [w], rfl, hsnapshot, .inr ⟨e, rfl⟩⟩
        · refine ⟨⟨_, hstored⟩, _, .write ⟨t₀, _, rfl, hstored, ?_⟩, w₀, w, [], t₀, t, rfl,
            hsnapshot, ht, rfl, ht, hfinishing⟩
          exact at_store w _ t
      · cases he
    | wrote snapshot replaced =>
      obtain ⟨w₀, w₁, later, t₀, t₁, rfl, h₀, h₁, rfl, rfl, hrefetch | ⟨reply, hreply⟩⟩ := hfits
      · cases hrefetch
        refine ⟨⟨t, ht⟩, _, .quiet rfl, w₀, w₁, later ++ [w], t₀, t₁, rfl, h₀, h₁, rfl, rfl,
          .inr ?_⟩
        simp only [ht]
        exact ⟨_, rfl⟩
      · cases hreply
  other := by
    intro w w' hother hw
    obtain ⟨t, ht⟩ := hw
    exact ⟨⟨t, hother.trans ht⟩, hother⟩

end Requests

def Succeeded (q : Server) (n : Nat) (r : Request) : Prop :=
  ∃ reply, q.threads n = .answered r (.ok reply)

def Reflected (id : Uuid) (q : Server) : Prop :=
  ∀ t, q.shared.find id = some t → ∀ n r, Succeeded q n r → Reflects r.patch t

def Unchanged (id : Uuid) (found : List World) : Prop :=
  ∀ w w' later t t', found = w :: w' :: later → w.find id = some t → w'.find id = some t' →
    ∀ k, t.at k = t'.at k

def fields (row : Option Tenant) : Option ((k : Field) → k.Value) := row.map Tenant.at

section Runs

variable {id : Uuid} {p q : Server} {events : List Happening} {m : Machine (Option Tenant)}
variable {n : Nat} {r : Request} {s g v : Option Tenant}

theorem fits_of_placed {ph : Phase (Option Tenant)} {reply : Reply}
    (h : Placed (Fits id) events n ph (.answered r (.ok reply))) : .start n r ∈ events ∧
      ∃ w w' later t t', ph = .wrote (some t) (some t') ∧ seen n events = w :: w' :: later ∧
        w.find id = some t ∧ w'.find id = some t' := by
  obtain ⟨hstart, hfits⟩ := h
  refine ⟨hstart, ?_⟩
  cases ph with
  | idle =>
    exact absurd hfits.2.symm (handle_ne_ok id r reply)
  | holding snapshot =>
    obtain ⟨w, later, _, _, ⟨_, t, _, _, _, _, _, hrest⟩ | ⟨e, he⟩⟩ := hfits
    · cases hrest
    · cases he
  | wrote snapshot replaced =>
    obtain ⟨w, w', later, t, t', hfound, ht, ht', rfl, rfl, _⟩ := hfits
    exact ⟨w, w', later, t, t', rfl, hfound, ht, ht'⟩

theorem succeeded_of_wrote
    (h : Simulates (World.find · id) (fun w => ∃ t, w.find id = some t) (Fits id) events q m)
    (hfinished : ∀ n r rest, q.threads n ≠ .running r rest) {snapshot replaced : Option Tenant}
    (hwrote : m.phase n = .wrote snapshot replaced) :
    ∃ r, .start n r ∈ events ∧ Succeeded q n r := by
  have hplaced := h.threads n
  rw [hwrote] at hplaced
  cases hthread : q.threads n with
  | unused =>
    rw [hthread] at hplaced
    cases hplaced.2
  | running r rest => exact absurd hthread (hfinished n r rest)
  | answered r answer =>
    rw [hthread] at hplaced
    obtain ⟨hstart, _, _, _, _, _, _, _, _, _, _, hrefetch | ⟨reply, hreply⟩⟩ := hplaced
    · cases hrefetch
    · cases hreply
      exact ⟨r, hstart, reply, hthread⟩

theorem writer_of_succeeded
    (h : Simulates (World.find · id) (fun w => ∃ t, w.find id = some t) (Fits id) events q m)
    (hsucceeded : Succeeded q n r) : .start n r ∈ events ∧ n ∈ m.writers := by
  obtain ⟨reply, hthread⟩ := hsucceeded
  have hplaced := h.threads n
  rw [hthread] at hplaced
  obtain ⟨hstart, _, _, _, t, t', hwrote, _⟩ := fits_of_placed hplaced
  exact ⟨hstart, some t, some t', hwrote⟩

theorem writes_unique (hrun : Run (Interleaving.Step (handle id) (Other id)) p events q)
    {r' : Request} (hr : .start n r ∈ events) (hr' : .start n r' ∈ events) : r = r' :=
  Option.some.inj ((request_of_start hrun hr).symm.trans (request_of_start hrun hr'))

def Agree (events : List Happening) : Prop :=
  ∀ n n' r r', n ≠ n' → .start n r ∈ events → .start n' r' ∈ events →
    Compatible r.patch r'.patch

def Shows (events : List Happening) (n : Nat) (row : Option ((k : Field) → k.Value)) : Prop :=
  ∀ r, .start n r ∈ events → ∀ t, row = some t → ∀ k v, r.patch.at k = some v → t k = v

theorem shows_of_writes (hrun : Run (Interleaving.Step (handle id) (Other id)) p events q)
    (h : WritesOf Applies events n s g v) : Shows events n (fields v) := by
  obtain ⟨r, hr, t, t', _, rfl, happlies⟩ := h
  intro r' hr' row hrow k v hv
  obtain rfl := writes_unique hrun hr hr'
  cases hrow
  rw [happlies]
  exact reflects_apply r.patch t k v hv

theorem shows_kept (hagree : Agree events)
    (hrun : Run (Interleaving.Step (handle id) (Other id)) p events q) {n' : Nat}
    (h : WritesOf Applies events n s g v) (hshows : Shows events n' (fields s)) :
    Shows events n' (fields v) := by
  by_cases hn : n = n'
  · subst hn
    exact shows_of_writes hrun h
  · obtain ⟨r, hr, t, t', rfl, rfl, happlies⟩ := h
    intro r' hr' row hrow k v hv
    cases hrow
    rw [happlies]
    refine (reflects_apply_iff (hagree n n' r r' hn hr hr')).mpr ?_ k v hv
    intro k v hv _
    exact hshows r' hr' t.at rfl k v hv

theorem shows_of_current (hagree : Agree events)
    (hrun : Run (Interleaving.Step (handle id) (Other id)) p events q)
    (hreaches : Reaches (WritesOf Applies events) (Machine.idle (p.shared.find id)) m)
    (hcurrent : m.Current fields) : ∀ n ∈ m.writers, Shows events n (fields m.value) :=
  reflects_of_current (fun _ _ _ _ h => shows_of_writes hrun h)
    (fun _ _ _ _ _ h => shows_kept hagree hrun h) hreaches hcurrent

theorem current_of_unchanged (h : Simulates (World.find · id) (fun w => ∃ t, w.find id = some t)
    (Fits id) events q m) (hfinished : ∀ n r rest, q.threads n ≠ .running r rest)
    (hunchanged : ∀ n r, Succeeded q n r → Unchanged id (seen n events)) : m.Current fields := by
  intro n snapshot replaced hwrote
  obtain ⟨r, _, reply, hthread⟩ := succeeded_of_wrote h hfinished hwrote
  have hplaced := h.threads n
  rw [hthread, hwrote] at hplaced
  obtain ⟨_, w, w', later, t, t', heq, hseen, ht, ht'⟩ := fits_of_placed hplaced
  cases heq
  exact congrArg some (funext (hunchanged n r ⟨reply, hthread⟩ w w' later t t' hseen ht ht'))

end Runs

theorem reflected_iff_of_last {id : Uuid} {q : Server} {n : Nat} {r : Request} {t t' : Tenant}
    (hlast : Succeeded q n r) (hfinal : q.shared.find id = some t')
    (hfields : ∀ k, t'.at k = (r.patch.apply t).at k)
    (hcompatible : ∀ n' r', n' ≠ n → Succeeded q n' r' → Compatible r.patch r'.patch) :
    Reflected id q ↔ ∀ n' r', n' ≠ n → Succeeded q n' r' →
      ∀ k v, r'.patch.at k = some v → r.patch.at k = none → t.at k = v := by
  have hother : ∀ n' r', n' ≠ n → Succeeded q n' r' → (Reflects r'.patch t' ↔
      ∀ k v, r'.patch.at k = some v → r.patch.at k = none → t.at k = v) := by
    intro n' r' hne hsucceeded
    exact (reflects_congr hfields).trans (reflects_apply_iff (hcompatible n' r' hne hsucceeded))
  constructor
  · intro hreflected n' r' hne hsucceeded
    exact (hother n' r' hne hsucceeded).mp (hreflected t' hfinal n' r' hsucceeded)
  · intro hothers t₂ ht₂ n' r' hsucceeded
    obtain rfl := Option.some.inj (hfinal.symm.trans ht₂)
    by_cases hn : n' = n
    · subst hn
      obtain ⟨reply, hthread⟩ := hlast
      obtain ⟨reply', hthread'⟩ := hsucceeded
      cases hthread.symm.trans hthread'
      exact (reflects_congr hfields).mpr (reflects_apply r.patch t)
    · exact (hother n' r' hn hsucceeded).mpr (hothers n' r' hn hsucceeded)

/-- When all requests are answered, the tenant has what they have set if each found it unchanged
when it wrote. Whether it has depends on what one of them had read of the fields that the others set
and it does not. -/
theorem updates_reflected_iff (id : Uuid) {p q : Server} {events : List Happening}
    (hunused : ∀ n, p.threads n = .unused) (hrow : ∃ t, p.shared.find id = some t)
    (hagree : Agree events) (hrun : Run (Interleaving.Step (handle id) (Other id)) p events q)
    (hfinished : ∀ n r rest, q.threads n ≠ .running r rest) :
    ((∀ n r, Succeeded q n r → Unchanged id (seen n events)) → Reflected id q) ∧
      ((∃ n r, Succeeded q n r) → ∃ n r w t, Succeeded q n r ∧ (seen n events).head? = some w ∧
        w.find id = some t ∧
        (Reflected id q ↔ ∀ n' r', n' ≠ n → Succeeded q n' r' →
          ∀ k v, r'.patch.at k = some v → r.patch.at k = none → t.at k = v)) := by
  obtain ⟨m, hreaches, hm⟩ := simulates_run (protocol id) hunused hrow (fun _ _ _ => trivial) hrun
  constructor
  · intro hunchanged t ht n r hsucceeded
    obtain ⟨hstart, hn⟩ := writer_of_succeeded hm hsucceeded
    have hshows := shows_of_current hagree hrun hreaches
      (current_of_unchanged hm hfinished hunchanged) n hn
    refine hshows r hstart t.at ?_
    rw [hm.value_eq, ht]
    rfl
  · intro hsome
    rcases last_writer hreaches with ⟨_, hnone⟩ | ⟨n, snapshot, replaced, hwrote, r, hr, happlies⟩
    · obtain ⟨n, r, hsucceeded⟩ := hsome
      have hn := (writer_of_succeeded hm hsucceeded).2
      rw [hnone] at hn
      cases hn
    · obtain ⟨t, t', rfl, hvalue, hfields⟩ := happlies
      obtain ⟨r', hr', hsucceeded⟩ := succeeded_of_wrote hm hfinished hwrote
      obtain rfl := writes_unique hrun hr hr'
      obtain ⟨reply, hthread⟩ := hsucceeded
      have hplaced := hm.threads n
      rw [hthread, hwrote] at hplaced
      obtain ⟨_, w, w', later, t₀, t₁, heq, hseen, ht, _⟩ := fits_of_placed hplaced
      cases heq
      refine ⟨n, r, w, t, ⟨reply, hthread⟩, by rw [hseen]; rfl, ht, ?_⟩
      refine reflected_iff_of_last ⟨reply, hthread⟩ (hm.value_eq.symm.trans hvalue) hfields ?_
      intro n' r' hne hsucceeded
      exact hagree n n' r r' hne.symm hr (writer_of_succeeded hm hsucceeded).1

def acme : Tenant := ⟨"t", "Acme", "acme", "free", 50, 100, 5, true, 0, 0⟩

def rename : Request := .update (.ok { name := some "Acme Inc" }) false

def acmeServer : Server := ⟨⟨[acme], 0⟩, fun _ => .unused⟩

def overlapping : List (Move World Request) :=
  [.start 0 rename, .act 0 1, .start 1 (.deactivate false), .finish 1, .finish 0]

def oneByOne : List (Move World Request) :=
  [.start 0 rename, .finish 0, .start 1 (.deactivate false), .finish 1]

theorem agree_of_moves {moves : List (Move World Request)}
    (h : ∀ n r, .start n r ∈ moves → n = 0 ∧ r = rename ∨ n = 1 ∧ r = .deactivate false) :
    Agree (acmeServer.play (handle "t") moves).2 := by
  have hdiffer : Compatible rename.patch (Request.deactivate false).patch := by
    intro k v v' hv hv'
    cases k with
    | name => cases hv'
    | _ => cases hv
  intro n n' r r' hne hr hr'
  rcases h n r (Pool.start_mem_of_play hr) with ⟨rfl, rfl⟩ | ⟨rfl, rfl⟩
  · rcases h n' r' (Pool.start_mem_of_play hr') with ⟨rfl, rfl⟩ | ⟨rfl, rfl⟩
    · exact absurd rfl hne
    · exact hdiffer
  · rcases h n' r' (Pool.start_mem_of_play hr') with ⟨rfl, rfl⟩ | ⟨rfl, rfl⟩
    · exact fun k v v' hv hv' => (hdiffer k v' v hv' hv).symm
    · exact absurd rfl hne

/-- Both requests succeed, no update sets `is_active`, and the tenant ends active. -/
theorem deactivation_lost : ∃ events q,
    Run (Interleaving.Step (handle "t") (Other "t")) acmeServer events q ∧ Agree events ∧
      q.threads 0 = .answered rename (.ok (.updated { acme with name := "Acme Inc" })) ∧
      q.threads 1 = .answered (.deactivate false) (.ok .noContent) ∧
      q.shared.find "t" = some { acme with name := "Acme Inc" } ∧ ¬ Reflected "t" q := by
  refine ⟨_, _, Pool.run_play_step overlapping acmeServer
    ⟨trivial, trivial, trivial, trivial, trivial, trivial⟩, ?_, rfl, rfl, rfl, ?_⟩
  · refine agree_of_moves fun n r hr => ?_
    simp [overlapping] at hr
    exact hr
  · intro hreflected
    have hactive := hreflected { acme with name := "Acme Inc" } rfl 1 (.deactivate false)
      ⟨.noContent, rfl⟩ .isActive false rfl
    cases hactive

theorem deactivation_kept : ∃ events q,
    Run (Interleaving.Step (handle "t") (Other "t")) acmeServer events q ∧ Agree events ∧
      q.shared.find "t" = some { acme with name := "Acme Inc", isActive := false } ∧
      ((∀ n r, Succeeded q n r → Unchanged "t" (seen n events)) → Reflected "t" q) ∧
      ((∃ n r, Succeeded q n r) → ∃ n r w t, Succeeded q n r ∧ (seen n events).head? = some w ∧
        w.find "t" = some t ∧
        (Reflected "t" q ↔ ∀ n' r', n' ≠ n → Succeeded q n' r' →
          ∀ k v, r'.patch.at k = some v → r.patch.at k = none → t.at k = v)) := by
  have hrun : Run (Interleaving.Step (handle "t") (Other "t")) acmeServer
      (acmeServer.play (handle "t") oneByOne).2 _ :=
    Pool.run_play_step oneByOne acmeServer ⟨trivial, trivial, trivial, trivial, trivial⟩
  have hagree : Agree (acmeServer.play (handle "t") oneByOne).2 := by
    refine agree_of_moves fun n r hr => ?_
    simp [oneByOne] at hr
    exact hr
  refine ⟨_, _, hrun, hagree, rfl,
    updates_reflected_iff "t" (fun _ => rfl) ⟨acme, rfl⟩ hagree hrun ?_⟩
  intro n r rest hrunning
  by_cases hlast : n = 1
  · subst hlast
    cases hrunning
  · by_cases hfirst : n = 0
    · subst hfirst
      cases hrunning
    · simp [oneByOne, Pool.play, Pool.move, acmeServer, update_of_ne hlast,
        update_of_ne hfirst] at hrunning

end Outpost.Tenants
