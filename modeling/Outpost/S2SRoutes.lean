import Mathlib.Algebra.Order.Group.Int
import Mathlib.Data.List.Sort
import Outpost.Shared.GoMap
import Outpost.Shared.KeyedRows
import Outpost.Shared.Runs
import Outpost.Shared.Slices

/-!
# The route table of the site-to-site network

`RouteTable` keeps for each destination the gateways that advertise it, sorted by metric. What it
holds is said by the calls alone.
-/

namespace Outpost.S2SRoutes

open Runs Slices

structure RouteEntry where
  (destination viaGateway viaPublicKey viaEndpoint : String)
  metric : Int
  isActive : Bool
deriving DecidableEq

abbrev RouteTable := GoMap String (List RouteEntry)

abbrev TableOrder := RangeOrder (String × List RouteEntry)

abbrev SliceSort := Sorting RouteEntry.metric

/-- `routes[i] = entry` at the first entry of the gateway; `append` when there is none. -/
def setRoute (entry : RouteEntry) : List RouteEntry → List RouteEntry
  | [] => [entry]
  | r :: routes =>
    if r.viaGateway = entry.viaGateway then entry :: routes else r :: setRoute entry routes

def setSubnet (sort : SliceSort) (rt : RouteTable) (entry : RouteEntry) : RouteTable :=
  rt.insert entry.destination (sort.sort (setRoute entry ((rt.lookup entry.destination).getD [])))

def advertise (sort : SliceSort) (gatewayID publicKey endpoint : String) (subnets : List String)
    (metric : Int) (rt : RouteTable) : RouteTable :=
  subnets.foldl
    (fun rt subnet => setSubnet sort rt ⟨subnet, gatewayID, publicKey, endpoint, metric, true⟩) rt

def withoutGateway (gatewayID : String) (routes : List RouteEntry) : Option (List RouteEntry) :=
  let filtered := keepInPlace (fun r => r.viaGateway ≠ gatewayID) routes
  if filtered = [] then none else some filtered

def withdraw (order : TableOrder) (gatewayID : String) (rt : RouteTable) : RouteTable :=
  GoMap.updateEach (fun _ => withoutGateway gatewayID) (order.visit (GoMap.pairs rt)) rt

def bestRoute (rt : RouteTable) (destination : String) : Option RouteEntry :=
  (rt.lookup destination).bind fun routes => routes.find? RouteEntry.isActive

def routeAround (gatewayID : String) (routes : List RouteEntry) : Option RouteEntry :=
  routes.find? fun r => r.viaGateway ≠ gatewayID ∧ r.isActive = true

def routesForGateway (order : TableOrder) (rt : RouteTable) (gatewayID : String) :
    List RouteEntry :=
  (order.visit (GoMap.pairs rt)).filterMap fun e => routeAround gatewayID e.2

inductive Call where
  | advertise (gatewayID publicKey endpoint : String) (subnets : List String) (metric : Int)
  | withdraw (gatewayID : String)

def Call.gatewayID : Call → String
  | .advertise gatewayID _ _ _ _ => gatewayID
  | .withdraw gatewayID => gatewayID

inductive Step (rt : RouteTable) : Call → RouteTable → Prop where
  | advertise (sort : SliceSort) (gatewayID publicKey endpoint : String) (subnets : List String)
      (metric : Int) : Step rt (.advertise gatewayID publicKey endpoint subnets metric)
        (advertise sort gatewayID publicKey endpoint subnets metric rt)
  | withdraw (order : TableOrder) (gatewayID : String) :
      Step rt (.withdraw gatewayID) (withdraw order gatewayID rt)

structure Ad where
  (publicKey endpoint : String)
  metric : Int
deriving DecidableEq

def Ad.entry (ad : Ad) (destination gatewayID : String) : RouteEntry :=
  ⟨destination, gatewayID, ad.publicKey, ad.endpoint, ad.metric, true⟩

abbrev Ads := String → String → Option Ad

def Ads.put (ads : Ads) (gatewayID : String) (subnets : List String) (ad : Ad) : Ads :=
  fun g d => if g = gatewayID ∧ d ∈ subnets then some ad else ads g d

def Ads.drop (ads : Ads) (gatewayID : String) : Ads :=
  fun g d => if g = gatewayID then none else ads g d

def Ads.after (ads : Ads) : Call → Ads
  | .advertise gatewayID publicKey endpoint subnets metric =>
    ads.put gatewayID subnets ⟨publicKey, endpoint, metric⟩
  | .withdraw gatewayID => ads.drop gatewayID

def advertised (calls : List Call) : Ads := calls.foldl Ads.after fun _ _ => none

theorem advertised_append (calls : List Call) (call : Call) :
    advertised (calls ++ [call]) = (advertised calls).after call :=
  List.foldl_concat _ _ _ _

structure Lists (ads : Ads) (destination : String) (routes : List RouteEntry) : Prop where
  nodup : (routes.map RouteEntry.viaGateway).Nodup
  sorted : routes.Pairwise fun r s => r.metric ≤ s.metric
  mem_iff : ∀ r, r ∈ routes ↔
    ∃ ad, ads r.viaGateway destination = some ad ∧ r = ad.entry destination r.viaGateway

structure Represents (rt : RouteTable) (ads : Ads) : Prop where
  lists : ∀ d, Lists ads d ((rt.lookup d).getD [])
  nonempty : ∀ d, rt.lookup d ≠ some []

section Entries

variable {ads : Ads} {destination gatewayID : String} {routes : List RouteEntry} {ad : Ad}

theorem Lists.congr {ads' : Ads} (h : Lists ads destination routes)
    (hads : ∀ g, ads' g destination = ads g destination) : Lists ads' destination routes where
  nodup := h.nodup
  sorted := h.sorted
  mem_iff := fun r => by rw [h.mem_iff, hads]

theorem Lists.entry_mem (h : Lists ads destination routes)
    (had : ads gatewayID destination = some ad) : ad.entry destination gatewayID ∈ routes :=
  (h.mem_iff _).mpr ⟨ad, had, rfl⟩

theorem setRoute_eq_upsert {entry : RouteEntry} (nodup : (routes.map RouteEntry.viaGateway).Nodup) :
    setRoute entry routes =
      KeyedRows.upsert RouteEntry.viaGateway entry (fun _ => entry) routes := by
  induction routes with
  | nil => rfl
  | cons r routes ih =>
    obtain ⟨hnew, hrest⟩ := List.nodup_cons.mp nodup
    rw [setRoute]
    by_cases hr : r.viaGateway = entry.viaGateway
    · have hothers : ∀ s ∈ routes, s.viaGateway ≠ entry.viaGateway := by
        intro s hs heq
        exact hnew (List.mem_map.mpr ⟨s, hs, heq.trans hr.symm⟩)
      have hsame : routes.map (fun s => if s.viaGateway = entry.viaGateway then entry else s) =
          routes := by
        refine (List.map_congr_left ?_).trans (List.map_id _)
        intro s hs
        exact if_neg (hothers s hs)
      rw [if_pos hr, KeyedRows.upsert, if_pos ⟨r, .head _, hr⟩, List.map_cons,
        if_pos hr, hsame]
    · rw [ih hrest]
      simp only [KeyedRows.upsert, List.mem_cons, exists_eq_or_imp, hr, false_or, List.map_cons,
        if_false]
      split <;> rfl

theorem mem_setRoute {entry r : RouteEntry} (nodup : (routes.map RouteEntry.viaGateway).Nodup) :
    r ∈ setRoute entry routes ↔ r ∈ routes ∧ r.viaGateway ≠ entry.viaGateway ∨ r = entry := by
  rw [setRoute_eq_upsert nodup, KeyedRows.mem_upsert]
  apply or_congr_right
  constructor
  · intro h
    rcases h with ⟨_, _, _, heq⟩ | ⟨_, heq⟩
    · exact heq
    · exact heq
  · intro heq
    by_cases hold : ∃ old ∈ routes, old.viaGateway = entry.viaGateway
    · obtain ⟨old, hin, hvia⟩ := hold
      exact .inl ⟨old, hin, hvia, heq⟩
    · exact .inr ⟨fun old hin hvia => hold ⟨old, hin, hvia⟩, heq⟩

theorem lists_setRoute (sort : SliceSort) (h : Lists ads destination routes) :
    Lists (ads.put gatewayID [destination] ad) destination
      (sort.sort (setRoute (ad.entry destination gatewayID) routes)) := by
  have hperm := sort.perm (setRoute (ad.entry destination gatewayID) routes)
  refine ⟨?_, sort.sorted _, ?_⟩
  · apply (hperm.map _).nodup_iff.mpr
    rw [setRoute_eq_upsert h.nodup]
    exact KeyedRows.nodup_upsert_row h.nodup fun r hr => hr.symm
  · intro r
    rw [hperm.mem_iff, mem_setRoute h.nodup, h.mem_iff]
    by_cases hvia : r.viaGateway = gatewayID
    · subst hvia
      simp [Ads.put, Ad.entry]
    · have hne : r ≠ ad.entry destination gatewayID := by
        intro heq
        exact hvia (congrArg RouteEntry.viaGateway heq)
      have hads : (ads.put gatewayID [destination] ad) r.viaGateway destination =
          ads r.viaGateway destination := if_neg fun heq => hvia heq.1
      rw [hads, or_iff_left hne]
      exact and_iff_left hvia

theorem lists_filter (h : Lists ads destination routes) :
    Lists (ads.drop gatewayID) destination (routes.filter fun r => r.viaGateway ≠ gatewayID) := by
  refine ⟨h.nodup.sublist (List.filter_sublist.map _), h.sorted.filter _, ?_⟩
  intro r
  rw [List.mem_filter, h.mem_iff]
  by_cases hvia : r.viaGateway = gatewayID
  · simp [Ads.drop, hvia]
  · simp [Ads.drop, hvia]

end Entries

section Tables

variable {rt rt' : RouteTable} {ads : Ads}

theorem represents_empty : Represents ∅ fun _ _ => none where
  lists := fun d => ⟨List.nodup_nil, List.Pairwise.nil, by simp⟩
  nonempty := fun d => by simp

theorem represents_setSubnet (sort : SliceSort) (h : Represents rt ads) (gatewayID subnet : String)
    (ad : Ad) : Represents (setSubnet sort rt (ad.entry subnet gatewayID))
      (ads.put gatewayID [subnet] ad) := by
  have hself : (setSubnet sort rt (ad.entry subnet gatewayID)).lookup subnet =
      some (sort.sort (setRoute (ad.entry subnet gatewayID) ((rt.lookup subnet).getD []))) :=
    AList.lookup_insert rt
  have hother : ∀ d, d ≠ subnet →
      (setSubnet sort rt (ad.entry subnet gatewayID)).lookup d = rt.lookup d :=
    fun d hd => AList.lookup_insert_ne hd
  constructor
  · intro d
    by_cases hd : d = subnet
    · subst hd
      rw [hself]
      exact lists_setRoute sort (h.lists d)
    · rw [hother d hd]
      apply (h.lists d).congr
      simp [Ads.put, hd]
  · intro d
    by_cases hd : d = subnet
    · subst hd
      rw [hself]
      intro hnil
      have hlists : Lists (ads.put gatewayID [d] ad) d
          (sort.sort (setRoute (ad.entry d gatewayID) ((rt.lookup d).getD []))) :=
        lists_setRoute sort (h.lists d)
      have hput : (ads.put gatewayID [d] ad) gatewayID d = some ad := by simp [Ads.put]
      have hmem := hlists.entry_mem hput
      rw [Option.some.inj hnil] at hmem
      cases hmem
    · rw [hother d hd]
      exact h.nonempty d

theorem represents_advertise (sort : SliceSort) (h : Represents rt ads)
    (gatewayID publicKey endpoint : String) (subnets : List String) (metric : Int) :
    Represents (advertise sort gatewayID publicKey endpoint subnets metric rt)
      (ads.put gatewayID subnets ⟨publicKey, endpoint, metric⟩) := by
  induction subnets generalizing rt ads with
  | nil =>
    have hads : ads.put gatewayID [] ⟨publicKey, endpoint, metric⟩ = ads := by
      funext g d
      simp [Ads.put]
    rw [hads]
    exact h
  | cons subnet subnets ih =>
    have hads : (ads.put gatewayID [subnet] ⟨publicKey, endpoint, metric⟩).put gatewayID subnets
        ⟨publicKey, endpoint, metric⟩ =
          ads.put gatewayID (subnet :: subnets) ⟨publicKey, endpoint, metric⟩ := by
      funext g d
      by_cases hg : g = gatewayID
      · simp only [Ads.put, hg]
        by_cases hin : d ∈ subnets
        · simp [hin]
        · simp [hin]
      · simp [Ads.put, hg]
    rw [← hads]
    exact ih (represents_setSubnet sort h gatewayID subnet ⟨publicKey, endpoint, metric⟩)

theorem lookup_withdraw (order : TableOrder) (gatewayID : String) (rt : RouteTable) (d : String) :
    (withdraw order gatewayID rt).lookup d =
      (rt.lookup d).bind (withoutGateway gatewayID) :=
  GoMap.lookup_updateEach_visit _ order rt d

theorem represents_withdraw (order : TableOrder) (gatewayID : String) (h : Represents rt ads) :
    Represents (withdraw order gatewayID rt) (ads.drop gatewayID) := by
  have hrest : ∀ d, ((withdraw order gatewayID rt).lookup d).getD [] =
      ((rt.lookup d).getD []).filter fun r => r.viaGateway ≠ gatewayID := by
    intro d
    rw [lookup_withdraw]
    cases rt.lookup d with
    | none => rfl
    | some routes =>
      rw [Option.bind_some, withoutGateway, keepInPlace_eq, Option.getD_some]
      split
      · rename_i hnil
        rw [hnil]
        rfl
      · rfl
  constructor
  · intro d
    rw [hrest]
    exact lists_filter (h.lists d)
  · intro d hd
    rw [lookup_withdraw] at hd
    obtain ⟨routes, _, hroutes⟩ := Option.bind_eq_some_iff.mp hd
    unfold withoutGateway at hroutes
    dsimp only at hroutes
    split at hroutes
    · cases hroutes
    · rename_i hne
      exact hne (Option.some.inj hroutes)

theorem represents_step {call : Call} (hstep : Step rt call rt') (h : Represents rt ads) :
    Represents rt' (ads.after call) := by
  cases hstep with
  | advertise sort gatewayID publicKey endpoint subnets metric =>
    exact represents_advertise sort h gatewayID publicKey endpoint subnets metric
  | withdraw order gatewayID => exact represents_withdraw order gatewayID h

theorem represents_run {calls : List Call} (hrun : Run Step ∅ calls rt) :
    Represents rt (advertised calls) := by
  refine hrun.history (I := fun past s => Represents s (advertised past)) ?_ represents_empty
  intro past s call t hstep h
  rw [advertised_append]
  exact represents_step hstep h

end Tables

section Reads

variable {rt : RouteTable} {ads : Ads} {destination gatewayID : String} {routes : List RouteEntry}
variable {p : RouteEntry → Bool} {r : RouteEntry}

theorem Lists.find?_isSome_iff (h : Lists ads destination routes) :
    (∃ r, routes.find? p = some r) ↔
      ∃ g ad, ads g destination = some ad ∧ p (ad.entry destination g) = true := by
  rw [← Option.isSome_iff_exists, List.find?_isSome]
  constructor
  · intro hexists
    obtain ⟨r, hr, hp⟩ := hexists
    obtain ⟨ad, had, heq⟩ := (h.mem_iff r).mp hr
    exact ⟨r.viaGateway, ad, had, heq ▸ hp⟩
  · intro hexists
    obtain ⟨g, ad, had, hp⟩ := hexists
    exact ⟨_, h.entry_mem had, hp⟩

structure Best (ads : Ads) (P : String → Prop) (destination : String) (r : RouteEntry) : Prop where
  destination_eq : r.destination = destination
  via : P r.viaGateway
  advertised : ads r.viaGateway destination = some ⟨r.viaPublicKey, r.viaEndpoint, r.metric⟩
  minimal : ∀ g ad, P g → ads g destination = some ad → r.metric ≤ ad.metric

theorem Lists.best_of_find? {P : String → Prop} (h : Lists ads destination routes)
    (hp : ∀ g (ad : Ad), p (ad.entry destination g) = true ↔ P g)
    (hfind : routes.find? p = some r) : Best ads P destination r := by
  obtain ⟨ad, had, heq⟩ := (h.mem_iff r).mp (List.mem_of_find?_eq_some hfind)
  have hvia : P r.viaGateway := by
    have hr := List.find?_some hfind
    rw [heq] at hr
    exact (hp _ _).mp hr
  refine ⟨?_, hvia, ?_, ?_⟩
  · rw [heq]
    rfl
  · rw [had, heq]
    rfl
  · intro g ad' hg had'
    exact key_le_of_find? h.sorted hfind (h.entry_mem had') ((hp g ad').mpr hg)

theorem bestRoute_eq (rt : RouteTable) (destination : String) :
    bestRoute rt destination = ((rt.lookup destination).getD []).find? RouteEntry.isActive := by
  unfold bestRoute
  cases rt.lookup destination <;> rfl

theorem entry_isActive (ad : Ad) (destination g : String) :
    (ad.entry destination g).isActive = true ↔ True := iff_of_true rfl trivial

theorem entry_around (ad : Ad) (destination g : String) :
    decide ((ad.entry destination g).viaGateway ≠ gatewayID ∧
      (ad.entry destination g).isActive = true) = true ↔ g ≠ gatewayID := by
  simp [Ad.entry]

theorem filter_routesForGateway (order : TableOrder) (h : Represents rt ads)
    (gatewayID destination : String) :
    ((routesForGateway order rt gatewayID).filter fun r => r.destination = destination) =
      (routeAround gatewayID ((rt.lookup destination).getD [])).toList := by
  have hentry : ∀ e ∈ order.visit (GoMap.pairs rt),
      ((routeAround gatewayID e.2).filter fun r => r.destination = destination) =
        if e.1 = destination then routeAround gatewayID e.2 else none := by
    intro e he
    obtain ⟨d, routes⟩ := e
    rw [RangeOrder.mem_visit, GoMap.mem_pairs] at he
    have hlists := h.lists d
    rw [he] at hlists
    cases hfind : routeAround gatewayID routes with
    | none => simp
    | some r =>
      have hd : r.destination = d :=
        (hlists.best_of_find? (P := fun g => g ≠ gatewayID) (fun g ad => entry_around ad d g)
          hfind).destination_eq
      by_cases hsame : d = destination
      · simp [hd, hsame]
      · simp [hd, hsame]
  unfold routesForGateway
  rw [List.filter_filterMap, List.filterMap_congr hentry]
  have hkey := GoMap.visit_filter_key order rt destination
  calc
    ((order.visit (GoMap.pairs rt)).filterMap fun e =>
        if e.1 = destination then routeAround gatewayID e.2 else none) =
        ((order.visit (GoMap.pairs rt)).filter fun e => e.1 = destination).filterMap
          fun e => routeAround gatewayID e.2 := by
      rw [List.filterMap_filter]
      simp
    _ = (routeAround gatewayID ((rt.lookup destination).getD [])).toList := by
      rw [hkey]
      cases rt.lookup destination with
      | none => rfl
      | some routes =>
        cases hfind : routeAround gatewayID routes <;> simp [hfind]

end Reads

/-- The table, what is read from it, and what the calls say. -/
theorem route_table_correct {calls : List Call} {rt : RouteTable} (hrun : Run Step ∅ calls rt) :
    (∀ d routes, rt.lookup d = some routes → routes ≠ [] ∧
      (routes.map RouteEntry.viaGateway).Nodup ∧
      (routes.Pairwise fun r s => r.metric ≤ s.metric) ∧
      ∀ r ∈ routes, r.destination = d ∧
        advertised calls r.viaGateway d = some ⟨r.viaPublicKey, r.viaEndpoint, r.metric⟩) ∧
    (∀ d, ((∃ r, bestRoute rt d = some r) ↔ ∃ g ad, advertised calls g d = some ad) ∧
      ∀ r, bestRoute rt d = some r → Best (advertised calls) (fun _ => True) d r) ∧
    ∀ order g d,
      ((∃ h ad, h ≠ g ∧ advertised calls h d = some ad) →
        ∃ r, ((routesForGateway order rt g).filter fun r => r.destination = d) = [r] ∧
          Best (advertised calls) (fun h => h ≠ g) d r) ∧
      ((∀ h ad, h ≠ g → advertised calls h d ≠ some ad) →
        ((routesForGateway order rt g).filter fun r => r.destination = d) = []) := by
  have hrep := represents_run hrun
  refine ⟨?_, ?_, ?_⟩
  · intro d routes hd
    have hlists := hrep.lists d
    rw [hd] at hlists
    refine ⟨fun hnil => hrep.nonempty d (hnil ▸ hd), hlists.nodup, hlists.sorted, ?_⟩
    intro r hr
    obtain ⟨ad, had, heq⟩ := (hlists.mem_iff r).mp hr
    rw [had, heq]
    exact ⟨rfl, rfl⟩
  · intro d
    rw [bestRoute_eq]
    refine ⟨?_, ?_⟩
    · rw [(hrep.lists d).find?_isSome_iff]
      simp [entry_isActive]
    · intro r hr
      exact (hrep.lists d).best_of_find? (fun g ad => entry_isActive ad d g) hr
  · intro order g d
    have hlists := hrep.lists d
    rw [filter_routesForGateway order hrep]
    have hiff : (∃ r, routeAround g ((rt.lookup d).getD []) = some r) ↔
        ∃ h ad, advertised calls h d = some ad ∧ h ≠ g := by
      unfold routeAround
      rw [hlists.find?_isSome_iff]
      simp only [entry_around]
    refine ⟨?_, ?_⟩
    · intro hsome
      obtain ⟨h, ad, hne, had⟩ := hsome
      obtain ⟨r, hr⟩ := hiff.mpr ⟨h, ad, had, hne⟩
      rw [hr]
      exact ⟨r, rfl, hlists.best_of_find? (fun g ad => entry_around ad d g) hr⟩
    · intro hnone
      cases hr : routeAround g ((rt.lookup d).getD []) with
      | none => rfl
      | some r =>
        obtain ⟨h, ad, had, hne⟩ := hiff.mp ⟨r, hr⟩
        exact absurd had (hnone h ad hne)

def stableSort : SliceSort where
  sort := List.insertionSort fun r s => r.metric ≤ s.metric
  perm := List.perm_insertionSort _
  sorted := List.pairwise_insertionSort _

def play : RouteTable → List Call → RouteTable
  | rt, [] => rt
  | rt, .advertise gatewayID publicKey endpoint subnets metric :: calls =>
    play (advertise stableSort gatewayID publicKey endpoint subnets metric rt) calls
  | rt, .withdraw gatewayID :: calls => play (withdraw .asListed gatewayID rt) calls

theorem run_play (rt : RouteTable) (calls : List Call) : Run Step rt calls (play rt calls) := by
  induction calls generalizing rt with
  | nil => exact .nil rt
  | cons call calls ih =>
    cases call with
    | advertise gatewayID publicKey endpoint subnets metric => exact .cons (.advertise ..) (ih _)
    | withdraw gatewayID => exact .cons (.withdraw ..) (ih _)

def twoGateways : List Call :=
  [.advertise "a" "keyA" "1.1.1.1:51820" ["10.0.0.0/8", "10.0.0.0/8"] 100,
    .advertise "b" "keyB" "2.2.2.2:51820" ["10.0.0.0/8"] 200, .withdraw "a"]

theorem worse_gateway_is_left :
    ((∃ r, bestRoute (play ∅ twoGateways) "10.0.0.0/8" = some r) ↔
      ∃ g ad, advertised twoGateways g "10.0.0.0/8" = some ad) ∧
    advertised twoGateways "b" "10.0.0.0/8" = some ⟨"keyB", "2.2.2.2:51820", 200⟩ ∧
    bestRoute (play ∅ twoGateways) "10.0.0.0/8" =
      some ⟨"10.0.0.0/8", "b", "keyB", "2.2.2.2:51820", 200, true⟩ :=
  ⟨((route_table_correct (run_play ∅ twoGateways)).2.1 "10.0.0.0/8").1, by decide, by decide⟩

end Outpost.S2SRoutes
