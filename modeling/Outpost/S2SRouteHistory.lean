import Mathlib.Data.List.Induction
import Mathlib.Data.Option.Basic
import Outpost.S2SRoutes

/-!
# Histories of the route table

What a table holds depends only on what is advertised, and what a gateway advertises only on its
own calls.
-/

namespace Outpost.S2SRoutes

open Runs Slices

def SameTable (rt rt' : RouteTable) : Prop :=
  ∀ d, Option.Rel (SameUpToTies RouteEntry.metric) (rt.lookup d) (rt'.lookup d)

section Same

variable {rt rt' : RouteTable} {ads : Ads} {routes routes' : List RouteEntry} {destination : String}

theorem Lists.perm (h : Lists ads destination routes) (h' : Lists ads destination routes') :
    routes.Perm routes' := by
  apply (List.perm_ext_iff_of_nodup h.nodup.of_map h'.nodup.of_map).mpr
  intro r
  rw [h.mem_iff, h'.mem_iff]

theorem sameTable_of_represents (h : Represents rt ads) (h' : Represents rt' ads) :
    SameTable rt rt' := by
  intro d
  have hlists := h.lists d
  have hlists' := h'.lists d
  have hperm := hlists.perm hlists'
  cases hd : rt.lookup d with
  | none =>
    cases hd' : rt'.lookup d with
    | none => exact .none
    | some routes' =>
      rw [hd, hd', Option.getD_some] at hperm
      exact absurd (hd'.trans (congrArg some hperm.nil_eq.symm)) (h'.nonempty d)
  | some routes =>
    cases hd' : rt'.lookup d with
    | none =>
      rw [hd, hd', Option.getD_some] at hperm
      exact absurd (hd.trans (congrArg some hperm.eq_nil)) (h.nonempty d)
    | some routes' =>
      rw [hd, hd'] at hperm
      rw [hd] at hlists
      rw [hd'] at hlists'
      exact .some (sameUpToTies_of_perm hperm hlists.sorted hlists'.sorted)

end Same

section Histories

variable {ads : Ads} {call call' : Call} {gatewayID : String}

theorem after_of_ne {g : String} (h : call.gatewayID ≠ g) (d : String) :
    ads.after call g d = ads g d := by
  cases call with
  | advertise gatewayID publicKey endpoint subnets metric =>
    exact if_neg fun heq => h heq.1.symm
  | withdraw gatewayID => exact if_neg fun heq => h heq.symm

theorem after_congr {ads' : Ads} {g d : String} (h : ads g d = ads' g d) :
    ads.after call g d = ads'.after call g d := by
  cases call with
  | advertise gatewayID publicKey endpoint subnets metric =>
    simp only [Ads.after, Ads.put, h]
  | withdraw gatewayID => simp only [Ads.after, Ads.drop, h]

theorem after_comm (h : call.gatewayID ≠ call'.gatewayID) :
    (ads.after call).after call' = (ads.after call').after call := by
  funext g d
  by_cases hg : call.gatewayID = g
  · have hother : call'.gatewayID ≠ g := hg ▸ h.symm
    rw [after_of_ne hother]
    exact after_congr (after_of_ne hother d).symm
  · rw [after_of_ne hg]
    exact after_congr (after_of_ne hg d)

theorem drop_after_self (h : call.gatewayID = gatewayID) :
    (ads.after call).drop gatewayID = ads.drop gatewayID := by
  funext g d
  by_cases hg : g = gatewayID
  · simp only [Ads.drop, if_pos hg]
  · simp only [Ads.drop, if_neg hg]
    exact after_of_ne (fun heq => hg (heq.symm.trans h)) d

theorem advertised_filter (gatewayID : String) (calls : List Call) :
    advertised (calls.filter fun call => call.gatewayID ≠ gatewayID) =
      (advertised calls).drop gatewayID := by
  induction calls using List.reverseRecOn with
  | nil =>
    funext g d
    exact (ite_self none).symm
  | append_singleton calls call ih =>
    rw [List.filter_append, advertised_append]
    by_cases hcall : call.gatewayID = gatewayID
    · rw [List.filter_cons_of_neg (by simp [hcall]), List.filter_nil, List.append_nil, ih,
        drop_after_self hcall]
    · rw [List.filter_cons_of_pos (by simp [hcall]), List.filter_nil, advertised_append, ih]
      have hne : (Call.withdraw gatewayID).gatewayID ≠ call.gatewayID := Ne.symm hcall
      exact after_comm hne

theorem advertised_swap (before after : List Call) (h : call.gatewayID ≠ call'.gatewayID) :
    advertised (before ++ call :: call' :: after) =
      advertised (before ++ call' :: call :: after) := by
  simp only [advertised, List.foldl_append, List.foldl_cons]
  rw [after_comm h]

end Histories

/-- A gateway that withdraws leaves no trace, and the calls of different gateways commute. -/
theorem withdraw_undoes_calls_commute :
    (∀ (calls : List Call) (gatewayID : String) (rt rt' : RouteTable),
      Run Step ∅ (calls ++ [.withdraw gatewayID]) rt →
      Run Step ∅ (calls.filter fun call => call.gatewayID ≠ gatewayID) rt' → SameTable rt rt') ∧
    ∀ (before after : List Call) (call call' : Call) (rt rt' : RouteTable),
      call.gatewayID ≠ call'.gatewayID →
      Run Step ∅ (before ++ call :: call' :: after) rt →
      Run Step ∅ (before ++ call' :: call :: after) rt' → SameTable rt rt' := by
  constructor
  · intro calls gatewayID rt rt' hrun hrun'
    have hrep := represents_run hrun
    have hrep' := represents_run hrun'
    rw [advertised_append] at hrep
    rw [advertised_filter] at hrep'
    exact sameTable_of_represents hrep hrep'
  · intro before after call call' rt rt' hne hrun hrun'
    have hrep := represents_run hrun
    rw [advertised_swap before after hne] at hrep
    exact sameTable_of_represents hrep (represents_run hrun')

def Sends (rt : RouteTable) (gatewayID destination via : String) : Prop :=
  ∃ order, ∃ r ∈ routesForGateway order rt gatewayID,
    r.destination = destination ∧ r.viaGateway = via

def Looping (rt : RouteTable) (destination : String) : Prop :=
  ∃ g h, g ≠ h ∧ Sends rt g destination h ∧ Sends rt h destination g

section Loops

variable {rt : RouteTable} {ads : Ads} {destination : String}

variable {gatewayID via : String}

theorem sends_iff (h : Represents rt ads) :
    Sends rt gatewayID destination via ↔
      ∃ r, routeAround gatewayID ((rt.lookup destination).getD []) = some r ∧
        r.viaGateway = via := by
  constructor
  · intro hsends
    obtain ⟨order, r, hr, hd, hvia⟩ := hsends
    have hmem : r ∈ (routesForGateway order rt gatewayID).filter
        fun r => r.destination = destination := List.mem_filter.mpr ⟨hr, by simp [hd]⟩
    rw [filter_routesForGateway order h, Option.mem_toList] at hmem
    exact ⟨r, hmem, hvia⟩
  · intro haround
    obtain ⟨r, hr, hvia⟩ := haround
    have hmem : r ∈ (routesForGateway .asListed rt gatewayID).filter
        fun r => r.destination = destination := by
      rw [filter_routesForGateway .asListed h, hr]
      exact List.mem_singleton_self r
    obtain ⟨hr', hd⟩ := List.mem_filter.mp hmem
    exact ⟨.asListed, r, hr', by simpa using hd, hvia⟩

theorem Sends.advertised (h : Represents rt ads) (hsends : Sends rt gatewayID destination via) :
    ∃ ad, ads via destination = some ad := by
  obtain ⟨r, hr, rfl⟩ := (sends_iff h).mp hsends
  obtain ⟨ad, had, _⟩ := ((h.lists destination).mem_iff r).mp (List.mem_of_find?_eq_some hr)
  exact ⟨ad, had⟩

theorem looping_of_entries (h : Represents rt ads) {r s : RouteEntry} {rest : List RouteEntry}
    (hentries : (rt.lookup destination).getD [] = r :: s :: rest) : Looping rt destination := by
  have hlists := h.lists destination
  rw [hentries] at hlists
  have hactive : ∀ q ∈ r :: s :: rest, q.isActive = true := by
    intro q hq
    obtain ⟨ad, _, heq⟩ := (hlists.mem_iff q).mp hq
    rw [heq]
    rfl
  have hne : r.viaGateway ≠ s.viaGateway := by
    intro heq
    exact (List.nodup_cons.mp hlists.nodup).1 (heq ▸ List.mem_cons_self)
  refine ⟨r.viaGateway, s.viaGateway, hne, (sends_iff h).mpr ⟨s, ?_, rfl⟩,
    (sends_iff h).mpr ⟨r, ?_, rfl⟩⟩
  · rw [hentries, routeAround, List.find?_cons_of_neg (by simp)]
    simp [hne.symm, hactive s (by simp)]
  · rw [hentries, routeAround]
    simp [hne, hactive r (by simp)]

theorem looping_iff (h : Represents rt ads) :
    Looping rt destination ↔ ∃ g g' ad ad', g ≠ g' ∧ ads g destination = some ad ∧
      ads g' destination = some ad' := by
  constructor
  · intro hloop
    obtain ⟨g, g', hne, hsends, hsends'⟩ := hloop
    obtain ⟨ad', had'⟩ := hsends.advertised h
    obtain ⟨ad, had⟩ := hsends'.advertised h
    exact ⟨g, g', ad, ad', hne, had, had'⟩
  · intro htwo
    obtain ⟨g, g', ad, ad', hne, had, had'⟩ := htwo
    have hr := (h.lists destination).entry_mem had
    have hs := (h.lists destination).entry_mem had'
    have hdiffer : ad.entry destination g ≠ ad'.entry destination g' := by
      intro heq
      exact hne (congrArg RouteEntry.viaGateway heq)
    match hentries : (rt.lookup destination).getD [] with
    | [] =>
      rw [hentries] at hr
      cases hr
    | [r] =>
      rw [hentries, List.mem_singleton] at hr hs
      exact absurd (hr.trans hs.symm) hdiffer
    | r :: s :: rest => exact looping_of_entries h hentries

end Loops

/-- No two gateways send a destination to each other exactly when every destination is
advertised by at most one gateway. -/
theorem loop_free_iff {calls : List Call} {rt : RouteTable} (hrun : Run Step ∅ calls rt) :
    (¬ ∃ g h d, g ≠ h ∧ Sends rt g d h ∧ Sends rt h d g) ↔
      ∀ g h d ad ad', advertised calls g d = some ad → advertised calls h d = some ad' → g = h := by
  have hrep := represents_run hrun
  constructor
  · intro hfree g h d ad ad' had had'
    by_contra hne
    obtain ⟨g', h', hloop⟩ := (looping_iff hrep).mpr ⟨g, h, ad, ad', hne, had, had'⟩
    exact hfree ⟨g', h', d, hloop⟩
  · intro hone hloop
    obtain ⟨g, h, d, hloop⟩ := hloop
    obtain ⟨g', h', ad, ad', hne, had, had'⟩ := (looping_iff hrep).mp ⟨g, h, hloop⟩
    exact hne (hone g' h' d ad ad' had had')

def sharedSubnet : List Call :=
  [.advertise "a" "keyA" "1.1.1.1:51820" ["10.0.0.0/8"] 100,
    .advertise "b" "keyB" "2.2.2.2:51820" ["10.0.0.0/8"] 100]

theorem shared_subnet_loops : ∃ rt g h d, Run Step ∅ sharedSubnet rt ∧
    g ≠ h ∧ Sends rt g d h ∧ Sends rt h d g := by
  refine ⟨_, "a", "b", "10.0.0.0/8", run_play ∅ sharedSubnet, by decide, ?_, ?_⟩
  · exact ⟨.asListed, by decide⟩
  · exact ⟨.asListed, by decide⟩

def handedOver : List Call :=
  [.advertise "a" "keyA" "1.1.1.1:51820" ["10.0.0.0/8"] 100, .withdraw "a",
    .advertise "b" "keyB" "2.2.2.2:51820" ["10.0.0.0/8"] 100]

theorem advertised_handedOver {g d : String} {ad : Ad} (h : advertised handedOver g d = some ad) :
    g = "b" := by
  by_contra hg
  simp [advertised, handedOver, Ads.after, Ads.put, Ads.drop, hg] at h
  exact h.1 h.2.1.1

theorem handed_over_loop_free :
    ¬ ∃ g h d, g ≠ h ∧ Sends (play ∅ handedOver) g d h ∧ Sends (play ∅ handedOver) h d g :=
  (loop_free_iff (run_play ∅ handedOver)).mpr fun _ _ _ _ _ had had' =>
    (advertised_handedOver had).trans (advertised_handedOver had').symm

end Outpost.S2SRoutes
