import Outpost.PostureCheck

/-!
# Pages of the list handlers

The core API and the audit log read the page from the query, each in its own way, and multiply in
Go's `int`.
-/

namespace Outpost.Pagination

open PostureCheck

section Query

-- `get key` is the first value of the parameter in the query, or `""`
variable (get : String → String)

def queryInt (key : String) (fallback : Int) : Int :=
  if get key = "" then fallback
  else match atoi (get key).toList with
    | (n, none) => n
    | (_, some _) => fallback

def defaultPerPage : Int := 50

def parsePagination : Int × Int :=
  let page := queryInt get "page" 1
  let perPage := queryInt get "per_page" defaultPerPage
  let perPage := if perPage < 1 then defaultPerPage else perPage
  (if page < 1 then 1 else page, if 100 < perPage then 100 else perPage)

def auditPagination : Int × Int :=
  (match atoi (get "page").toList with
    | (n, none) => if get "page" ≠ "" ∧ 0 < n then n else 1
    | _ => 1,
  match atoi (get "per_page").toList with
    | (n, none) => if get "per_page" ≠ "" ∧ 0 < n ∧ n ≤ 1000 then n else 50
    | _ => 50)

end Query

inductive Api where
  | core
  | audit

def Api.pagination : Api → (String → String) → Int × Int
  | .core => parsePagination
  | .audit => auditPagination

def Api.maxPerPage : Api → Int
  | .core => 100
  | .audit => 1000

def offset (page perPage : Int) : Int := ((page - 1) * perPage).bmod (2 ^ 64)

variable {page perPage : Int}

theorem pagination_bounds {api : Api} {get : String → String}
    (h : api.pagination get = (page, perPage)) :
    1 ≤ page ∧ 1 ≤ perPage ∧ perPage ≤ api.maxPerPage := by
  obtain ⟨rfl, rfl⟩ := Prod.mk.inj h.symm
  cases api with
  | core =>
    simp only [Api.maxPerPage, parsePagination, defaultPerPage]
    split_ifs <;> omega
  | audit =>
    simp only [Api.maxPerPage, auditPagination]
    refine ⟨?_, ?_⟩
    · split
      · split_ifs <;> omega
      · omega
    · split
      · split_ifs <;> omega
      · omega

theorem offset_exact_iff (api : Api) (get : String → String)
    (h : api.pagination get = (page, perPage)) :
    1 ≤ page ∧ 1 ≤ perPage ∧ perPage ≤ api.maxPerPage ∧
      (offset page perPage = (page - 1) * perPage ↔ (page - 1) * perPage < 2 ^ 63) := by
  obtain ⟨hpage, hper, hmax⟩ := pagination_bounds h
  have hpos : 0 ≤ (page - 1) * perPage := Int.mul_nonneg (by omega) (by omega)
  refine ⟨hpage, hper, hmax, ?_⟩
  constructor
  · intro heq
    rw [← heq]
    exact Int.bmod_lt (by decide)
  · intro hfits
    exact Int.bmod_eq_of_le (by omega) (by omega)

theorem first_page_offset :
    Api.core.pagination (fun _ => "") = (1, 50) ∧ offset 1 50 = (1 - 1) * 50 :=
  ⟨rfl, (offset_exact_iff .core (fun _ => "") rfl).2.2.2.mpr (by decide)⟩

theorem offset_negative : ∃ get, (∀ api : Api, api.pagination get = (4611686018427387905, 2)) ∧
    offset 4611686018427387905 2 = -2 ^ 63 := by
  refine ⟨fun key => if key = "page" then "4611686018427387905" else "2", ?_, by decide +kernel⟩
  intro api
  cases api with
  | core => decide +kernel
  | audit => decide +kernel

end Outpost.Pagination
