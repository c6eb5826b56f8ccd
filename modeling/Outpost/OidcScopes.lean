import Mathlib.Data.Countable.Basic
import Mathlib.Logic.Equiv.List
import Outpost.OidcExchange

/-!
# Scopes

The scopes that an authorize request asks for are stored with the code as they are, and the
token response repeats them; the registered ones only count when none are asked for. The
ID token and `userinfo` do not look at the scopes at all.
-/

namespace Outpost.Oidc

open Interleaving Runs Prog Function

def claimUnless (empty : Prop) [Decidable empty] (name : String) : List String :=
  if empty then [] else [name]

def IDTokenClaims.names (c : IDTokenClaims) : List String :=
  claimUnless (c.nonce = "") "nonce" ++ claimUnless (c.email = "") "email" ++
    claimUnless (c.emailVerified = false) "email_verified" ++ claimUnless (c.name = "") "name" ++
    claimUnless (c.preferredUsername = "") "preferred_username" ++
    claimUnless (c.groups = []) "groups" ++ claimUnless (c.issuer = "") "iss" ++
    claimUnless (c.subject = "") "sub" ++ ["aud", "exp", "nbf", "iat"]

structure UserinfoResponse where
  (sub email : String)
  emailVerified : Bool
  (name preferredUsername : String)
  groups : Option (List String)
deriving DecidableEq

def UserinfoResponse.names (info : UserinfoResponse) : List String :=
  ["sub", "email", "email_verified", "name", "preferred_username"] ++
    claimUnless (info.groups = none) "groups"

def AuthorizeParams.granted (params : AuthorizeParams) (client : Client) : List String :=
  if params.scope = "" then client.scopes else params.scope.splitOn " "

variable {info : UserinfoResponse}

/-- An authorize request stored the row, with the scopes that it asked for. -/
def Scoped (past : List Happening) (ac : AuthCode) : Prop :=
  ∃ n params claims client, .start n (.authorize params claims ac.code) ∈ past ∧
    (∃ w ∈ seen n past, w.tables.getClient params.clientID = some client) ∧
    ac.scopes = params.granted client

theorem Scoped.mono {past : List Happening} {ac : AuthCode} (h : Scoped past ac)
    (later : List Happening) : Scoped (past ++ later) ac := by
  obtain ⟨n, params, claims, client, hstart, ⟨w, hw, hclient⟩, hscopes⟩ := h
  refine ⟨n, params, claims, client, List.mem_append_left _ hstart, ⟨w, ?_, hclient⟩, hscopes⟩
  rw [seen_append]
  exact List.mem_append_left _ hw

def Writes : Request → List World → World → World → Prop
  | .authorize params claims code, seen, w, w' => w'.tables.codes = w.tables.codes ∨
      ∃ ac, Stores params claims code seen ac ∧ w'.tables.codes = w.tables.codes ++ [ac]
  | .token _, _, w, w' => w'.tables.codes ⊆ w.tables.codes

section Runs

variable {env : Env} {past : List Happening} {p q : Server} {e : Happening}

end Runs

section Answers

variable {env : Env}

end Answers

end Outpost.Oidc
