import Mathlib.Data.Option.Basic

/-!
# Session tokens

`GenerateToken` and `ValidateToken` over the parts of a JWT. How texts are encoded and what the
keyed hash is are parameters. Times are nanoseconds; claims hold whole seconds.
-/

namespace Outpost

abbrev Time := Nat

namespace Time

def second : Time := 1000000000

def minute : Time := 60 * second

def hour : Time := 60 * minute

/-- `jwt.NewNumericDate` cuts to the second. -/
def numericDate (t : Time) : Nat := t / second

end Time

structure TokenClaims where
  (userID username email : String)
  isAdmin : Bool
  roles : List String := []
  tokenType : String := ""
  expiresAt : Option Nat := none
  notBefore : Option Nat := none
  issuedAt : Option Nat := none
deriving DecidableEq

inductive Hash where
  | sha256
  | sha384
  | sha512
deriving DecidableEq

inductive SigningMethod where
  | hmac (hash : Hash)
  | other (alg : String)
deriving DecidableEq

structure Jwt where
  encode : TokenClaims → String
  decode : String → Option (SigningMethod × TokenClaims)
  mac : Hash → String → String → List UInt8
  join : String → List UInt8 → String
  split : String → Option (String × List UInt8)
  decode_encode : ∀ claims, decode (encode claims) = some (.hmac .sha256, claims)
  split_join : ∀ text signature, split (join text signature) = some (text, signature)

namespace Jwt

variable (j : Jwt) (secret : String)

def sign (claims : TokenClaims) : String :=
  j.join (j.encode claims) (j.mac .sha256 secret (j.encode claims))

def verify (raw : String) : Option TokenClaims :=
  match j.split raw with
  | none => none
  | some (text, signature) =>
    match j.decode text with
    | some (.hmac hash, claims) => if j.mac hash secret text = signature then some claims else none
    | _ => none

end Jwt

def TokenClaims.Timely (now : Time) (c : TokenClaims) : Prop :=
  (∀ e ∈ c.expiresAt, now < e * Time.second) ∧ ∀ b ∈ c.notBefore, b * Time.second ≤ now

instance (now : Time) (c : TokenClaims) : Decidable (c.Timely now) := by
  unfold TokenClaims.Timely
  infer_instance

def validateToken (j : Jwt) (secret raw : String) (now : Time) : Option TokenClaims :=
  (j.verify secret raw).filter fun c => c.Timely now

def bearer (authorization : String) : Option String :=
  if "Bearer ".toList <+: authorization.toList then
    some (String.ofList (authorization.toList.drop 7))
  else none

theorem bearer_append (raw : String) : bearer ("Bearer " ++ raw) = some raw := by
  unfold bearer
  simp

variable {j : Jwt} {secret raw : String} {now : Time} {claims c : TokenClaims}

theorem verify_sign : j.verify secret (j.sign secret claims) = some claims := by
  simp [Jwt.verify, Jwt.sign, j.split_join, j.decode_encode]

theorem validateToken_eq_some :
    validateToken j secret raw now = some c ↔ j.verify secret raw = some c ∧ c.Timely now := by
  unfold validateToken
  simp

def Unforged (j : Jwt) (secret : String) (signed : List TokenClaims) (raw : String) : Prop :=
  (j.verify secret raw).isSome → ∃ c ∈ signed, (j.split raw).map Prod.fst = some (j.encode c)

variable {signed : List TokenClaims}

theorem Unforged.mem (h : Unforged j secret signed raw) (hverify : j.verify secret raw = some c) :
    c ∈ signed := by
  obtain ⟨c', hc', htext⟩ := h (by rw [hverify]; rfl)
  unfold Jwt.verify at hverify
  split at hverify
  · cases hverify
  · rename_i text signature hsplit
    rw [hsplit] at htext
    obtain rfl : text = j.encode c' := Option.some.inj htext
    rw [j.decode_encode] at hverify
    simp only [Option.ite_none_right_eq_some, Option.some.injEq] at hverify
    rw [← hverify.2]
    exact hc'

end Outpost
