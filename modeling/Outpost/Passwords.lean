import Mathlib.Data.List.Basic

/-!
# Passwords

`ValidatePasswordPolicy` and the two calls of bcrypt. The classes of characters
and bcrypt itself are parameters; that bcrypt refuses what is longer than 72 bytes
is part of `hashPassword`.
-/

namespace Outpost.Passwords

structure Unicode where
  (isUpper isLower isDigit : Char → Bool)

structure Bcrypt where
  generate : String → String → String
  compare : String → String → Bool

structure Seen where
  (hasUpper hasLower hasDigit hasSpecial : Bool)
deriving DecidableEq

section Policy

variable (u : Unicode)

def Seen.visit (s : Seen) (r : Char) : Seen :=
  if u.isUpper r then { s with hasUpper := true }
  else if u.isLower r then { s with hasLower := true }
  else if u.isDigit r then { s with hasDigit := true }
  else { s with hasSpecial := true }

def seen (password : String) : Seen :=
  password.toList.foldl (Seen.visit u) ⟨false, false, false, false⟩

def missing (password : String) : List String :=
  let s := seen u password
  (if password.utf8ByteSize < 8 then ["at least 8 characters"] else []) ++
    (if s.hasUpper then [] else ["at least one uppercase letter"]) ++
    (if s.hasLower then [] else ["at least one lowercase letter"]) ++
    (if s.hasDigit then [] else ["at least one digit"]) ++
    (if s.hasSpecial then [] else ["at least one special character"])

def validatePasswordPolicy (password : String) : Option String :=
  if missing u password = [] then none
  else some ("password does not meet requirements: " ++ "; ".intercalate (missing u password))

end Policy

def hashPassword (b : Bcrypt) (salt password : String) : Option String :=
  if password.utf8ByteSize ≤ 72 then some (b.generate salt password) else none

def checkPassword (b : Bcrypt) (hash password : String) : Bool := b.compare hash password

variable {u : Unicode}

theorem visit_eq (s : Seen) (r : Char) :
    s.visit u r =
      ⟨s.hasUpper || u.isUpper r,
        s.hasLower || (!u.isUpper r && u.isLower r),
        s.hasDigit || (!u.isUpper r && !u.isLower r && u.isDigit r),
        s.hasSpecial || (!u.isUpper r && !u.isLower r && !u.isDigit r)⟩ := by
  unfold Seen.visit
  cases u.isUpper r with
  | true => simp
  | false =>
    cases u.isLower r with
    | true => simp
    | false => cases u.isDigit r <;> simp

theorem foldl_visit (rs : List Char) (s : Seen) :
    rs.foldl (Seen.visit u) s =
      ⟨s.hasUpper || rs.any u.isUpper,
        s.hasLower || rs.any fun r => !u.isUpper r && u.isLower r,
        s.hasDigit || rs.any fun r => !u.isUpper r && !u.isLower r && u.isDigit r,
        s.hasSpecial || rs.any fun r => !u.isUpper r && !u.isLower r && !u.isDigit r⟩ := by
  induction rs generalizing s with
  | nil => simp
  | cons r rs ih => simp [ih, visit_eq, Bool.or_assoc]

theorem validatePasswordPolicy_eq_none_iff (password : String) :
    validatePasswordPolicy u password = none ↔
      8 ≤ password.utf8ByteSize ∧ (∃ r ∈ password.toList, u.isUpper r = true) ∧
        (∃ r ∈ password.toList, u.isUpper r = false ∧ u.isLower r = true) ∧
        (∃ r ∈ password.toList,
          u.isUpper r = false ∧ u.isLower r = false ∧ u.isDigit r = true) ∧
        ∃ r ∈ password.toList,
          u.isUpper r = false ∧ u.isLower r = false ∧ u.isDigit r = false := by
  have hseen : seen u password = _ := foldl_visit password.toList _
  simp only [validatePasswordPolicy, missing]
  simp only [ite_eq_left_iff, List.append_eq_nil_iff]
  grind

end Outpost.Passwords
