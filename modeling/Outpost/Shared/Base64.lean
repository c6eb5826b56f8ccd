import Mathlib.Data.List.Basic
import Mathlib.Data.Fintype.Pi
import Mathlib.Data.Fintype.Option

/-!
# Base64 texts and their bytes

Four sextets carry three bytes. When the bytes do not fill the last group, its last sextet has
bits that belong to no byte; a decoder that is not strict ignores them and skips line breaks.
-/

namespace Outpost.Base64

section Groups

variable (a b c d : Fin 64)

def byte₀ : UInt8 := .ofNat (a.val * 4 + b.val / 16)

def byte₁ : UInt8 := .ofNat (b.val % 16 * 16 + c.val / 4)

def byte₂ : UInt8 := .ofNat (c.val % 4 * 64 + d.val)

/-- The spare bits of the last sextet are dropped. A single sextet carries no byte. -/
def unpack : List (Fin 64) → Option (List UInt8)
  | [] => some []
  | [_] => none
  | [a, b] => some [byte₀ a b]
  | [a, b, c] => some [byte₀ a b, byte₁ b c]
  | a :: b :: c :: d :: rest => (unpack rest).map fun bytes =>
      byte₀ a b :: byte₁ b c :: byte₂ c d :: bytes

variable (p q r : UInt8)

def sextet₀ : Fin 64 := .ofNat 64 (p.toNat / 4)

def sextet₁ : Fin 64 := .ofNat 64 (p.toNat % 4 * 16 + q.toNat / 16)

def sextet₂ : Fin 64 := .ofNat 64 (q.toNat % 16 * 4 + r.toNat / 64)

def sextet₃ : Fin 64 := .ofNat 64 (r.toNat % 64)

def pack : List UInt8 → List (Fin 64)
  | [] => []
  | [p] => [sextet₀ p, sextet₁ p 0]
  | [p, q] => [sextet₀ p, sextet₁ p q, sextet₂ q 0]
  | p :: q :: r :: rest => sextet₀ p :: sextet₁ p q :: sextet₂ q r :: sextet₃ r :: pack rest

/-- The last sextet of `n`, with its spare bits cleared. -/
def clearSpare (n : Nat) (x : Fin 64) : Fin 64 :=
  if n % 4 = 2 then .ofNat 64 (x.val / 16 * 16)
  else if n % 4 = 3 then .ofNat 64 (x.val / 4 * 4)
  else x

def canon : List (Fin 64) → List (Fin 64)
  | [] => []
  | [a] => [a]
  | [a, b] => [a, clearSpare 2 b]
  | [a, b, c] => [a, b, clearSpare 3 c]
  | a :: b :: c :: d :: rest => a :: b :: c :: d :: canon rest

end Groups

section Bits

variable (a b c d : Fin 64) (p q r : UInt8)

@[simp] theorem toNat_byte₀ : (byte₀ a b).toNat = a.val * 4 + b.val / 16 := by
  rw [byte₀, UInt8.toNat_ofNat', Nat.mod_eq_of_lt (by omega)]

@[simp] theorem toNat_byte₁ : (byte₁ b c).toNat = b.val % 16 * 16 + c.val / 4 := by
  rw [byte₁, UInt8.toNat_ofNat', Nat.mod_eq_of_lt (by omega)]

@[simp] theorem toNat_byte₂ : (byte₂ c d).toNat = c.val % 4 * 64 + d.val := by
  rw [byte₂, UInt8.toNat_ofNat', Nat.mod_eq_of_lt (by omega)]

@[simp] theorem val_sextet₀ : (sextet₀ p).val = p.toNat / 4 :=
  Nat.mod_eq_of_lt (by have := p.toNat_lt; omega)

@[simp] theorem val_sextet₁ : (sextet₁ p q).val = p.toNat % 4 * 16 + q.toNat / 16 :=
  Nat.mod_eq_of_lt (by have := q.toNat_lt; omega)

@[simp] theorem val_sextet₂ : (sextet₂ q r).val = q.toNat % 16 * 4 + r.toNat / 64 :=
  Nat.mod_eq_of_lt (by have := r.toNat_lt; omega)

@[simp] theorem val_sextet₃ : (sextet₃ r).val = r.toNat % 64 :=
  Nat.mod_eq_of_lt (by omega)

@[simp] theorem val_clearSpare (n : Nat) (x : Fin 64) : (clearSpare n x).val =
    if n % 4 = 2 then x.val / 16 * 16 else if n % 4 = 3 then x.val / 4 * 4 else x.val := by
  unfold clearSpare
  split
  · exact Nat.mod_eq_of_lt (by omega)
  split
  · exact Nat.mod_eq_of_lt (by omega)
  · rfl

end Bits

section Regrouping

variable {xs ys : List (Fin 64)} {bytes : List UInt8}

theorem pack_of_unpack (h : unpack xs = some bytes) : pack bytes = canon xs := by
  fun_induction unpack xs generalizing bytes with
  | case1 =>
    obtain rfl := Option.some.inj h
    rfl
  | case2 => cases h
  | case3 a b =>
    obtain rfl := Option.some.inj h
    simp [pack, canon, Fin.ext_iff]
    omega
  | case4 a b c =>
    obtain rfl := Option.some.inj h
    simp [pack, canon, Fin.ext_iff]
    omega
  | case5 a b c d rest ih =>
    obtain ⟨tail, htail, rfl⟩ := Option.map_eq_some_iff.mp h
    simp [pack, canon, ih htail, Fin.ext_iff]
    omega

theorem unpack_canon (xs : List (Fin 64)) : unpack (canon xs) = unpack xs := by
  fun_induction canon xs with
  | case1 => rfl
  | case2 => rfl
  | case3 a b => simp [unpack, ← UInt8.toNat_inj]
  | case4 a b c => simp [unpack, ← UInt8.toNat_inj]
  | case5 a b c d rest ih => simp [unpack, ih]

theorem unpack_eq_iff (h : unpack xs = some bytes) :
    unpack ys = some bytes ↔ canon ys = canon xs := by
  constructor
  · intro h'
    rw [← pack_of_unpack h, ← pack_of_unpack h']
  · intro heq
    rw [← unpack_canon, heq, unpack_canon, h]

theorem unpack_length (h : unpack xs = some bytes) : xs.length = (bytes.length * 4 + 2) / 3 := by
  fun_induction unpack xs generalizing bytes with
  | case1 =>
    obtain rfl := Option.some.inj h
    rfl
  | case2 => cases h
  | case3 a b =>
    obtain rfl := Option.some.inj h
    simp
  | case4 a b c =>
    obtain rfl := Option.some.inj h
    simp
  | case5 a b c d rest ih =>
    obtain ⟨tail, htail, rfl⟩ := Option.map_eq_some_iff.mp h
    have := ih htail
    simp only [List.length_cons]
    omega

theorem exists_unpack (h : xs.length % 4 ≠ 1) : ∃ bytes, unpack xs = some bytes := by
  fun_induction unpack xs with
  | case1 => exact ⟨_, rfl⟩
  | case2 => exact absurd rfl h
  | case3 => exact ⟨_, rfl⟩
  | case4 => exact ⟨_, rfl⟩
  | case5 a b c d rest ih =>
    simp only [List.length_cons] at h
    obtain ⟨bytes, hbytes⟩ := ih (by omega)
    rw [hbytes]
    exact ⟨_, rfl⟩

theorem unpack_pack (bytes : List UInt8) : unpack (pack bytes) = some bytes := by
  fun_induction pack bytes with
  | case1 => rfl
  | case2 p =>
    simp [unpack, ← UInt8.toNat_inj]
    omega
  | case3 p q =>
    have := q.toNat_lt
    simp [unpack, ← UInt8.toNat_inj]
    omega
  | case4 p q r rest ih =>
    have := q.toNat_lt
    have := r.toNat_lt
    simp [unpack, ih, ← UInt8.toNat_inj]
    omega

theorem canon_concat (xs : List (Fin 64)) (x : Fin 64) :
    canon (xs ++ [x]) = xs ++ [clearSpare (xs.length + 1) x] := by
  fun_induction canon xs with
  | case1 => rfl
  | case2 a => rfl
  | case3 a b => rfl
  | case4 a b c => simp [canon, clearSpare]
  | case5 a b c d rest ih =>
    have hperiod : clearSpare (rest.length + 4 + 1) x = clearSpare (rest.length + 1) x := by
      unfold clearSpare
      rw [Nat.add_right_comm, Nat.add_mod_right]
    simp [canon, ih, hperiod]

def flipLow (x : Fin 64) : Fin 64 := .ofNat 64 (x.val / 2 * 2 + (1 - x.val % 2))

theorem flipLow_ne : ∀ x, flipLow x ≠ x := by decide

theorem clearSpare_flipLow {n : Nat} (h : n % 4 = 2 ∨ n % 4 = 3) (x : Fin 64) :
    clearSpare n (flipLow x) = clearSpare n x := by
  have hval : (flipLow x).val = x.val / 2 * 2 + (1 - x.val % 2) := Nat.mod_eq_of_lt (by omega)
  apply Fin.ext
  rw [val_clearSpare, val_clearSpare]
  rcases h with h | h
  · rw [if_pos h, if_pos h]
    omega
  · rw [if_neg (by omega), if_pos h, if_neg (by omega), if_pos h]
    omega

theorem unpack_flipLow {x : Fin 64} (h : unpack (xs ++ [x]) = some bytes)
    (hspare : bytes.length % 3 ≠ 0) : unpack (xs ++ [flipLow x]) = some bytes := by
  have hlength := unpack_length h
  rw [List.length_append, List.length_singleton] at hlength
  have hlast : (xs.length + 1) % 4 = 2 ∨ (xs.length + 1) % 4 = 3 := by
    have hrest : bytes.length % 3 = 1 ∨ bytes.length % 3 = 2 := by omega
    rcases hrest with hrest | hrest <;> omega
  rw [unpack_eq_iff h, canon_concat, canon_concat, clearSpare_flipLow hlast]

end Regrouping

structure Alphabet where
  char : Fin 64 → Char
  injective : Function.Injective char
  plain : ∀ x, char x ≠ '=' ∧ char x ≠ '\n' ∧ char x ≠ '\r'

def letters (char₆₂ char₆₃ : Char) (x : Fin 64) : Char :=
  if x.val < 26 then .ofNat ('A'.toNat + x.val)
  else if x.val < 52 then .ofNat ('a'.toNat + (x.val - 26))
  else if x.val < 62 then .ofNat ('0'.toNat + (x.val - 52))
  else if x.val = 62 then char₆₂
  else char₆₃

theorem std_injective : Function.Injective (letters '+' '/') := by decide +kernel

theorem std_plain : ∀ x, letters '+' '/' x ≠ '=' ∧ letters '+' '/' x ≠ '\n' ∧
    letters '+' '/' x ≠ '\r' := by
  decide +kernel

def std : Alphabet := ⟨letters '+' '/', std_injective, std_plain⟩

theorem url_injective : Function.Injective (letters '-' '_') := by decide +kernel

theorem url_plain : ∀ x, letters '-' '_' x ≠ '=' ∧ letters '-' '_' x ≠ '\n' ∧
    letters '-' '_' x ≠ '\r' := by
  decide +kernel

def url : Alphabet := ⟨letters '-' '_', url_injective, url_plain⟩

def withoutBreaks (text : List Char) : List Char := text.filter fun c => c ≠ '\n' ∧ c ≠ '\r'

def padding (n : Nat) : Nat := (4 - n % 4) % 4

@[simp] theorem padding_group (n : Nat) : padding (n + 1 + 1 + 1 + 1) = padding n := by
  unfold padding
  omega

namespace Alphabet

variable (A : Alphabet)

def sextet (c : Char) : Option (Fin 64) := (List.finRange 64).find? fun x => A.char x = c

def decodeQuanta : List Char → Option (List UInt8)
  | [] => some []
  | a :: b :: c :: d :: rest =>
    if d = '=' ∧ rest = [] then
      if c = '=' then do
        let a ← A.sextet a
        let b ← A.sextet b
        some [byte₀ a b]
      else do
        let a ← A.sextet a
        let b ← A.sextet b
        let c ← A.sextet c
        some [byte₀ a b, byte₁ b c]
    else do
      let a ← A.sextet a
      let b ← A.sextet b
      let c ← A.sextet c
      let d ← A.sextet d
      (decodeQuanta rest).map fun bytes => byte₀ a b :: byte₁ b c :: byte₂ c d :: bytes
  | _ => none

def decode (text : List Char) : Option (List UInt8) := A.decodeQuanta (withoutBreaks text)

def encode (bytes : List UInt8) : List Char :=
  (pack bytes).map A.char ++ List.replicate (padding (pack bytes).length) '='

def decodeRaw (text : List Char) : Option (List UInt8) :=
  ((withoutBreaks text).mapM A.sextet).bind unpack

def encodeRaw (bytes : List UInt8) : List Char := (pack bytes).map A.char

variable {A}

theorem sextet_eq_some {c : Char} {x : Fin 64} : A.sextet c = some x ↔ c = A.char x := by
  have hchar : ∀ y, A.sextet c = some y → A.char y = c := by
    intro y hy
    have hfound := List.find?_some hy
    exact of_decide_eq_true hfound
  constructor
  · intro h
    exact (hchar x h).symm
  · intro h
    cases hfind : A.sextet c with
    | none =>
      have hnone := List.find?_eq_none.mp hfind x (List.mem_finRange x)
      exact absurd (decide_eq_true h.symm) hnone
    | some y => rw [A.injective ((hchar y hfind).trans h)]

@[simp] theorem sextet_char (x : Fin 64) : A.sextet (A.char x) = some x := sextet_eq_some.mpr rfl

variable {text : List Char} {xs : List (Fin 64)} {bytes : List UInt8}

theorem mapM_sextet : text.mapM A.sextet = some xs ↔ text = xs.map A.char := by
  induction text generalizing xs with
  | nil => cases xs <;> simp
  | cons c text ih =>
    cases xs with
    | nil => simp [Option.bind_eq_some_iff]
    | cons x xs => simp [Option.bind_eq_some_iff, ih, sextet_eq_some]

theorem decodeRaw_eq_some :
    A.decodeRaw text = some bytes ↔
      ∃ xs, unpack xs = some bytes ∧ withoutBreaks text = xs.map A.char := by
  unfold decodeRaw
  rw [Option.bind_eq_some_iff]
  apply exists_congr
  intro xs
  rw [mapM_sextet, and_comm]

theorem unpack_of_decodeQuanta (h : A.decodeQuanta text = some bytes) :
    ∃ xs, unpack xs = some bytes ∧
      text = xs.map A.char ++ List.replicate (padding xs.length) '=' := by
  fun_induction decodeQuanta A text generalizing bytes with
  | case1 =>
    obtain rfl := Option.some.inj h
    exact ⟨[], rfl, rfl⟩
  | case2 a b d rest hend =>
    obtain ⟨rfl, rfl⟩ := hend
    simp only [Option.bind_eq_bind, Option.bind_eq_some_iff, sextet_eq_some] at h
    obtain ⟨x, rfl, y, rfl, h⟩ := h
    exact ⟨[x, y], h, rfl⟩
  | case3 a b c d rest hend hc =>
    obtain ⟨rfl, rfl⟩ := hend
    simp only [Option.bind_eq_bind, Option.bind_eq_some_iff, sextet_eq_some] at h
    obtain ⟨x, rfl, y, rfl, z, rfl, h⟩ := h
    exact ⟨[x, y, z], h, rfl⟩
  | case4 a b c d rest hend ih =>
    simp only [Option.bind_eq_bind, Option.bind_eq_some_iff, sextet_eq_some] at h
    obtain ⟨x, rfl, y, rfl, z, rfl, w, rfl, h⟩ := h
    obtain ⟨tail, htail, rfl⟩ := Option.map_eq_some_iff.mp h
    obtain ⟨xs, hxs, rfl⟩ := ih htail
    exact ⟨x :: y :: z :: w :: xs, by simp [unpack, hxs], by simp⟩
  | case5 => cases h

theorem decodeQuanta_of_unpack (h : unpack xs = some bytes) :
    A.decodeQuanta (xs.map A.char ++ List.replicate (padding xs.length) '=') = some bytes := by
  fun_induction unpack xs generalizing bytes with
  | case1 => exact h
  | case2 => cases h
  | case3 x y => simpa [decodeQuanta, padding] using h
  | case4 x y z => simpa [decodeQuanta, padding, (A.plain z).1] using h
  | case5 x y z w rest ih =>
    obtain ⟨tail, htail, rfl⟩ := Option.map_eq_some_iff.mp h
    simp [decodeQuanta, (A.plain w).1, ih htail]

theorem withoutBreaks_padded (xs : List (Fin 64)) (n : Nat) :
    withoutBreaks (xs.map A.char ++ List.replicate n '=') =
      xs.map A.char ++ List.replicate n '=' := by
  apply List.filter_eq_self.mpr
  intro c hc
  rcases List.mem_append.mp hc with hc | hc
  · obtain ⟨x, _, rfl⟩ := List.mem_map.mp hc
    exact decide_eq_true (A.plain x).2
  · rw [List.eq_of_mem_replicate hc]
    rfl

theorem withoutBreaks_chars (xs : List (Fin 64)) :
    withoutBreaks (xs.map A.char) = xs.map A.char := by
  have h := withoutBreaks_padded (A := A) xs 0
  rwa [List.replicate_zero, List.append_nil] at h

theorem decode_encode (bytes : List UInt8) : A.decode (A.encode bytes) = some bytes := by
  unfold decode encode
  rw [withoutBreaks_padded]
  exact decodeQuanta_of_unpack (unpack_pack bytes)

theorem decodeRaw_encodeRaw (bytes : List UInt8) : A.decodeRaw (A.encodeRaw bytes) = some bytes :=
  decodeRaw_eq_some.mpr ⟨pack bytes, unpack_pack bytes, withoutBreaks_chars _⟩

end Alphabet

end Outpost.Base64
