import Mathlib.Data.List.Basic
import Mathlib.Data.BitVec

/-!
# Internet addresses, prefixes and their texts

Addresses are bit vectors; a prefix keeps its host bits clear. `host` and `Cidr.text` are
PostgreSQL's outputs, `parseAddr` and `parseCIDR` follow Go's `netip.ParseAddr` and
`net.ParseCIDR`: the firewall code keys its maps by these texts.
-/

namespace Outpost

/-- A network prefix of `width`-bit addresses, host bits clear. -/
structure Prefix (width : Nat) where
  addr : BitVec width
  len : Nat
  len_le : len ≤ width
  aligned : (addr >>> (width - len)) <<< (width - len) = addr
deriving DecidableEq

namespace Prefix

variable {width : Nat}

def ofAddr (a : BitVec width) (len : Nat) (h : len ≤ width) : Prefix width where
  addr := (a >>> (width - len)) <<< (width - len)
  len := len
  len_le := h
  aligned := by
    apply BitVec.eq_of_getLsbD_eq
    intro i hi
    simp only [BitVec.getLsbD_shiftLeft, BitVec.getLsbD_ushiftRight]
    by_cases hlt : i < width - len
    · simp [hlt]
    · have he : width - len + (i - (width - len)) = i := by omega
      simp [hlt, hi, he]

def contains (p : Prefix width) (x : BitVec width) : Bool :=
  x >>> (width - p.len) = p.addr >>> (width - p.len)

theorem ofAddr_self (p : Prefix width) : ofAddr p.addr p.len p.len_le = p := by
  cases p with
  | mk addr len len_le aligned => simp [ofAddr, aligned]

theorem contains_full (a x : BitVec width) :
    (ofAddr a width (Nat.le_refl width)).contains x = decide (x = a) := by
  simp [contains, ofAddr]

end Prefix

/-- `inet` without a netmask, `netip.Addr` without a zone. -/
inductive Addr where
  | v4 (a : BitVec 32)
  | v6 (a : BitVec 128)
deriving DecidableEq

inductive Cidr where
  | v4 (p : Prefix 32)
  | v6 (p : Prefix 128)
deriving DecidableEq

def Cidr.contains4 : Cidr → BitVec 32 → Bool
  | .v4 p, x => p.contains x
  | .v6 _, _ => false

def parseField (cs : List Char) : Option Nat :=
  if cs ≠ [] ∧ cs.all Char.isDigit ∧ ¬ (cs.length > 1 ∧ cs.head? = some '0') then
    let v := Nat.ofDigitChars 10 cs 0
    if v ≤ 255 then some v else none
  else none

set_option maxRecDepth 4000 in
theorem parseField_toDigits_fin : ∀ n : Fin 256, parseField (Nat.toDigits 10 n) = some n.val := by
  decide

theorem parseField_toDigits {n : Nat} (h : n < 256) : parseField (Nat.toDigits 10 n) = some n :=
  parseField_toDigits_fin ⟨n, h⟩

/-- Go's `dtoi` on a whole text: decimal digits only, at least one. -/
def dtoi (cs : List Char) : Option Nat :=
  if cs ≠ [] ∧ cs.all Char.isDigit then some (Nat.ofDigitChars 10 cs 0) else none

theorem toDigits_all_isDigit (n : Nat) : (Nat.toDigits 10 n).all Char.isDigit = true := by
  apply List.all_eq_true.mpr
  intro c hc
  exact Nat.isDigit_of_mem_toDigits (by decide) (by decide) hc

theorem dtoi_toDigits (n : Nat) : dtoi (Nat.toDigits 10 n) = some n := by
  unfold dtoi
  rw [if_pos ⟨Nat.toDigits_ne_nil, toDigits_all_isDigit n⟩, Nat.ofDigitChars_ten_toDigits]

variable {c : Char}

theorem not_mem_toDigits (h : c.isDigit = false) (n : Nat) : c ∉ Nat.toDigits 10 n := by
  intro hc
  have := Nat.isDigit_of_mem_toDigits (by decide) (by decide) hc
  simp [h] at this

def octets (a : BitVec 32) : List Nat :=
  [a.toNat / 16777216 % 256, a.toNat / 65536 % 256, a.toNat / 256 % 256, a.toNat % 256]

def ofOctets (o₁ o₂ o₃ o₄ : Nat) : BitVec 32 :=
  BitVec.ofNat 32 (((o₁ * 256 + o₂) * 256 + o₃) * 256 + o₄)

def dotted (a : BitVec 32) : List Char :=
  ['.'].intercalate ((octets a).map (Nat.toDigits 10))

def parseDotted (cs : List Char) : Option (BitVec 32) :=
  match (cs.splitOn '.').mapM parseField with
  | some [o₁, o₂, o₃, o₄] => some (ofOctets o₁ o₂ o₃ o₄)
  | _ => none

theorem octets_lt (a : BitVec 32) : ∀ o ∈ octets a, o < 256 := by
  intro o ho
  simp only [octets, List.mem_cons, List.not_mem_nil, or_false] at ho
  omega

theorem ofOctets_octets (a : BitVec 32) :
    ofOctets (a.toNat / 16777216 % 256) (a.toNat / 65536 % 256) (a.toNat / 256 % 256)
      (a.toNat % 256) = a := by
  apply BitVec.eq_of_toNat_eq
  simp only [ofOctets, BitVec.toNat_ofNat]
  omega

theorem splitOn_dotted (a : BitVec 32) :
    (dotted a).splitOn '.' = (octets a).map (Nat.toDigits 10) := by
  apply List.splitOn_intercalate
  · intro l hl
    obtain ⟨o, _, rfl⟩ := List.mem_map.mp hl
    exact not_mem_toDigits (by decide) o
  · simp [octets]

theorem parseDotted_dotted (a : BitVec 32) : parseDotted (dotted a) = some a := by
  have h : ∀ o ∈ octets a, parseField (Nat.toDigits 10 o) = some o :=
    fun o ho => parseField_toDigits (octets_lt a o ho)
  simp only [octets, List.mem_cons, forall_eq_or_imp] at h
  obtain ⟨h₁, h₂, h₃, h₄⟩ := h
  unfold parseDotted
  rw [splitOn_dotted]
  simp [octets, h₁, h₂, h₃, h₄, ofOctets_octets]

variable {a : BitVec 32}

theorem mem_dotted (h : c ∈ dotted a) : c.isDigit = true ∨ c = '.' := by
  simp only [dotted, octets] at h
  by_cases hd : c.isDigit = true
  · exact .inl hd
  · have hn : ∀ n, c ∉ Nat.toDigits 10 n := not_mem_toDigits (by simpa using hd)
    simp [hn] at h
    exact .inr h

theorem mem_dotted_ne (hd : c.isDigit = false) (hp : c ≠ '.') :
    c ∉ dotted a := by
  intro h
  rcases mem_dotted h with h | h
  · simp [hd] at h
  · exact hp h

theorem exists_of_mapM_eq_some {α β : Type} {f : α → Option β} {l : List α} {bs : List β}
    (h : l.mapM f = some bs) {a : α} (ha : a ∈ l) : ∃ b ∈ bs, f a = some b := by
  induction l generalizing bs with
  | nil => simp at ha
  | cons x l ih =>
    rw [List.mapM_cons] at h
    obtain ⟨y, hy, h⟩ := Option.bind_eq_some_iff.mp h
    obtain ⟨ys, hys, h⟩ := Option.bind_eq_some_iff.mp h
    obtain rfl : y :: ys = bs := Option.some.inj h
    rcases List.mem_cons.mp ha with rfl | ha
    · exact ⟨y, .head _, hy⟩
    · obtain ⟨b, hb, hf⟩ := ih hys ha
      exact ⟨b, List.mem_cons_of_mem y hb, hf⟩

def groups (a : BitVec 128) : List Nat :=
  (List.range 8).map fun i => a.toNat / 65536 ^ (7 - i) % 65536

def ofGroups (gs : List Nat) : BitVec 128 :=
  BitVec.ofNat 128 (gs.foldl (fun n g => n * 65536 + g) 0)

def zeroRun (gs : List Nat) : Option (Nat × Nat) :=
  let runAt := fun i => ((gs.drop i).takeWhile (· == 0)).length
  let best := (List.range 8).foldl
    (fun best i => if best.2 < runAt i then (i, runAt i) else best) (0, 0)
  if best.2 < 2 then none else some best

def hexGroups (gs : List Nat) : List Char := [':'].intercalate (gs.map (Nat.toDigits 16))

def colonText (a : BitVec 128) : List Char :=
  let gs := groups a
  match zeroRun gs with
  | none => hexGroups (gs.take 1) ++ ':' :: hexGroups (gs.drop 1)
  | some (base, len) =>
    -- an embedded IPv4 address keeps its dotted form
    if base = 0 ∧ len = 6 then ':' :: ':' :: dotted (a.setWidth 32)
    else if base = 0 ∧ len = 5 ∧ gs[5]? = some 65535 then
      "::ffff:".toList ++ dotted (a.setWidth 32)
    else hexGroups (gs.take base) ++ ':' :: ':' :: hexGroups (gs.drop (base + len))

theorem colon_mem_colonText (a : BitVec 128) : ':' ∈ colonText a := by
  unfold colonText
  dsimp only
  split
  · simp
  · split
    · simp
    · split
      · exact List.mem_append_left _ (by decide)
      · simp

theorem mem_toDigits_hex {p : Char → Prop} (hp : ∀ d, d < 16 → p (Nat.digitChar d)) (n : Nat) :
    ∀ c ∈ Nat.toDigits 16 n, p c := by
  induction n using Nat.strong_induction_on with
  | _ n ih =>
    intro c hc
    rw [Nat.toDigits_eq_if (by decide)] at hc
    split at hc
    · rename_i hlt
      rw [List.mem_singleton.mp hc]
      exact hp n hlt
    · rcases List.mem_append.mp hc with hc | hc
      · exact ih (n / 16) (by omega) c hc
      · rw [List.mem_singleton.mp hc]
        exact hp _ (Nat.mod_lt n (by decide))

theorem mem_intercalate {x : Char} {ls : List (List Char)} (h : c ∈ [x].intercalate ls) :
    c = x ∨ ∃ l ∈ ls, c ∈ l := by
  induction ls with
  | nil => simp [List.intercalate] at h
  | cons l ls ih =>
    cases ls with
    | nil => exact .inr ⟨l, by simp, by simpa [List.intercalate] using h⟩
    | cons l' ls =>
      rw [List.intercalate_cons_cons] at h
      simp only [List.mem_append, List.mem_singleton] at h
      rcases h with (h | h) | h
      · exact .inr ⟨l, by simp, h⟩
      · exact .inl h
      · rcases ih h with h | ⟨m, hm, h⟩
        · exact .inl h
        · exact .inr ⟨m, List.mem_cons_of_mem l hm, h⟩

theorem slash_not_mem_hexGroups (gs : List Nat) : '/' ∉ hexGroups gs := by
  intro h
  rcases mem_intercalate h with h | ⟨l, hl, h⟩
  · exact absurd h (by decide)
  · obtain ⟨n, _, rfl⟩ := List.mem_map.mp hl
    exact mem_toDigits_hex (p := fun c => c ≠ '/') (by decide) n '/' h rfl

theorem slash_not_mem_colonText (a : BitVec 128) : '/' ∉ colonText a := by
  have hd : ∀ b : BitVec 32, '/' ∉ dotted b := fun b => mem_dotted_ne (by decide) (by decide)
  have hp : '/' ∉ "::ffff:".toList := by decide
  unfold colonText
  dsimp only
  split
  · simp [slash_not_mem_hexGroups]
  · split
    · simp [hd]
    · split
      · intro h
        rcases List.mem_append.mp h with h | h
        · exact hp h
        · exact hd _ h
      · simp [slash_not_mem_hexGroups]

theorem parseDotted_chars {cs : List Char} (h : parseDotted cs = some a) :
    ∀ c ∈ cs, c.isDigit = true ∨ c = '.' := by
  intro c hc
  unfold parseDotted at h
  split at h
  · rename_i o₁ o₂ o₃ o₄ hm
    have hjoin : ['.'].intercalate (cs.splitOn '.') = cs := List.intercalate_splitOn '.'
    rw [← hjoin] at hc
    rcases mem_intercalate hc with hc | ⟨l, hl, hc⟩
    · exact .inr hc
    · obtain ⟨o, _, ho⟩ := exists_of_mapM_eq_some hm hl
      unfold parseField at ho
      split at ho
      · rename_i hcond
        exact .inl (List.all_eq_true.mp hcond.2.1 c hc)
      · cases ho
  · cases h

def host : Addr → String
  | .v4 a => String.ofList (dotted a)
  | .v6 a => String.ofList (colonText a)

def Cidr.text : Cidr → String
  | .v4 p => host (.v4 p.addr) ++ "/" ++ Nat.repr p.len
  | .v6 p => host (.v6 p.addr) ++ "/" ++ Nat.repr p.len

theorem host_v4_inj {b : Addr} (h : host (.v4 a) = host b) : b = .v4 a := by
  have hl : dotted a = (host b).toList := by rw [← h, host, String.toList_ofList]
  cases b with
  | v4 b =>
    rw [host, String.toList_ofList] at hl
    have hp : some a = some b := by rw [← parseDotted_dotted a, ← parseDotted_dotted b, hl]
    rw [Option.some.inj hp]
  | v6 b =>
    rw [host, String.toList_ofList] at hl
    have hc := colon_mem_colonText b
    rw [← hl] at hc
    exact absurd hc (mem_dotted_ne (by decide) (by decide))

def isHexDigit (c : Char) : Bool :=
  c.isDigit || ('a' ≤ c && c ≤ 'f') || ('A' ≤ c && c ≤ 'F')

def hexValue (c : Char) : Nat :=
  if c.isDigit then c.toNat - '0'.toNat
  else if 'a' ≤ c then c.toNat - 'a'.toNat + 10
  else c.toNat - 'A'.toNat + 10

/-- The loop of `netip.parseIPv6`: the groups so far, the position of `::`, and the rest. -/
def parseGroups : Nat → List Char → List Nat → Option Nat →
    Option (List Nat × Option Nat × List Char)
  | 0, cs, gs, ellipsis => some (gs, ellipsis, cs)
  | fuel + 1, cs, gs, ellipsis =>
    let ds := cs.takeWhile isHexDigit
    let value := ds.foldl (fun n c => n * 16 + hexValue c) 0
    if ds = [] ∨ 4 < ds.length then none
    else match cs.dropWhile isHexDigit with
      | [] => some (gs ++ [value], ellipsis, [])
      | '.' :: _ =>
        -- only a trailing IPv4 address may follow
        if (ellipsis = none ∧ gs.length ≠ 6) ∨ 6 < gs.length then none
        else (parseDotted cs).map fun a =>
          (gs ++ [a.toNat / 65536, a.toNat % 65536], ellipsis, [])
      | ':' :: [] => none
      | ':' :: ':' :: rest =>
        if ellipsis.isSome then none
        else if rest = [] then some (gs ++ [value], some (gs.length + 1), [])
        else parseGroups fuel rest (gs ++ [value]) (some (gs.length + 1))
      | ':' :: rest => parseGroups fuel rest (gs ++ [value]) ellipsis
      | _ :: _ => none

def parseColon (cs : List Char) : Option (BitVec 128) :=
  let start := match cs with
    | ':' :: ':' :: rest => if rest = [] then some ([], some 0, []) else parseGroups 8 rest [] (some 0)
    | _ => parseGroups 8 cs [] none
  match start with
  | some (gs, ellipsis, []) =>
    if gs.length < 8 then
      ellipsis.map fun e =>
        ofGroups (gs.take e ++ List.replicate (8 - gs.length) 0 ++ gs.drop e)
    else if ellipsis.isSome then none
    else some (ofGroups gs)
  | _ => none

/-- `netip.ParseAddr`; a zone is refused, as both callers do. -/
def parseAddr (cs : List Char) : Option Addr :=
  if '%' ∈ cs then none
  else match cs.find? fun c => c == '.' || c == ':' with
    | some '.' => (parseDotted cs).map .v4
    | some ':' => (parseColon cs).map .v6
    | _ => none

def cutSlash (cs : List Char) : List Char × Option (List Char) :=
  match cs.span (· ≠ '/') with
  | (a, []) => (a, none)
  | (a, _ :: m) => (a, some m)

/-- `net.ParseCIDR`: the address as written, and its network. -/
def parseCIDR (s : String) : Option (Addr × Cidr) :=
  match cutSlash s.toList with
  | (_, none) => none
  | (a, some m) =>
    match parseAddr a, dtoi m with
    | some (.v4 x), some n =>
      if h : n ≤ 32 then some (.v4 x, .v4 (Prefix.ofAddr x n h)) else none
    | some (.v6 x), some n =>
      if h : n ≤ 128 then some (.v6 x, .v6 (Prefix.ofAddr x n h)) else none
    | _, _ => none

def parseIP (s : String) : Option Addr := parseAddr s.toList

theorem cutSlash_append {a m : List Char} (h : '/' ∉ a) : cutSlash (a ++ '/' :: m) = (a, some m) := by
  have hall : ∀ c ∈ a, (decide (c ≠ '/')) = true := by
    intro c hc
    simp only [decide_eq_true_eq]
    rintro rfl
    exact h hc
  unfold cutSlash
  rw [List.span_eq_takeWhile_dropWhile, List.takeWhile_append_of_pos hall,
    List.dropWhile_append_of_pos hall]
  simp

end Outpost
