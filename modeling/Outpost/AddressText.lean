import Mathlib.Data.List.TakeWhile
import Outpost.Address

/-!
# Address texts determine addresses

PostgreSQL's `host` text of an IPv6 address elides its longest run of zero groups and keeps an
embedded IPv4 address dotted. Cutting the text at its colons gives the groups back.
-/

namespace Outpost

theorem intercalate_append {x : Char} {ls ms : List (List Char)} (hl : ls ≠ []) (hm : ms ≠ []) :
    [x].intercalate (ls ++ ms) = [x].intercalate ls ++ x :: [x].intercalate ms := by
  induction ls with
  | nil => exact absurd rfl hl
  | cons l ls ih =>
    cases ls with
    | nil =>
      obtain ⟨m, ms, rfl⟩ := List.exists_cons_of_ne_nil hm
      simp [List.intercalate]
    | cons l' ls =>
      rw [List.cons_append, List.cons_append, List.intercalate_cons_cons, ← List.cons_append, ih (by simp)]
      simp

def elided (front back : List (List Char)) : List (List Char) :=
  (if front = [] then [[]] else front) ++ [] :: (if back = [] then [[]] else back)

theorem intercalate_elided (front back : List (List Char)) :
    [':'].intercalate (elided front back) =
      [':'].intercalate front ++ ':' :: ':' :: [':'].intercalate back := by
  have hend : ∀ ls : List (List Char),
      [':'].intercalate (if ls = [] then [[]] else ls) = [':'].intercalate ls := by
    intro ls
    split
    · rename_i h
      rw [h]
      rfl
    · rfl
  have hne : ∀ ls : List (List Char), (if ls = [] then [[]] else ls) ≠ [] := by
    intro ls
    split
    · simp
    · assumption
  have hgap : [':'].intercalate ([] :: if back = [] then [[]] else back) =
      ':' :: [':'].intercalate back := by
    rw [← List.singleton_append (x := []), intercalate_append (by simp) (hne back), hend]
    rfl
  unfold elided
  rw [intercalate_append (hne front) (by simp), hend, hgap]

variable {front back : List (List Char)} {gs : List Nat} {base len : Nat}

theorem splitOn_elided (hf : ∀ l ∈ front, ':' ∉ l) (hb : ∀ l ∈ back, ':' ∉ l) :
    ([':'].intercalate front ++ ':' :: ':' :: [':'].intercalate back).splitOn ':' =
      elided front back := by
  rw [← intercalate_elided]
  apply List.splitOn_intercalate
  · intro l hl
    rcases List.mem_append.mp hl with hl | hl
    · split at hl
      · simp [List.mem_singleton.mp hl]
      · exact hf l hl
    · rcases List.mem_cons.mp hl with rfl | hl
      · simp
      · split at hl
        · simp [List.mem_singleton.mp hl]
        · exact hb l hl
  · simp [elided]

def pieceGroups (cs : List Char) : List Nat :=
  if '.' ∈ cs then
    match parseDotted cs with
    | some a => [a.toNat / 65536, a.toNat % 65536]
    | none => []
  else [cs.foldl (fun n c => n * 16 + hexValue c) 0]

def expand (pieces : List (List Char)) : List Nat :=
  if [] ∈ pieces then
    let front := (pieces.takeWhile (· ≠ [])).flatMap pieceGroups
    let back := (pieces.reverse.takeWhile (· ≠ [])).reverse.flatMap pieceGroups
    front ++ List.replicate (8 - front.length - back.length) 0 ++ back
  else pieces.flatMap pieceGroups

theorem takeWhile_elided (hf : ∀ l ∈ front, l ≠ []) (rest : List (List Char)) :
    ((if front = [] then [[]] else front) ++ [] :: rest).takeWhile (· ≠ []) = front := by
  split
  · rename_i h
    rw [h]
    rfl
  · rw [List.takeWhile_append_of_pos (fun l hl => by simpa using hf l hl)]
    simp

theorem reverse_elided (front back : List (List Char)) :
    (elided front back).reverse = elided back.reverse front.reverse := by
  have hend : ∀ ls : List (List Char),
      (if ls = [] then [[]] else ls).reverse = if ls.reverse = [] then [[]] else ls.reverse := by
    intro ls
    by_cases h : ls = []
    · simp [h]
    · simp [h]
  unfold elided
  rw [List.reverse_append, List.reverse_cons, hend, hend, List.append_assoc, List.singleton_append]

theorem expand_elided (hf : ∀ l ∈ front, l ≠ []) (hb : ∀ l ∈ back, l ≠ []) :
    expand (elided front back) = front.flatMap pieceGroups ++
      List.replicate (8 - (front.flatMap pieceGroups).length - (back.flatMap pieceGroups).length) 0 ++
        back.flatMap pieceGroups := by
  have hmem : [] ∈ elided front back := by simp [elided]
  have hfront : (elided front back).takeWhile (· ≠ []) = front := takeWhile_elided hf _
  have hback : (elided front back).reverse.takeWhile (· ≠ []) = back.reverse := by
    rw [reverse_elided]
    exact takeWhile_elided (fun l hl => hb l (List.mem_reverse.mp hl)) _
  unfold expand
  rw [if_pos hmem, hfront, hback, List.reverse_reverse]

theorem hexValue_toDigits (n : Nat) :
    (Nat.toDigits 16 n).foldl (fun m c => m * 16 + hexValue c) 0 = n := by
  have hdigit : ∀ d, d < 16 → hexValue (Nat.digitChar d) = d := by decide
  induction n using Nat.strong_induction_on with
  | _ n ih =>
    rw [Nat.toDigits_eq_if (by decide)]
    split
    · rename_i hlt
      simp [hdigit n hlt]
    · rw [List.foldl_append, ih (n / 16) (by omega)]
      simp only [List.foldl_cons, List.foldl_nil, hdigit _ (Nat.mod_lt n (by decide))]
      omega

theorem pieceGroups_toDigits (n : Nat) : pieceGroups (Nat.toDigits 16 n) = [n] := by
  have hdot : '.' ∉ Nat.toDigits 16 n :=
    fun h => mem_toDigits_hex (p := fun c => c ≠ '.') (by decide) n '.' h rfl
  rw [pieceGroups, if_neg hdot, hexValue_toDigits]

theorem flatMap_toDigits (gs : List Nat) : (gs.map (Nat.toDigits 16)).flatMap pieceGroups = gs := by
  induction gs with
  | nil => rfl
  | cons g gs ih => rw [List.map_cons, List.flatMap_cons, pieceGroups_toDigits, ih,
      List.singleton_append]

theorem hex_no_colon (gs : List Nat) : ∀ l ∈ gs.map (Nat.toDigits 16), ':' ∉ l := by
  intro l hl hc
  obtain ⟨n, _, rfl⟩ := List.mem_map.mp hl
  exact mem_toDigits_hex (p := fun c => c ≠ ':') (by decide) n ':' hc rfl

theorem hex_ne_nil (gs : List Nat) : ∀ l ∈ gs.map (Nat.toDigits 16), l ≠ [] := by
  intro l hl
  obtain ⟨n, _, rfl⟩ := List.mem_map.mp hl
  exact Nat.toDigits_ne_nil

theorem dot_mem_dotted (a : BitVec 32) : '.' ∈ dotted a := by
  simp [dotted, octets]

theorem pieceGroups_dotted (a : BitVec 32) :
    pieceGroups (dotted a) = [a.toNat / 65536, a.toNat % 65536] := by
  rw [pieceGroups, if_pos (dot_mem_dotted a), parseDotted_dotted]

theorem zeroRun_spec (h : zeroRun gs = some (base, len)) :
    (gs.drop base).take len = List.replicate len 0 := by
  let runAt := fun i => ((gs.drop i).takeWhile (· == 0)).length
  -- the running best is always a run of the list, or still empty
  have hbest : ∀ (is : List Nat) (best : Nat × Nat), (best.2 = 0 ∨ best.2 = runAt best.1) →
      let r := is.foldl (fun best i => if best.2 < runAt i then (i, runAt i) else best) best
      r.2 = 0 ∨ r.2 = runAt r.1 := by
    intro is
    induction is with
    | nil => exact fun _ hb => hb
    | cons i is ih =>
      intro best hb
      apply ih
      dsimp only
      split
      · exact .inr rfl
      · exact hb
  have hr := hbest (List.range 8) (0, 0) (.inl rfl)
  unfold zeroRun at h
  dsimp only at h
  split at h
  · cases h
  · rename_i hlong
    rw [Option.some.inj h] at hr hlong
    rcases hr with hr | hr
    · omega
    · have htake : (gs.drop base).take len = (gs.drop base).takeWhile (· == 0) := by
        rw [show len = runAt base from hr]
        exact (List.prefix_iff_eq_take.mp (List.takeWhile_prefix _)).symm
      rw [htake, List.eq_replicate_iff]
      refine ⟨hr.symm, ?_⟩
      intro g hg
      simpa using List.mem_takeWhile_imp hg

theorem zeroRun_bound (h : zeroRun gs = some (base, len)) : base + len ≤ gs.length := by
  have hspec := congrArg List.length (zeroRun_spec h)
  have hlong : 2 ≤ len := by
    unfold zeroRun at h
    dsimp only at h
    split at h
    · cases h
    · rename_i hlong
      rw [Option.some.inj h] at hlong
      exact Nat.le_of_not_lt hlong
  simp only [List.length_take, List.length_drop, List.length_replicate] at hspec
  omega

theorem groups_length (a : BitVec 128) : (groups a).length = 8 := by
  simp [groups]

theorem groups_elided (h : zeroRun gs = some (base, len)) :
    gs = gs.take base ++ List.replicate len 0 ++ gs.drop (base + len) := by
  rw [← zeroRun_spec h, ← List.drop_drop, List.append_assoc, List.take_append_drop,
    List.take_append_drop]

theorem expand_text (front back : List (List Char)) (len : Nat)
    (hf : ∀ l ∈ front, ':' ∉ l ∧ l ≠ []) (hb : ∀ l ∈ back, ':' ∉ l ∧ l ≠ [])
    (hlen : (front.flatMap pieceGroups).length + len + (back.flatMap pieceGroups).length = 8) :
    expand (([':'].intercalate front ++ ':' :: ':' :: [':'].intercalate back).splitOn ':') =
      front.flatMap pieceGroups ++ List.replicate len 0 ++ back.flatMap pieceGroups := by
  rw [splitOn_elided (fun l hl => (hf l hl).1) (fun l hl => (hb l hl).1),
    expand_elided (fun l hl => (hf l hl).2) (fun l hl => (hb l hl).2)]
  have hcount : 8 - (front.flatMap pieceGroups).length - (back.flatMap pieceGroups).length = len := by
    omega
  rw [hcount]

theorem groups_low (a : BitVec 128) : pieceGroups (dotted (a.setWidth 32)) = (groups a).drop 6 := by
  have hsplit : (groups a).drop 6 = [a.toNat / 65536 % 65536, a.toNat % 65536] := by
    simp [groups, List.range, List.range.loop]
  have hhigh : a.toNat % 2 ^ 32 / 65536 = a.toNat / 65536 % 65536 := by omega
  have hlow : a.toNat % 2 ^ 32 % 65536 = a.toNat % 65536 := by omega
  rw [pieceGroups_dotted, hsplit, BitVec.toNat_setWidth, hhigh, hlow]

theorem expand_colonText (a : BitVec 128) : expand ((colonText a).splitOn ':') = groups a := by
  have hlen := groups_length a
  have hhex : ∀ gs : List Nat, ∀ l ∈ gs.map (Nat.toDigits 16), ':' ∉ l ∧ l ≠ [] :=
    fun gs l hl => ⟨hex_no_colon gs l hl, hex_ne_nil gs l hl⟩
  have hdotted : ':' ∉ dotted (a.setWidth 32) ∧ dotted (a.setWidth 32) ≠ [] :=
    ⟨mem_dotted_ne (by decide) (by decide), List.ne_nil_of_mem (dot_mem_dotted _)⟩
  unfold colonText
  dsimp only
  split
  · -- no run is elided: all eight groups are written
    have hne : ∀ gs : List Nat, 0 < gs.length → gs.map (Nat.toDigits 16) ≠ [] := by
      intro gs hpos h
      rw [List.map_eq_nil_iff.mp h] at hpos
      exact Nat.lt_irrefl 0 hpos
    have hjoin : hexGroups ((groups a).take 1) ++ ':' :: hexGroups ((groups a).drop 1) =
        [':'].intercalate ((groups a).map (Nat.toDigits 16)) := by
      unfold hexGroups
      rw [← intercalate_append (hne _ (by simp [hlen])) (hne _ (by simp [hlen])),
        ← List.map_append, List.take_append_drop]
    rw [hjoin, List.splitOn_intercalate ':' (hex_no_colon _) (hne _ (by simp [hlen]))]
    unfold expand
    rw [if_neg (fun hnil => hex_ne_nil _ [] hnil rfl), flatMap_toDigits]
  · rename_i base len hrun
    have hgroups := groups_elided hrun
    have hbound := zeroRun_bound hrun
    split
    · rename_i hcase
      obtain ⟨rfl, rfl⟩ := hcase
      have h := expand_text [] [dotted (a.setWidth 32)] 6 (by simp) (by simpa using hdotted)
        (by simp [groups_low, hlen])
      simp only [List.flatMap_cons, groups_low] at h
      rw [hgroups]
      simpa [List.intercalate] using h
    · split
      · rename_i hcase
        obtain ⟨rfl, rfl, hmapped⟩ := hcase
        have hback : [Nat.toDigits 16 65535, dotted (a.setWidth 32)].flatMap pieceGroups =
            (groups a).drop 5 := by
          rw [List.drop_eq_getElem?_toList_append, hmapped, List.flatMap_cons,
            List.flatMap_singleton, groups_low]
          rfl
        have h := expand_text [] [Nat.toDigits 16 65535, dotted (a.setWidth 32)] 5 (by simp)
          (by simpa [hdotted] using hex_no_colon [65535]) (by rw [hback]; simp [hlen])
        have hffff : Nat.toDigits 16 65535 = "ffff".toList := by decide
        rw [hback, hffff] at h
        rw [hgroups]
        simpa [List.intercalate] using h
      · have hcount : ((groups a).take base).length + len + ((groups a).drop (base + len)).length =
            8 := by
          rw [List.length_take, List.length_drop]
          omega
        have h := expand_text _ _ len (hhex ((groups a).take base))
          (hhex ((groups a).drop (base + len))) (by rw [flatMap_toDigits, flatMap_toDigits, hcount])
        rw [flatMap_toDigits, flatMap_toDigits, ← hgroups] at h
        exact h

theorem ofGroups_groups (a : BitVec 128) : ofGroups (groups a) = a := by
  apply BitVec.eq_of_toNat_eq
  simp only [ofGroups, groups, List.range, List.range.loop, List.map_cons, List.map_nil,
    List.foldl_cons, List.foldl_nil, BitVec.toNat_ofNat]
  omega

theorem colonText_injective {a b : BitVec 128} (h : colonText a = colonText b) : a = b := by
  rw [← ofGroups_groups a, ← ofGroups_groups b, ← expand_colonText a, ← expand_colonText b, h]

theorem host_injective : Function.Injective host := by
  intro a b h
  cases a with
  | v4 a => exact (host_v4_inj h).symm
  | v6 a =>
    cases b with
    | v4 b => exact host_v4_inj h.symm
    | v6 b => rw [colonText_injective (String.ofList_injective h)]

end Outpost
