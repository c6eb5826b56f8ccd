import Outpost.RefreshedTokens
import Outpost.Shared.Base64

/-!
# The spellings of a token

A token is three segments of base64 text. Of the signature only the bytes count, and the decoder
is not strict; the blacklist goes by the hash of the whole text.
-/

namespace Outpost.TokenSpelling

open Base64 Interleaving Prog AuthHandler RefreshedTokens

def cutLast : List Char → Option (List Char × List Char)
  | [] => none
  | c :: cs =>
    match cutLast cs with
    | some (before, after) => some (c :: before, after)
    | none => if c = '.' then some ([], cs) else none

variable {cs after : List Char}

theorem cutLast_eq_none : cutLast cs = none ↔ '.' ∉ cs := by
  induction cs with
  | nil => simp [cutLast]
  | cons c cs ih =>
    unfold cutLast
    cases hcut : cutLast cs with
    | some parts =>
      have hdot : '.' ∈ cs := by simpa [hcut] using ih
      simp [hdot]
    | none =>
      have hrest := ih.mp hcut
      by_cases hdot : c = '.' <;> simp [hrest, eq_comm]

theorem append_of_cutLast {before : List Char} (h : cutLast cs = some (before, after)) :
    cs = before ++ '.' :: after := by
  induction cs generalizing before with
  | nil => cases h
  | cons c cs ih =>
    unfold cutLast at h
    split at h
    · rename_i before' after' hcut
      cases h
      rw [ih hcut]
      rfl
    · split at h
      · rename_i hdot
        cases h
        rw [hdot]
        rfl
      · cases h

theorem cutLast_append (before : List Char) (h : '.' ∉ after) :
    cutLast (before ++ '.' :: after) = some (before, after) := by
  induction before with
  | nil => simp [cutLast, cutLast_eq_none.mpr h]
  | cons c before ih => simp [cutLast, ih]

def segment (bytes : List UInt8) : String := String.ofList (url.encodeRaw bytes)

def decodeSegment (text : String) : Option (List UInt8) := url.decodeRaw text.toList

theorem decodeSegment_segment (bytes : List UInt8) :
    decodeSegment (segment bytes) = some bytes := by
  rw [decodeSegment, segment, String.toList_ofList]
  exact Alphabet.decodeRaw_encodeRaw bytes

theorem url_ne_dot : ∀ x, url.char x ≠ '.' := by decide +kernel

theorem dot_notMem_segment (bytes : List UInt8) : '.' ∉ (segment bytes).toList := by
  rw [segment, String.toList_ofList]
  intro hmem
  obtain ⟨x, _, hx⟩ := List.mem_map.mp hmem
  exact url_ne_dot x hx

def cut (raw : String) : Option (String × String) :=
  (cutLast raw.toList).map fun (before, after) => (String.ofList before, String.ofList after)

def joinDot (before after : String) : String := before ++ "." ++ after

theorem toList_joinDot (before after : String) :
    (joinDot before after).toList = before.toList ++ '.' :: after.toList := by
  simp [joinDot]

theorem cut_joinDot (before : String) {after : String} (h : '.' ∉ after.toList) :
    cut (joinDot before after) = some (before, after) := by
  rw [cut, toList_joinDot, cutLast_append _ h]
  simp

theorem joinDot_of_cut {raw before after : String} (h : cut raw = some (before, after)) :
    raw = joinDot before after := by
  obtain ⟨⟨before', after'⟩, hcut, hparts⟩ := Option.map_eq_some_iff.mp h
  obtain ⟨rfl, rfl⟩ := Prod.mk.inj hparts
  apply String.toList_injective
  rw [toList_joinDot, String.toList_ofList, String.toList_ofList]
  exact append_of_cutLast hcut

structure Codec where
  header : List UInt8
  claimBytes : TokenClaims → List UInt8
  method : List UInt8 → Option SigningMethod
  claims : List UInt8 → Option TokenClaims
  mac : Hash → String → String → List UInt8
  method_header : method header = some (.hmac .sha256)
  claims_claimBytes : ∀ c, claims (claimBytes c) = some c

namespace Codec

variable (codec : Codec)

def encode (c : TokenClaims) : String :=
  joinDot (segment codec.header) (segment (codec.claimBytes c))

def decode (text : String) : Option (SigningMethod × TokenClaims) := do
  let (header, payload) ← cut text
  let method ← codec.method (← decodeSegment header)
  let claims ← codec.claims (← decodeSegment payload)
  return (method, claims)

def join (text : String) (signature : List UInt8) : String := joinDot text (segment signature)

def split (raw : String) : Option (String × List UInt8) := do
  let (text, last) ← cut raw
  let signature ← decodeSegment last
  return (text, signature)

theorem decode_encode (c : TokenClaims) :
    codec.decode (codec.encode c) = some (.hmac .sha256, c) := by
  simp [decode, encode, cut_joinDot _ (dot_notMem_segment _), decodeSegment_segment,
    codec.method_header, codec.claims_claimBytes]

theorem split_join (text : String) (signature : List UInt8) :
    split (join text signature) = some (text, signature) := by
  simp [split, join, cut_joinDot _ (dot_notMem_segment _), decodeSegment_segment]

def jwt : Jwt where
  encode := codec.encode
  decode := codec.decode
  mac := codec.mac
  join := join
  split := split
  decode_encode := codec.decode_encode
  split_join := split_join

def decoded (raw : String) : Option (SigningMethod × TokenClaims × List UInt8) := do
  let (text, signature) ← split raw
  let (method, claims) ← codec.decode text
  return (method, claims, signature)

end Codec

def signedPart (raw : String) : String := ((cut raw).map Prod.fst).getD ""

def signaturePart (raw : String) : String := ((cut raw).map Prod.snd).getD ""

section Parts

variable {codec : Codec} {secret raw : String} {c : TokenClaims}

theorem parts_of_cut {before after : String} (h : cut raw = some (before, after)) :
    signedPart raw = before ∧ signaturePart raw = after := by
  simp [signedPart, signaturePart, h]

theorem parts_of_verify (h : codec.jwt.verify secret raw = some c) :
    ∃ hash signature, raw = joinDot (signedPart raw) (signaturePart raw) ∧
      decodeSegment (signaturePart raw) = some signature ∧
      codec.decoded raw = some (.hmac hash, c, signature) ∧
      codec.mac hash secret (signedPart raw) = signature := by
  unfold Jwt.verify at h
  split at h
  · cases h
  rename_i text signature hsplit
  split at h
  · rename_i hash claims hdecode
    obtain ⟨hmac, hclaims⟩ := (Option.ite_none_right_eq_some ..).mp h
    obtain rfl := Option.some.inj hclaims
    obtain ⟨⟨before, after⟩, hcut, hsegment⟩ := Option.bind_eq_some_iff.mp hsplit
    obtain ⟨signature', hdecoded, hparts⟩ := Option.bind_eq_some_iff.mp hsegment
    obtain ⟨rfl, rfl⟩ := Prod.mk.inj (Option.some.inj hparts)
    obtain ⟨hbefore, hafter⟩ := parts_of_cut hcut
    rw [hbefore, hafter]
    refine ⟨hash, signature', joinDot_of_cut hcut, hdecoded, ?_, hmac⟩
    change codec.decode before = _ at hdecode
    change Codec.split raw = _ at hsplit
    simp [Codec.decoded, hsplit, hdecode]
  · cases h

theorem ne_empty_of_verify (h : codec.jwt.verify secret raw = some c) : raw ≠ "" := by
  obtain ⟨_, _, hraw, _⟩ := parts_of_verify h
  intro heq
  rw [heq] at hraw
  have hlist := congrArg String.toList hraw
  rw [toList_joinDot] at hlist
  simp at hlist

end Parts

section Revocation

variable {codec : Codec} {env : AuthEnv} {w : World} {raw raw' : String} {c : TokenClaims}

theorem logout_leaves (hraw : raw ≠ "")
    (hvalid : validateToken env.jwt env.jwtSecret raw w.now = some c) :
    (logout env ("Bearer " ++ raw)).alone w =
      ({ w with tables := revoked env w.tables raw c.expiresAt }, .ok "ok") := by
  cases he : c.expiresAt with
  | some e => exact logout_alone hraw hvalid he
  | none =>
    unfold logout
    rw [bearer_filter rfl hraw]
    simp [validate, timeNow, hvalid, blacklist, he, revoked]

theorem jwtMiddleware_accepts_iff
    (hvalid : validateToken env.jwt env.jwtSecret raw w.now = some c) :
    (∃ c', (jwtMiddleware env ("Bearer " ++ raw)).alone w = (w, .ok c')) ↔
      c.tokenType ≠ "mfa" ∧ ¬ w.tables.isBlacklisted (env.hashToken raw) = true := by
  by_cases htype : c.tokenType = "mfa"
  · have hrefused : (jwtMiddleware env ("Bearer " ++ raw)).alone w =
        (w, .error ⟨401, "mfa verification required"⟩) := by
      simp [jwtMiddleware, bearer_append, validate, timeNow, hvalid, htype]
    simp [hrefused, htype]
  · rw [jwtMiddleware_passes_iff hvalid htype]
    exact (and_iff_right htype).symm

structure Alike (codec : Codec) (env : AuthEnv) (w : World) (raw raw' : String)
    (c : TokenClaims) : Prop where
  jwt : env.jwt = codec.jwt
  accepted : validateToken env.jwt env.jwtSecret raw w.now = some c
  accepted' : validateToken env.jwt env.jwtSecret raw' w.now = some c
  decoded : codec.decoded raw = codec.decoded raw'
  mac : ∀ hash, codec.mac hash env.jwtSecret (signedPart raw) =
    codec.mac hash env.jwtSecret (signedPart raw') → signedPart raw = signedPart raw'
  hash : env.hashToken raw = env.hashToken raw' → raw = raw'

theorem Alike.parts (h : Alike codec env w raw raw' c) :
    ∃ signature, decodeSegment (signaturePart raw) = some signature ∧
      decodeSegment (signaturePart raw') = some signature ∧
      raw = joinDot (signedPart raw) (signaturePart raw) ∧
      raw' = joinDot (signedPart raw) (signaturePart raw') := by
  have hverify := (validateToken_eq_some.mp h.accepted).1
  have hverify' := (validateToken_eq_some.mp h.accepted').1
  rw [h.jwt] at hverify hverify'
  obtain ⟨hash, signature, hraw, hlast, hdecoded, hmac⟩ := parts_of_verify hverify
  obtain ⟨hash', signature', hraw', hlast', hdecoded', hmac'⟩ := parts_of_verify hverify'
  have hsame := Option.some.inj (hdecoded.symm.trans (h.decoded.trans hdecoded'))
  obtain ⟨hmethod, hrest⟩ := Prod.mk.inj hsame
  obtain rfl := SigningMethod.hmac.inj hmethod
  obtain ⟨_, rfl⟩ := Prod.mk.inj hrest
  rw [← h.mac hash (hmac.trans hmac'.symm)] at hraw'
  exact ⟨signature, hlast, hlast', hraw, hraw'⟩

theorem Alike.eq_iff (h : Alike codec env w raw raw' c) :
    raw = raw' ↔ signaturePart raw = signaturePart raw' := by
  constructor
  · intro heq
    rw [heq]
  · intro heq
    obtain ⟨_, _, _, hraw, hraw'⟩ := h.parts
    calc raw = joinDot (signedPart raw) (signaturePart raw) := hraw
      _ = joinDot (signedPart raw) (signaturePart raw') := by rw [heq]
      _ = raw' := hraw'.symm

theorem Alike.hash_eq_iff (h : Alike codec env w raw raw' c) :
    env.hashToken raw = env.hashToken raw' ↔ signaturePart raw = signaturePart raw' := by
  rw [← h.eq_iff]
  exact ⟨h.hash, congrArg env.hashToken⟩

theorem Alike.logout_accepts_iff (h : Alike codec env w raw raw' c) :
    ∃ w', (logout env ("Bearer " ++ raw)).alone w = (w', .ok "ok") ∧
      ((∃ c', (jwtMiddleware env ("Bearer " ++ raw')).alone w' = (w', .ok c')) ↔
        c.tokenType ≠ "mfa" ∧ ¬ w.Lists (env.hashToken raw') ∧
          (c.expiresAt ≠ none → signaturePart raw ≠ signaturePart raw')) := by
  have hverify := (validateToken_eq_some.mp h.accepted).1
  rw [h.jwt] at hverify
  refine ⟨_, logout_leaves (ne_empty_of_verify hverify) h.accepted, ?_⟩
  have hvalid : validateToken env.jwt env.jwtSecret raw'
      ({ w with tables := revoked env w.tables raw c.expiresAt } : World).now = some c :=
    h.accepted'
  rw [jwtMiddleware_accepts_iff hvalid, isBlacklisted_revoked, AuthTables.isBlacklisted_eq_true,
    not_or, not_and, ne_eq (signaturePart raw), ← h.hash_eq_iff, eq_comm (a := env.hashToken raw)]
  rfl

/-- Two texts of a token are listed together exactly when their signatures have the same text, and a
logout with one keeps the other out exactly then, if the token expires. -/
theorem revoked_alike_iff (h : Alike codec env w raw raw' c) :
    ((∀ t : AuthTables, t.isBlacklisted (env.hashToken raw) =
        t.isBlacklisted (env.hashToken raw')) ↔ signaturePart raw = signaturePart raw') ∧
      ∃ w', (logout env ("Bearer " ++ raw)).alone w = (w', .ok "ok") ∧
        ((∃ c', (jwtMiddleware env ("Bearer " ++ raw')).alone w' = (w', .ok c')) ↔
          c.tokenType ≠ "mfa" ∧ ¬ w.Lists (env.hashToken raw') ∧
            (c.expiresAt ≠ none → signaturePart raw ≠ signaturePart raw')) := by
  refine ⟨?_, h.logout_accepts_iff⟩
  rw [← h.hash_eq_iff]
  constructor
  · intro hall
    have hlisted := hall (({ w.tables with blacklist := [] } : AuthTables).addBlacklist
      ⟨env.hashToken raw, 0⟩)
    simpa [AuthTables.addBlacklist, AuthTables.isBlacklisted] using hlisted
  · intro heq t
    rw [heq]

def Strict (raw : String) : Prop := ∃ signature, signaturePart raw = segment signature

theorem Alike.eq_of_strict (h : Alike codec env w raw raw' c) (hstrict : Strict raw)
    (hstrict' : Strict raw') : raw = raw' := by
  obtain ⟨signature, hlast, hlast', _, _⟩ := h.parts
  have hwritten : ∀ s, Strict s → decodeSegment (signaturePart s) = some signature →
      signaturePart s = segment signature := by
    intro s hs hdecode
    obtain ⟨bytes, hbytes⟩ := hs
    rw [hbytes, decodeSegment_segment] at hdecode
    rw [hbytes, Option.some.inj hdecode]
  exact h.eq_iff.mpr ((hwritten raw hstrict hlast).trans (hwritten raw' hstrict' hlast').symm)

end Revocation

def respell (text : String) : String :=
  match text.toList.getLast?.bind url.sextet with
  | none => text
  | some x => String.ofList (text.toList.dropLast ++ [url.char (flipLow x)])

theorem respell_concat (xs : List (Fin 64)) (x : Fin 64) :
    respell (String.ofList ((xs ++ [x]).map url.char)) =
      String.ofList ((xs ++ [flipLow x]).map url.char) := by
  simp [respell]

theorem respell_segment {bytes : List UInt8} (h : bytes.length % 3 ≠ 0) :
    decodeSegment (respell (segment bytes)) = some bytes ∧
      respell (segment bytes) ≠ segment bytes ∧ '.' ∉ (respell (segment bytes)).toList := by
  have hlength := unpack_length (unpack_pack bytes)
  have hnonempty : pack bytes ≠ [] := by
    intro heq
    rw [heq, List.length_nil] at hlength
    omega
  obtain ⟨xs, x, hpack⟩ := (List.eq_nil_or_concat' _).resolve_left hnonempty
  have hunpack : unpack (xs ++ [x]) = some bytes := hpack ▸ unpack_pack bytes
  have htext : respell (segment bytes) = String.ofList ((xs ++ [flipLow x]).map url.char) := by
    rw [← respell_concat, segment, Alphabet.encodeRaw, hpack]
  refine ⟨?_, ?_, ?_⟩
  · rw [htext, decodeSegment, String.toList_ofList]
    exact Alphabet.decodeRaw_eq_some.mpr ⟨_, unpack_flipLow hunpack h,
      Alphabet.withoutBreaks_chars _⟩
  · intro heq
    rw [htext, segment, Alphabet.encodeRaw, hpack, String.ofList_inj,
      (List.map_injective_iff.mpr url.injective).eq_iff, List.append_singleton_inj] at heq
    exact flipLow_ne x heq.2
  · rw [htext, String.toList_ofList]
    intro hmem
    obtain ⟨x, _, hx⟩ := List.mem_map.mp hmem
    exact url_ne_dot x hx

section Issued

variable {codec : Codec} {env : AuthEnv} {w : World} {c : TokenClaims}

def respelled (codec : Codec) (secret : String) (c : TokenClaims) : String :=
  joinDot (codec.encode c) (respell (segment (codec.mac .sha256 secret (codec.encode c))))

theorem verify_joinDot {secret last : String} (hdot : '.' ∉ last.toList)
    (hlast : decodeSegment last = some (codec.mac .sha256 secret (codec.encode c))) :
    codec.jwt.verify secret (joinDot (codec.encode c) last) = some c ∧
      codec.decoded (joinDot (codec.encode c) last) =
        some (.hmac .sha256, c, codec.mac .sha256 secret (codec.encode c)) := by
  have hsplit : Codec.split (joinDot (codec.encode c) last) =
      some (codec.encode c, codec.mac .sha256 secret (codec.encode c)) := by
    simp [Codec.split, cut_joinDot _ hdot, hlast]
  have hdecode := codec.decode_encode c
  constructor
  · simp [Jwt.verify, Codec.jwt, hsplit, hdecode]
  · simp [Codec.decoded, hsplit, hdecode]

theorem parts_joinDot {before after : String} (hdot : '.' ∉ after.toList) :
    signedPart (joinDot before after) = before ∧ signaturePart (joinDot before after) = after :=
  parts_of_cut (cut_joinDot before hdot)

theorem alike_issued {last last' : String} (henv : env.jwt = codec.jwt)
    (hdot : '.' ∉ last.toList) (hdot' : '.' ∉ last'.toList)
    (hlast : decodeSegment last = some (codec.mac .sha256 env.jwtSecret (codec.encode c)))
    (hlast' : decodeSegment last' = some (codec.mac .sha256 env.jwtSecret (codec.encode c)))
    (htimely : c.Timely w.now) (hhash : Function.Injective env.hashToken) :
    Alike codec env w (joinDot (codec.encode c) last) (joinDot (codec.encode c) last') c where
  jwt := henv
  accepted := by
    rw [henv]
    exact validateToken_eq_some.mpr ⟨(verify_joinDot hdot hlast).1, htimely⟩
  accepted' := by
    rw [henv]
    exact validateToken_eq_some.mpr ⟨(verify_joinDot hdot' hlast').1, htimely⟩
  decoded := (verify_joinDot hdot hlast).2.trans (verify_joinDot hdot' hlast').2.symm
  mac := by
    intro _ _
    rw [(parts_joinDot hdot).1, (parts_joinDot hdot').1]
  hash := fun heq => hhash heq

theorem respelled_survives (henv : env.jwt = codec.jwt)
    (hspare : (codec.mac .sha256 env.jwtSecret (codec.encode c)).length % 3 ≠ 0)
    (htimely : c.Timely w.now) (hhash : Function.Injective env.hashToken)
    (htype : c.tokenType ≠ "mfa") (hunlisted : ¬ w.Lists (env.hashToken
      (respelled codec env.jwtSecret c))) :
    Alike codec env w (codec.jwt.sign env.jwtSecret c) (respelled codec env.jwtSecret c) c ∧
      ∃ w' c',
        (logout env ("Bearer " ++ codec.jwt.sign env.jwtSecret c)).alone w = (w', .ok "ok") ∧
        (jwtMiddleware env ("Bearer " ++ respelled codec env.jwtSecret c)).alone w' =
          (w', .ok c') := by
  obtain ⟨hlast', hne, hdot'⟩ := respell_segment hspare
  have hdot := dot_notMem_segment (codec.mac .sha256 env.jwtSecret (codec.encode c))
  have halike : Alike codec env w (codec.jwt.sign env.jwtSecret c)
      (respelled codec env.jwtSecret c) c :=
    alike_issued henv hdot hdot' (decodeSegment_segment _) hlast' htimely hhash
  have hparts : signaturePart (codec.jwt.sign env.jwtSecret c) ≠
      signaturePart (respelled codec env.jwtSecret c) := by
    intro heq
    exact hne ((parts_joinDot hdot').2.symm.trans (heq.symm.trans (parts_joinDot hdot).2))
  obtain ⟨w', hlogout, haccepts⟩ := halike.logout_accepts_iff
  obtain ⟨c', hc'⟩ := haccepts.mpr ⟨htype, hunlisted, fun _ => hparts⟩
  exact ⟨halike, w', c', hlogout, hc'⟩

end Issued

open SessionProvenance TokenRevocation

def headerText : String := "\x7b\"alg\":\"HS256\",\"typ\":\"JWT\"\x7d"

def sampleCodec : Codec where
  header := headerText.toUTF8.data.toList
  claimBytes c := List.replicate (claimsCode c) 0
  method bytes := if bytes = headerText.toUTF8.data.toList then some (.hmac .sha256) else none
  claims bytes := claimsOfCode bytes.length
  mac _ secret text := ((secret ++ text).toUTF8.data.toList ++ List.replicate 32 0).take 32
  method_header := if_pos rfl
  claims_claimBytes := by
    intro c
    simp [claimsCode, claimsOfCode]

def spellingEnv : AuthEnv := { sampleEnv with jwt := sampleCodec.jwt }

theorem sample_spare (c : TokenClaims) :
    (sampleCodec.mac .sha256 spellingEnv.jwtSecret (sampleCodec.encode c)).length % 3 ≠ 0 := by
  have hlength : ∀ bytes : List UInt8, ((bytes ++ List.replicate 32 0).take 32).length = 32 := by
    intro bytes
    rw [List.length_take, List.length_append, List.length_replicate]
    omega
  exact ne_of_eq_of_ne (congrArg (· % 3) (hlength _)) (by decide)

/-- Carol logs out, and a request with another text of Carol's token is let through. -/
theorem respelled_token_accepted :
    Alike sampleCodec spellingEnv carolWorld (sampleCodec.jwt.sign "secret" carolClaims)
        (respelled sampleCodec "secret" carolClaims) carolClaims ∧
      ∃ w' c', (logout spellingEnv ("Bearer " ++ sampleCodec.jwt.sign "secret" carolClaims)).alone
          carolWorld = (w', .ok "ok") ∧
        (jwtMiddleware spellingEnv ("Bearer " ++ respelled sampleCodec "secret" carolClaims)).alone
          w' = (w', .ok c') := by
  apply respelled_survives rfl (sample_spare carolClaims) (by decide) (fun _ _ h => h) (by decide)
  intro h
  obtain ⟨row, hrow, _⟩ := h
  cases hrow

/-- With the text that Carol logged out with, there is no way in. -/
theorem same_text_refused : ∃ w',
    (logout spellingEnv ("Bearer " ++ sampleCodec.jwt.sign "secret" carolClaims)).alone carolWorld =
        (w', .ok "ok") ∧
      ¬ ∃ c', (jwtMiddleware spellingEnv
        ("Bearer " ++ sampleCodec.jwt.sign "secret" carolClaims)).alone w' = (w', .ok c') := by
  have hdot :=
    dot_notMem_segment (sampleCodec.mac .sha256 "secret" (sampleCodec.encode carolClaims))
  have halike : Alike sampleCodec spellingEnv carolWorld (sampleCodec.jwt.sign "secret" carolClaims)
      (sampleCodec.jwt.sign "secret" carolClaims) carolClaims :=
    alike_issued rfl hdot hdot (decodeSegment_segment _) (decodeSegment_segment _) (by decide)
      fun _ _ h => h
  obtain ⟨w', hlogout, haccepts⟩ := (revoked_alike_iff halike).2
  refine ⟨w', hlogout, ?_⟩
  rw [haccepts]
  intro h
  exact h.2.2 nofun rfl

end Outpost.TokenSpelling
