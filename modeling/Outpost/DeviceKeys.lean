import Mathlib.Data.String.Basic
import Outpost.DeviceAddresses
import Outpost.Shared.Base64

/-!
# The texts of WireGuard keys

The tables hold keys as texts, a gateway decodes them to 32 bytes. The last character before the
padding has two bits that the decoder ignores, so a key has four texts.
-/

namespace Outpost.DeviceKeys

open Base64 Runs WireGuard
open DeviceAddresses (Request)
open DeviceHandler (Notification)
open NetworkHandler (map_eq_ok)

/-- In a text of 44 bytes, byte 43 is the last, and `=` is one byte. -/
def validWireGuardKey (s : String) : Bool :=
  if s.utf8ByteSize ≠ 44 ∨ s.toList.getLast? ≠ some '=' then false
  else (std.decode s.toList).any fun b => b.length = 32

abbrev Key := { bytes : List UInt8 // bytes.length = 32 }

def newKey (b : List UInt8) : Option Key := if h : b.length = 32 then some ⟨b, h⟩ else none

def parseKey (s : String) : Option Key := (std.decode s.toList).bind newKey

def keyText (xs : List (Fin 64)) : String := String.ofList (xs.map std.char ++ ['='])

theorem toList_keyText (xs : List (Fin 64)) : (keyText xs).toList = xs.map std.char ++ ['='] :=
  String.toList_ofList

theorem length_le_utf8Len (cs : List Char) : cs.length ≤ String.utf8Len cs := by
  induction cs with
  | nil => exact Nat.le_refl 0
  | cons c cs ih =>
    have := c.utf8Size_pos
    simp only [List.length_cons, String.utf8Len_cons]
    omega

theorem utf8Size_std : ∀ x, (std.char x).utf8Size = 1 := by decide +kernel

theorem utf8ByteSize_keyText (xs : List (Fin 64)) : (keyText xs).utf8ByteSize = xs.length + 1 := by
  have hchars : String.utf8Len (xs.map std.char) = xs.length := by
    induction xs with
    | nil => rfl
    | cons x xs ih => simp [ih, utf8Size_std]
  rw [keyText, String.utf8ByteSize_ofList, String.utf8Len_append, hchars]
  rfl

variable {xs : List (Fin 64)} {s s' : String} {db db' : Database} {id : Uuid}

theorem parseKey_keyText (x : Fin 64) (h : xs.length = 42) :
    ∃ key, parseKey (keyText (xs ++ [x])) = some key ∧ unpack (xs ++ [x]) = some key.val := by
  have hsextets : (xs ++ [x]).length = 43 := by simp [h]
  have hunpack : ∃ bytes, unpack (xs ++ [x]) = some bytes := exists_unpack (by omega)
  obtain ⟨bytes, hbytes⟩ := hunpack
  have hlength : bytes.length = 32 := by
    have := unpack_length hbytes
    omega
  have hdecode : std.decode (keyText (xs ++ [x])).toList = some bytes := by
    have hpadding : ['='] = List.replicate (padding (xs ++ [x]).length) '=' := by
      rw [hsextets]
      rfl
    unfold Alphabet.decode
    rw [toList_keyText, hpadding, Alphabet.withoutBreaks_padded]
    exact Alphabet.decodeQuanta_of_unpack hbytes
  refine ⟨⟨bytes, hlength⟩, ?_, hbytes⟩
  rw [parseKey, hdecode]
  exact dif_pos hlength

theorem validWireGuardKey_eq_true : validWireGuardKey s = true ↔
    s.utf8ByteSize = 44 ∧ s.toList.getLast? = some '=' ∧
      ∃ bytes, std.decode s.toList = some bytes ∧ bytes.length = 32 := by
  unfold validWireGuardKey
  by_cases hshape : s.utf8ByteSize ≠ 44 ∨ s.toList.getLast? ≠ some '='
  · rw [if_pos hshape]
    refine iff_of_false Bool.false_ne_true ?_
    intro h
    exact hshape.elim (fun hsize => hsize h.1) fun hlast => hlast h.2.1
  · rw [not_or, not_ne_iff, not_ne_iff] at hshape
    cases std.decode s.toList <;> simp [hshape]

theorem validWireGuardKey_iff :
    validWireGuardKey s = true ↔ ∃ xs x, xs.length = 42 ∧ s = keyText (xs ++ [x]) := by
  rw [validWireGuardKey_eq_true]
  constructor
  · intro h
    obtain ⟨hsize, _, bytes, hdecode, hbytes⟩ := h
    obtain ⟨xs, hxs, htext⟩ := Alphabet.unpack_of_decodeQuanta hdecode
    have hlength : xs.length = 43 := by
      have := unpack_length hxs
      omega
    have hpadding : List.replicate (padding xs.length) '=' = ['='] := by
      rw [hlength]
      rfl
    rw [hpadding] at htext
    have hall : withoutBreaks s.toList = s.toList := by
      apply List.filter_sublist.eq_of_length_le
      change s.toList.length ≤ (withoutBreaks s.toList).length
      have hle := length_le_utf8Len s.toList
      rw [String.utf8Len_toList, hsize] at hle
      simpa [htext, hlength] using hle
    have hs : s = keyText xs := by rw [keyText, ← htext, hall, String.ofList_toList]
    obtain ⟨ys, y, rfl⟩ := (List.eq_nil_or_concat' xs).resolve_left (List.ne_nil_of_length_pos
      (by omega))
    exact ⟨ys, y, by simpa using hlength, hs⟩
  · intro h
    obtain ⟨xs, x, hxs, rfl⟩ := h
    obtain ⟨key, hkey, _⟩ := parseKey_keyText x hxs
    obtain ⟨bytes, hdecode, hnew⟩ := Option.bind_eq_some_iff.mp hkey
    refine ⟨?_, ?_, bytes, hdecode, ?_⟩
    · simp [utf8ByteSize_keyText, hxs]
    · rw [toList_keyText, List.getLast?_concat]
    · by_contra hne
      rw [newKey, dif_neg hne] at hnew
      cases hnew

def readPart (s : String) : List Char × Option Nat :=
  (s.toList.take 42, ((s.toList[42]?).bind std.sextet).map fun x => x.val / 4)

theorem readPart_keyText {x : Fin 64} (h : xs.length = 42) :
    readPart (keyText (xs ++ [x])) = (xs.map std.char, some (x.val / 4)) := by
  have hchars : (keyText (xs ++ [x])).toList = xs.map std.char ++ [std.char x, '='] := by
    rw [toList_keyText, List.map_append, List.append_assoc]
    rfl
  have hlength : (xs.map std.char).length = 42 := by rw [List.length_map, h]
  unfold readPart
  rw [hchars, List.take_left' hlength, List.getElem?_append_right (Nat.le_of_eq hlength), hlength]
  simp

theorem parseKey_eq_iff (h : validWireGuardKey s = true) (h' : validWireGuardKey s' = true) :
    parseKey s = parseKey s' ↔ readPart s = readPart s' := by
  obtain ⟨xs, x, hxs, rfl⟩ := validWireGuardKey_iff.mp h
  obtain ⟨ys, y, hys, rfl⟩ := validWireGuardKey_iff.mp h'
  obtain ⟨key, hkey, hunpack⟩ := parseKey_keyText x hxs
  obtain ⟨key', hkey', hunpack'⟩ := parseKey_keyText y hys
  have hspare : clearSpare 43 x = clearSpare 43 y ↔ x.val / 4 = y.val / 4 := by
    simp [Fin.ext_iff]
  calc parseKey (keyText (xs ++ [x])) = parseKey (keyText (ys ++ [y]))
    _ ↔ unpack (ys ++ [y]) = some key.val := by
      rw [hunpack', hkey, hkey', Option.some.injEq, Option.some.injEq, Subtype.ext_iff, eq_comm]
    _ ↔ canon (xs ++ [x]) = canon (ys ++ [y]) := by rw [unpack_eq_iff hunpack, eq_comm]
    _ ↔ xs = ys ∧ x.val / 4 = y.val / 4 := by
      rw [canon_concat, canon_concat, hxs, hys, List.append_singleton_inj, hspare]
    _ ↔ readPart (keyText (xs ++ [x])) = readPart (keyText (ys ++ [y])) := by
      rw [readPart_keyText hxs, readPart_keyText hys, Prod.mk.injEq, Option.some.injEq,
        (List.map_injective_iff.mpr std.injective).eq_iff]

def pubkeys (db : Database) : List String := db.devices.map Device.wireguardPubkey

def givenKey : Request → Option String
  | .createDevice _ req _ => some req.wireguardPubkey
  | .enroll _ req _ => some req.wireguardPubkey
  | _ => none

def ClientKey : Request → Prop
  | .createDevice env req _ => env.validWireGuardKey = validWireGuardKey ∧
      req.wireguardPubkey ≠ "" ∧ req.wireguardPubkey ≠ "auto-generated"
  | .enroll env _ _ => env.validWireGuardKey = validWireGuardKey
  | _ => True

def Step : Database → Request → Database → Prop :=
  Guarded DeviceAddresses.Step fun _ r => ClientKey r

def ValidKeys (db : Database) : Prop := ∀ s ∈ pubkeys db, validWireGuardKey s = true

def OneDevicePerKey (db : Database) : Prop := ((pubkeys db).map parseKey).Nodup

def NoOtherText (db : Database) (r : Request) : Prop :=
  ∀ db', r.serve db = .ok db' → ∀ key ∈ givenKey r, ∀ s ∈ pubkeys db,
    readPart s = readPart key → s = key

section Steps

variable {db db' : Database} {r : Request}
variable {d : Device} {env : DeviceCreation.CreateEnv} {claims : Option Claims}
  {privateKey : Option String}

theorem pubkeys_insertDevice (hd : db.Insertable d) :
    pubkeys (db.insertDevice d hd) = pubkeys db ++ [d.wireguardPubkey] :=
  List.map_append

theorem not_mem_pubkeys (hd : db.Insertable d) : d.wireguardPubkey ∉ pubkeys db := by
  intro hmem
  obtain ⟨e, he, hkey⟩ := List.mem_map.mp hmem
  exact hd.wireguardPubkey e he hkey

theorem pubkeys_deleteNetwork (id : Uuid) : pubkeys (db.deleteNetwork id) = pubkeys db := by
  unfold pubkeys Database.deleteNetwork
  rw [List.map_map]
  apply List.map_congr_left
  intro d _
  exact Device.leaveNetwork_wireguardPubkey id d

theorem keyPair_client {given pubkey : String} (henv : env.validWireGuardKey = validWireGuardKey)
    (hempty : given ≠ "") (hauto : given ≠ "auto-generated")
    (h : DeviceCreation.keyPair env given = .ok (pubkey, privateKey)) :
    pubkey = given ∧ validWireGuardKey given = true := by
  unfold DeviceCreation.keyPair at h
  rw [if_neg (not_or.mpr ⟨hempty, hauto⟩), henv] at h
  split at h
  · cases h
  · rename_i hvalid
    exact ⟨(Prod.mk.inj (Except.ok.inj h)).1.symm, eq_true_of_ne_false hvalid⟩

theorem enroll_valid {env : EnrollEnv} {req : EnrollRequest} {res : Database × Option Notification}
    (henv : env.validWireGuardKey = validWireGuardKey)
    (h : Enrollment.enroll env db req claims = .ok res) :
    validWireGuardKey req.wireguardPubkey = true := by
  unfold Enrollment.enroll at h
  split at h
  · cases h
  split at h
  · cases h
  split at h
  · cases h
  · rename_i hvalid
    rw [henv] at hvalid
    exact eq_true_of_ne_false hvalid

theorem serve_pubkeys (hclient : ClientKey r) (h : r.serve db = .ok db') :
    ((pubkeys db').Sublist (pubkeys db) ∧ ∀ key ∈ givenKey r, key ∈ pubkeys db) ∨
      ∃ key, givenKey r = some key ∧ validWireGuardKey key = true ∧ key ∉ pubkeys db ∧
        pubkeys db' = pubkeys db ++ [key] := by
  cases r with
  | createNetwork env id req =>
    obtain ⟨⟨_, _⟩, hcreate, rfl⟩ := map_eq_ok h
    obtain ⟨address, tunnelCidr, _, _, hres⟩ := NetworkHandler.create_spec hcreate
    obtain ⟨rfl, _⟩ := Prod.mk.inj hres
    exact .inl ⟨List.Sublist.refl _, by simp [givenKey]⟩
  | updateNetwork env id req =>
    obtain ⟨⟨_, _⟩, hupdate, rfl⟩ := map_eq_ok h
    obtain ⟨address, tunnelCidr, _, _, hres⟩ := NetworkHandler.update_spec hupdate
    obtain ⟨rfl, _⟩ := Prod.mk.inj hres
    exact .inl ⟨List.Sublist.refl _, by simp [givenKey]⟩
  | deleteNetwork env id =>
    obtain ⟨⟨_, _⟩, hdelete, rfl⟩ := map_eq_ok h
    obtain ⟨rfl, _⟩ := Prod.mk.inj (NetworkHandler.delete_spec hdelete)
    exact .inl ⟨(pubkeys_deleteNetwork id).symm ▸ List.Sublist.refl _, by simp [givenKey]⟩
  | createDevice env req claims =>
    obtain ⟨⟨_, _⟩, hcreate, rfl⟩ := map_eq_ok h
    obtain ⟨d, _, hd, _, _, _, rfl, hpair, _⟩ := DeviceCreation.create_spec hcreate
    obtain ⟨henv, hempty, hauto⟩ := hclient
    obtain ⟨hkey, hvalid⟩ := keyPair_client henv hempty hauto hpair
    rw [← hkey] at hvalid
    exact .inr ⟨d.wireguardPubkey, congrArg some hkey.symm, hvalid, not_mem_pubkeys hd,
      pubkeys_insertDevice hd⟩
  | enroll env req claims =>
    obtain ⟨⟨_, _⟩, henroll, rfl⟩ := map_eq_ok h
    have hvalid := enroll_valid hclient henroll
    rcases Enrollment.enroll_inserts henroll with ⟨hsame, e, he, hkey⟩ |
      ⟨d, hd, _, _, _, _, _, _, _, hkey, _, _, hnew⟩
    · obtain ⟨rfl, _⟩ := Prod.mk.inj hsame
      refine .inl ⟨List.Sublist.refl _, ?_⟩
      intro key hgiven
      obtain rfl := Option.some.inj hgiven
      exact List.mem_map.mpr ⟨e, he, hkey⟩
    · obtain ⟨rfl, _⟩ := Prod.mk.inj hnew
      rw [← hkey] at hvalid
      exact .inr ⟨d.wireguardPubkey, congrArg some hkey.symm, hvalid, not_mem_pubkeys hd,
        pubkeys_insertDevice hd⟩
  | deleteDevice id claims =>
    obtain ⟨⟨_, _⟩, hdelete, rfl⟩ := map_eq_ok h
    obtain ⟨_, _, _, rfl, _⟩ := DeviceHandler.handle_inv (r := .delete id claims) hdelete
    exact .inl ⟨List.filter_sublist.map _, by simp [givenKey]⟩

theorem validKeys_step (hstep : Step db r db') (h : ValidKeys db) : ValidKeys db' := by
  obtain ⟨hserved | ⟨_, rfl⟩, hclient⟩ := hstep
  · intro s hs
    rcases serve_pubkeys hclient hserved with ⟨hsublist, _⟩ | ⟨key, _, hvalid, _, hkeys⟩
    · exact h s (hsublist.subset hs)
    · rw [hkeys] at hs
      rcases List.mem_append.mp hs with hs | hs
      · exact h s hs
      · rw [List.mem_singleton.mp hs]
        exact hvalid
  · exact h

theorem oneDevicePerKey_step (hstep : Step db r db') (hvalid : ValidKeys db)
    (h : OneDevicePerKey db) : OneDevicePerKey db' ↔ NoOtherText db r := by
  obtain ⟨hserved | ⟨⟨e, hrefused⟩, rfl⟩, hclient⟩ := hstep
  · rcases serve_pubkeys hclient hserved with ⟨hsublist, hknown⟩ | ⟨key, hgiven, hkey, hnew, hkeys⟩
    · refine iff_of_true (h.sublist (hsublist.map _)) ?_
      intro db₁ _ key hgiven s hs hread
      have hk := hknown key hgiven
      have hparse := (parseKey_eq_iff (hvalid s hs) (hvalid key hk)).mpr hread
      exact List.inj_on_of_nodup_map h hs hk hparse
    · unfold OneDevicePerKey
      rw [hkeys, List.map_append, List.map_singleton, ← List.concat_eq_append, List.nodup_concat]
      constructor
      · intro hnodup db₁ _ key' hgiven' s hs hread
        obtain rfl := Option.some.inj (hgiven.symm.trans hgiven')
        have hparse := (parseKey_eq_iff (hvalid s hs) hkey).mpr hread
        exact absurd (List.mem_map.mpr ⟨s, hs, hparse⟩) hnodup.1
      · intro hother
        refine ⟨?_, h⟩
        intro hmem
        obtain ⟨s, hs, hparse⟩ := List.mem_map.mp hmem
        have hread := (parseKey_eq_iff (hvalid s hs) hkey).mp hparse
        obtain rfl := hother db' hserved key hgiven s hs hread
        exact hnew hs
  · refine iff_of_true h ?_
    intro db₁ hserved
    cases hserved.symm.trans hrefused

end Steps

/-- Adding the peer of a device takes only prefixes from the peers of the others. -/
def KeepsPeers (db : Database) : Prop :=
  ∀ d ∈ db.devices, ∀ e ∈ db.devices, d ≠ e →
    ∀ (resolve : String → Option String) (iface : Interface Key) (p : Peer),
      p.publicKey = d.wireguardPubkey → ∀ k, parseKey e.wireguardPubkey = some k →
        addMessagePeer ⟨parseKey, resolve⟩ iface p k = (iface k).map fun q =>
          { q with allowedIps := q.allowedIps \ allowedNets p.allowedIps }

section Peers

variable {db : Database}

theorem exists_parseKey {s : String} (h : validWireGuardKey s = true) :
    ∃ key, parseKey s = some key := by
  obtain ⟨xs, x, hxs, rfl⟩ := validWireGuardKey_iff.mp h
  obtain ⟨key, hkey, _⟩ := parseKey_keyText x hxs
  exact ⟨key, hkey⟩

theorem oneDevicePerKey_iff_parseKey : OneDevicePerKey db ↔
    ∀ d ∈ db.devices, ∀ e ∈ db.devices,
      parseKey d.wireguardPubkey = parseKey e.wireguardPubkey → d = e := by
  unfold OneDevicePerKey pubkeys
  rw [List.map_map, List.nodup_map_iff_inj_on (List.Nodup.of_map _ db.device_id_unique)]
  rfl

theorem keepsPeers_iff (hvalid : ValidKeys db) : KeepsPeers db ↔ OneDevicePerKey db := by
  rw [oneDevicePerKey_iff_parseKey]
  constructor
  · intro hkeeps d hd e he hsame
    by_contra hne
    obtain ⟨key, hkey⟩ := exists_parseKey (hvalid _ (List.mem_map_of_mem he))
    -- on an interface without peers, the peer of `d` appears under the key of `e`
    have hnone := hkeeps d hd e he hne (fun _ => none) (fun _ => none)
      ⟨d.wireguardPubkey, [], "", 0⟩ rfl key hkey
    rw [← hsame] at hkey
    simp [addMessagePeer, addPeer, configurePeer, hkey] at hnone
  · intro hone d hd e he hne resolve iface p hp k hk
    obtain ⟨key, hkey⟩ := exists_parseKey (hvalid _ (List.mem_map_of_mem hd))
    have hother : k ≠ key := by
      intro heq
      subst heq
      exact hne (hone d hd e he (hkey.trans hk.symm))
    rw [← hp] at hkey
    simp only [addMessagePeer, addPeer, hkey, configurePeer, if_neg hother]

end Peers

/-- From tables with valid keys, one device for each, every state of a run has one device for each
key exactly when no request brings another text of a key; then no device replaces the peer of
another. -/
theorem one_device_per_key_iff {db db' : Database} {requests : List Request}
    (hvalid : ValidKeys db) (h : OneDevicePerKey db) :
    (Run (Through Step OneDevicePerKey) db requests db' ↔
        Run (Guarded Step NoOtherText) db requests db') ∧
      (Run Step db requests db' → (KeepsPeers db' ↔ OneDevicePerKey db')) := by
  have hkept : ∀ s r t, Step s r t → ValidKeys s → ValidKeys t :=
    fun _ _ _ hstep => validKeys_step hstep
  constructor
  · exact Run.through_iff_guarded_within hkept
      (fun _ _ _ hstep hv hi => oneDevicePerKey_step hstep hv hi) hvalid h
  · intro hrun
    exact keepsPeers_iff (hrun.invariant hkept hvalid)

def Encoded (s : String) : Prop := ∃ key : Key, s = String.ofList (std.encode key.val)

theorem parseKey_encode (key : Key) : parseKey (String.ofList (std.encode key.val)) = some key := by
  rw [parseKey, String.toList_ofList, Alphabet.decode_encode]
  exact dif_pos key.property

theorem eq_of_encoded (h : Encoded s) (h' : Encoded s') (heq : parseKey s = parseKey s') :
    s = s' := by
  obtain ⟨key, rfl⟩ := h
  obtain ⟨key', rfl⟩ := h'
  rw [parseKey_encode, parseKey_encode] at heq
  rw [Option.some.inj heq]

theorem encoded_keys_one_device {requests : List Request}
    (hrun : Run (Guarded Step fun _ r => ∀ key ∈ givenKey r, Encoded key) db requests db')
    (h : ∀ s ∈ pubkeys db, Encoded s) : OneDevicePerKey db' := by
  have hencoded : ∀ s ∈ pubkeys db', Encoded s := by
    refine hrun.invariant (I := fun db => ∀ s ∈ pubkeys db, Encoded s) ?_ h
    intro db r db' hstep hall s hs
    obtain ⟨⟨hserved | ⟨_, rfl⟩, hclient⟩, hgiven⟩ := hstep
    · rcases serve_pubkeys hclient hserved with ⟨hsublist, _⟩ | ⟨key, hkey, _, _, hkeys⟩
      · exact hall s (hsublist.subset hs)
      · rw [hkeys] at hs
        rcases List.mem_append.mp hs with hs | hs
        · exact hall s hs
        · rw [List.mem_singleton.mp hs]
          exact hgiven key hkey
    · exact hall s hs
  apply List.Nodup.map_on ?_ db'.wireguard_pubkey_unique
  intro s hs s' hs' heq
  exact eq_of_encoded (hencoded s hs) (hencoded s' hs') heq

def aliceText : String := "AAAAAAAAAAAAAAAAAAAAAAAAAAAAAAAAAAAAAAAAAAA="

def bobText : String := "AAAAAAAAAAAAAAAAAAAAAAAAAAAAAAAAAAAAAAAAAAB="

def ownText : String := "AAAAAAAAAAAAAAAAAAAAAAAAAAAAAAAAAAAAAAAAAAE="

theorem bobText_read : readPart aliceText = readPart bobText := by decide +kernel

theorem ownText_read : readPart aliceText ≠ readPart ownText := by decide +kernel

theorem aliceText_valid : validWireGuardKey aliceText = true :=
  validWireGuardKey_iff.mpr ⟨List.replicate 42 0, 0, rfl, rfl⟩

theorem bobText_valid : validWireGuardKey bobText = true :=
  validWireGuardKey_iff.mpr ⟨List.replicate 42 0, 1, rfl, rfl⟩

theorem ownText_valid : validWireGuardKey ownText = true :=
  validWireGuardKey_iff.mpr ⟨List.replicate 42 0, 4, rfl, rfl⟩

theorem officeLength : 27 ≤ 32 := by decide

def officeNet : Network := ⟨"n", "office", .v4 (.ofAddr 0x0A000000 27 officeLength), none, true⟩

def officeGateway : Gateway := ⟨"g", none, "gkey", "gw:51820", true, 0, 0, "gw"⟩

def office : Database :=
  { Database.empty with
    users := [⟨"a", true, false, false, "alice", ""⟩, ⟨"b", true, false, false, "bob", ""⟩]
    networks := [officeNet]
    gateways := [officeGateway]
    gatewayNetworks := [⟨"g", "n"⟩]
    user_id_unique := by decide
    device_owner := by simp [Database.empty] }

def keyEnv (id : Uuid) : EnrollEnv where
  validWireGuardKey := validWireGuardKey
  parseUuid := some
  newID := id

def enrollKey (userID id : Uuid) (text : String) : Request :=
  .enroll (keyEnv id) ⟨"laptop", text⟩ (some ⟨userID, false⟩)

theorem primary_office (h : db.enrollQuery = [(officeGateway, officeNet)]) :
    Enrollment.primary (keyEnv id) db = some (officeGateway, officeNet) := by
  have hrows : (keyEnv id).gatewayRows.visit db.enrollQuery = [(officeGateway, officeNet)] := h
  unfold Enrollment.primary
  rw [hrows, List.mergeSort_singleton]
  rfl

theorem enrollKey_step {userID : Uuid} {text : String} {note : Option Notification}
    (h : db.enrollQuery = [(officeGateway, officeNet)]) (hvalid : validWireGuardKey text = true)
    (hallocate : Enrollment.allocate (keyEnv id) db ⟨"laptop", text⟩ userID officeNet = .ok (db', note))
    :
    Step db (enrollKey userID id text) db' := by
  have hempty : text ≠ "" := by
    intro heq
    subst heq
    exact absurd hvalid (by decide)
  have henroll : Enrollment.enroll (keyEnv id) db ⟨"laptop", text⟩ (some ⟨userID, false⟩) =
      .ok (db', note) := by
    unfold Enrollment.enroll
    rw [primary_office h]
    simp only [keyEnv, hvalid, hempty]
    exact hallocate
  refine ⟨.inl ?_, rfl⟩
  simp only [enrollKey, Request.serve, henroll]
  rfl

def aliceLaptop : Device := ⟨"d", "a", aliceText, .v4 0x0A000002, true, some "n"⟩

theorem aliceLaptop_insertable : office.Insertable aliceLaptop := by decide

def aliceOffice : Database := office.insertDevice aliceLaptop aliceLaptop_insertable

theorem alice_enrolls : Step office (enrollKey "a" "d" aliceText) aliceOffice := by
  have hallocate : Enrollment.allocate (keyEnv "d") office ⟨"laptop", aliceText⟩ "a" officeNet =
      .ok (aliceOffice, some (.peerAdd aliceText ["10.0.0.2/32"])) := rfl
  exact enrollKey_step rfl aliceText_valid hallocate

def bobLaptop (text : String) : Device := ⟨"e", "b", text, .v4 0x0A000003, true, some "n"⟩

theorem bobLaptop_insertable : aliceOffice.Insertable (bobLaptop bobText) := by decide

theorem ownKey_insertable : aliceOffice.Insertable (bobLaptop ownText) := by decide

theorem bob_enrolls : Step aliceOffice (enrollKey "b" "e" bobText)
    (aliceOffice.insertDevice (bobLaptop bobText) bobLaptop_insertable) := by
  have hallocate : Enrollment.allocate (keyEnv "e") aliceOffice ⟨"laptop", bobText⟩ "b" officeNet =
      .ok (aliceOffice.insertDevice (bobLaptop bobText) bobLaptop_insertable,
        some (.peerAdd bobText ["10.0.0.3/32"])) := rfl
  exact enrollKey_step rfl bobText_valid hallocate

theorem bob_enrolls_own : Step aliceOffice (enrollKey "b" "e" ownText)
    (aliceOffice.insertDevice (bobLaptop ownText) ownKey_insertable) := by
  have hallocate : Enrollment.allocate (keyEnv "e") aliceOffice ⟨"laptop", ownText⟩ "b" officeNet =
      .ok (aliceOffice.insertDevice (bobLaptop ownText) ownKey_insertable,
        some (.peerAdd ownText ["10.0.0.3/32"])) := rfl
  exact enrollKey_step rfl ownText_valid hallocate

theorem validKeys_office : ValidKeys office := by
  intro s hs
  cases hs

theorem oneDevicePerKey_office : OneDevicePerKey office := List.nodup_nil

/-- Bob brings a key of their own. -/
theorem own_key_stays_apart : ∃ db, Run (Through Step OneDevicePerKey) office
      [enrollKey "a" "d" aliceText, enrollKey "b" "e" ownText] db ∧
    aliceLaptop ∈ db.devices ∧ bobLaptop ownText ∈ db.devices := by
  refine ⟨_, (one_device_per_key_iff validKeys_office oneDevicePerKey_office).1.mpr
    (.cons ⟨alice_enrolls, ?_⟩ (.cons ⟨bob_enrolls_own, ?_⟩ (.nil _))), by decide, by decide⟩
  · intro db _ key _ s hs
    cases hs
  · intro db _ key hkey s hs hread
    obtain rfl := Option.some.inj hkey
    obtain rfl := List.mem_singleton.mp hs
    exact absurd hread ownText_read

/-- Bob enrolls with another text of Alice's key and takes the place of Alice's peer. -/
theorem other_text_replaces_peer : ∃ db key, Run Step office
      [enrollKey "a" "d" aliceText, enrollKey "b" "e" bobText] db ∧
    aliceLaptop ∈ db.devices ∧ bobLaptop bobText ∈ db.devices ∧
    parseKey aliceText = some key ∧ parseKey bobText = some key ∧
    ∀ (resolve : String → Option String) (iface : Interface Key),
      (([⟨aliceText, ["10.0.0.2/32"], "", 25⟩, ⟨bobText, ["10.0.0.3/32"], "", 25⟩].foldl
        (addMessagePeer ⟨parseKey, resolve⟩) iface) key).map WgPeer.allowedIps =
          some (allowedNets ["10.0.0.3/32"]) := by
  obtain ⟨key, hkey⟩ := exists_parseKey aliceText_valid
  have hbob : parseKey bobText = some key :=
    ((parseKey_eq_iff aliceText_valid bobText_valid).mpr bobText_read).symm.trans hkey
  refine ⟨_, key, .cons alice_enrolls (.cons bob_enrolls (.nil _)), by decide, by decide, hkey,
    hbob, ?_⟩
  intro resolve iface
  exact addMessagePeer_self (p := ⟨bobText, ["10.0.0.3/32"], "", 25⟩) hbob

end Outpost.DeviceKeys
