import Outpost.RedisStore
import Outpost.SessionMap

/-!
# The index of a user's sessions in Redis

The index lives for a day from the user's last `Create`, and `DeleteByUser` and `List` see
only what it has. As long as no session outlives it, the store is the map.
-/

namespace Outpost

open Function

namespace RedisStore

def call (rs : RedisStore) (order : RangeOrder String) (now : Int) : Call → RedisStore × Answer
  | .create s => ((rs.create now s).toOption.getD rs, .done)
  | .get id => ((rs.get now id).1, .got (rs.get now id).2.toOption)
  | .delete id => (rs.delete now id, .done)
  | .deleteByUser userID => (rs.deleteByUser now order userID, .done)
  | .list userID => ((rs.list now order userID).1, .listed (rs.list now order userID).2)
  | .touch id ttl => ((rs.touch now id ttl).1, .done)

def toMap (rs : RedisStore) (now : Int) : SessionMap := fun id => rs.sessions.get now (key id)

def indexDeadline (rs : RedisStore) (now : Int) (userID : String) : Option Int :=
  (rs.users.find now (userKey userID)).bind Entry.deadline

def Exact (owner : String → String) (rs : RedisStore) (now : Int) : Call → Prop
  | .create s => s.userID = owner s.id ∧ now < s.expiresAt ∧ s.expiresAt ≤ now + 24 * hour
  | .touch id ttl => ttl ≠ 0 ∧ ∀ d, rs.indexDeadline now (owner id) = some d → now + ttl ≤ d
  | _ => True

def Indexed (rs : RedisStore) (now : Int) (userID id : String) (t : Int) : Prop :=
  ∃ e d, rs.users.find now (userKey userID) = some e ∧ id ∈ e.value ∧ e.deadline = some d ∧ t ≤ d

structure WellFormed (owner : String → String) (now : Int) (rs : RedisStore) : Prop where
  session : ∀ id e, rs.sessions.find now (key id) = some e → e.value.id = id ∧
    e.value.userID = owner id ∧
    (e.deadline = some e.value.expiresAt ∨ e.value.expiresAt < now)
  index : ∀ u e, rs.users.find now (userKey u) = some e → e.value.Nodup ∧
    (∀ id ∈ e.value, owner id = u) ∧ ∃ d, e.deadline = some d ∧ d ≤ now + 24 * hour
  indexed : ∀ id s, (rs.toMap now).live now id = some s → rs.Indexed now (owner id) id s.expiresAt

variable {owner : String → String} {rs : RedisStore} {order : RangeOrder String} {now : Int}

theorem wellFormed_empty (now : Int) : WellFormed owner now empty := by
  constructor
  · intro id e h
    cases h
  · intro u e h
    cases h
  · intro id s h
    cases h

variable {id u : String} {s : Session} {users : Keyspace (List String)} {ttl now' : Int}

theorem toMap_eq_some : rs.toMap now id = some s ↔
    ∃ e, rs.sessions.find now (key id) = some e ∧ e.value = s :=
  Option.map_eq_some_iff

theorem toMap_del : toMap ⟨rs.sessions.del (key id), users⟩ now = (rs.toMap now).delete id := by
  funext id'
  unfold toMap SessionMap.delete Keyspace.get
  rw [Keyspace.find_del]
  by_cases hid : id' = id
  · simp [hid]
  · simp [hid, key_inj]

theorem live_of_find (h : WellFormed owner now rs) {e : Entry Session}
    (hfind : rs.sessions.find now (key id) = some e) (hle : now ≤ e.value.expiresAt) :
    (rs.toMap now).live now id = some e.value := by
  refine SessionMap.live_eq_some.mpr ⟨toMap_eq_some.mpr ⟨e, hfind, rfl⟩, ?_⟩
  rcases (h.session id e hfind).2.2 with hd | hlt
  · exact Keyspace.lt_of_find hfind hd
  · omega

theorem owner_of_live (h : WellFormed owner now rs) (hlive : (rs.toMap now).live now id = some s) :
    s.id = id ∧ s.userID = owner id := by
  obtain ⟨e, hfind, rfl⟩ := toMap_eq_some.mp (SessionMap.live_eq_some.mp hlive).1
  obtain ⟨hid, huser, _⟩ := h.session id e hfind
  exact ⟨hid, huser⟩

theorem nodup_sMembers (u : String) (h : WellFormed owner now rs) :
    (rs.users.sMembers now (userKey u)).Nodup := by
  unfold Keyspace.sMembers Keyspace.get
  cases hfind : rs.users.find now (userKey u) with
  | none => exact List.nodup_nil
  | some e => exact (h.index u e hfind).1

theorem day_pos : (0 : Int) < 24 * hour := by decide

theorem WellFormed.of_sessions (h : WellFormed owner now rs) {sessions : Keyspace Session}
    (hsub : ∀ k e, sessions.find now k = some e → rs.sessions.find now k = some e) :
    WellFormed owner now { rs with sessions := sessions } where
  session := fun id e he => h.session id e (hsub _ e he)
  index := h.index
  indexed := by
    intro id s hlive
    obtain ⟨hmap, hlt⟩ := SessionMap.live_eq_some.mp hlive
    obtain ⟨e, hfind, hs⟩ := toMap_eq_some.mp hmap
    refine h.indexed id s (SessionMap.live_eq_some.mpr ⟨toMap_eq_some.mpr ⟨e, ?_, hs⟩, hlt⟩)
    exact hsub _ e hfind

theorem WellFormed.del (h : WellFormed owner now rs) (id : String) :
    WellFormed owner now { rs with sessions := rs.sessions.del (key id) } := by
  refine h.of_sessions ?_
  intro k e he
  rw [Keyspace.find_del] at he
  split at he
  · cases he
  · exact he

theorem WellFormed.sRem (h : WellFormed owner now rs) (hdead : (rs.toMap now).live now id = none)
    (u : String) :
    WellFormed owner now { rs with users := rs.users.sRem now (userKey u) id } where
  session := h.session
  index := by
    intro u' e he
    obtain ⟨e', he', hdeadline, hsub⟩ := Keyspace.find_of_sRem he
    obtain ⟨hnodup, howner, hd⟩ := h.index u' e' he'
    rw [hdeadline]
    exact ⟨hnodup.sublist hsub, fun id' hid' => howner id' (hsub.subset hid'), hd⟩
  indexed := by
    intro id' s hlive
    obtain ⟨e, d, hfind, hin, hd, hle⟩ := h.indexed id' s hlive
    have hne : id' ≠ id := by
      intro heq
      rw [heq] at hlive
      cases hdead.symm.trans hlive
    obtain ⟨e', hfind', hdeadline, hin'⟩ := Keyspace.find_sRem (k := userKey u) hfind hin hne
    exact ⟨e', d, hfind', hin', hdeadline.trans hd, hle⟩

theorem WellFormed.del_user (h : WellFormed owner now rs)
    (hdead : ∀ id s, (rs.toMap now).live now id = some s → owner id ≠ u) :
    WellFormed owner now { rs with users := rs.users.del (userKey u) } where
  session := h.session
  index := by
    intro u' e he
    rw [Keyspace.find_del] at he
    split at he
    · cases he
    · exact h.index u' e he
  indexed := by
    intro id s hlive
    obtain ⟨e, d, hfind, hrest⟩ := h.indexed id s hlive
    refine ⟨e, d, ?_, hrest⟩
    rw [Keyspace.find_del, if_neg]
    · exact hfind
    · rw [userKey_inj]
      exact hdead id s hlive

theorem WellFormed.sAdd (h : WellFormed owner now rs) (hu : owner id = u) :
    WellFormed owner now { rs with
      users := (rs.users.sAdd now (userKey u) id).expire now (userKey u) (24 * hour) } where
  session := h.session
  index := by
    intro u' e hfind
    rw [Keyspace.find_sAdd_expire day_pos] at hfind
    split at hfind
    · rename_i hu'
      obtain rfl := userKey_inj.mp hu'
      obtain rfl := Option.some.inj hfind
      refine ⟨List.Nodup.insert (nodup_sMembers u' h), ?_, now + 24 * hour, rfl, Int.le_refl _⟩
      intro id' hid'
      rcases List.mem_insert_iff.mp hid' with rfl | hid'
      · exact hu
      · obtain ⟨e', he', hin⟩ := Keyspace.mem_sMembers.mp hid'
        exact (h.index u' e' he').2.1 id' hin
    · exact h.index u' e hfind
  indexed := by
    intro id' s hlive
    obtain ⟨e, d, hfind, hin, hd, hle⟩ := h.indexed id' s hlive
    unfold Indexed
    rw [Keyspace.find_sAdd_expire day_pos]
    by_cases hu' : owner id' = u
    · -- Another session of the same user: its index was to end within a day.
      rw [hu'] at hfind
      obtain ⟨_, _, d', hd', hday⟩ := h.index u e hfind
      obtain rfl := Option.some.inj (hd.symm.trans hd')
      rw [hu', if_pos rfl]
      refine ⟨_, _, rfl, List.mem_insert_of_mem ?_, rfl, Int.le_trans hle hday⟩
      exact Keyspace.mem_sMembers.mpr ⟨e, hfind, hin⟩
    · rw [if_neg fun heq => hu' (userKey_inj.mp heq)]
      exact ⟨e, d, hfind, hin, hd, hle⟩

theorem live_set (hexpires : s.expiresAt = now + ttl) :
    (toMap ⟨rs.sessions.set now (key id) s ttl, users⟩ now).live now =
      SessionMap.live (update (rs.toMap now) id (some s)) now := by
  funext id'
  ext s'
  rw [SessionMap.live_eq_some, SessionMap.live_eq_some, update_apply]
  by_cases hid : id' = id
  · subst hid
    by_cases hpos : 0 < ttl
    · rw [toMap_eq_some, Keyspace.find_set hpos]
      simp
    · -- Such a session has expired, whatever becomes of its key.
      rw [if_pos rfl, toMap_eq_some]
      constructor
      · intro ⟨⟨e, hfind, hs⟩, hlt⟩
        rw [Keyspace.value_of_find_set hfind] at hs
        subst hs
        omega
      · intro ⟨hs, hlt⟩
        obtain rfl := Option.some.inj hs
        omega
  · rw [if_neg hid, toMap_eq_some, toMap_eq_some,
      Keyspace.find_set_of_ne fun heq => hid (key_inj.mp heq)]

theorem WellFormed.set (h : WellFormed owner now rs) (howner : s.userID = owner s.id)
    (hexpires : s.expiresAt = now + ttl) (hne : ttl ≠ 0)
    (hindexed : 0 < ttl → rs.Indexed now s.userID s.id s.expiresAt) :
    WellFormed owner now { rs with sessions := rs.sessions.set now (key s.id) s ttl } where
  session := by
    intro id e hfind
    by_cases hid : id = s.id
    · subst hid
      have hvalue := Keyspace.value_of_find_set hfind
      rw [hvalue]
      refine ⟨rfl, howner, ?_⟩
      by_cases hpos : 0 < ttl
      · rw [Keyspace.find_set hpos, if_pos rfl] at hfind
        obtain rfl := Option.some.inj hfind
        exact .inl (congrArg some hexpires.symm)
      · exact .inr (by omega)
    · rw [Keyspace.find_set_of_ne fun heq => hid (key_inj.mp heq)] at hfind
      exact h.session id e hfind
  index := h.index
  indexed := by
    intro id s' hlive
    rw [live_set hexpires] at hlive
    obtain ⟨hmap, hlt⟩ := SessionMap.live_eq_some.mp hlive
    rw [update_apply] at hmap
    split at hmap
    · rename_i hid
      obtain rfl := Option.some.inj hmap
      rw [hid, ← howner]
      exact hindexed (by omega)
    · exact h.indexed id s' (SessionMap.live_eq_some.mpr ⟨hmap, hlt⟩)

theorem live_later (h : WellFormed owner now rs) (hle : now ≤ now') :
    (rs.toMap now').live now' = (rs.toMap now).live now' := by
  funext id
  ext s
  rw [SessionMap.live_eq_some, SessionMap.live_eq_some, toMap_eq_some, toMap_eq_some]
  constructor
  · intro ⟨⟨e, hfind, hs⟩, hlt⟩
    exact ⟨⟨e, Keyspace.find_of_le hle hfind, hs⟩, hlt⟩
  · intro ⟨⟨e, hfind, hs⟩, hlt⟩
    subst hs
    rcases (h.session id e hfind).2.2 with hd | hexpired
    · exact ⟨⟨e, Keyspace.find_later hfind hd hlt, rfl⟩, hlt⟩
    · omega

theorem WellFormed.later (h : WellFormed owner now rs) (hle : now ≤ now') :
    WellFormed owner now' rs where
  session := by
    intro id e hfind
    obtain ⟨hid, huser, hd⟩ := h.session id e (Keyspace.find_of_le hle hfind)
    exact ⟨hid, huser, hd.imp_right fun hlt => Int.lt_of_lt_of_le hlt hle⟩
  index := by
    intro u e hfind
    obtain ⟨hnodup, howner, d, hd, hday⟩ := h.index u e (Keyspace.find_of_le hle hfind)
    exact ⟨hnodup, howner, d, hd, by omega⟩
  indexed := by
    intro id s hlive
    rw [live_later h hle] at hlive
    obtain ⟨hmap, hlt⟩ := SessionMap.live_eq_some.mp hlive
    obtain ⟨e, d, hfind, hin, hd, hle'⟩ := h.indexed id s
      (SessionMap.live_eq_some.mpr ⟨hmap, Int.lt_of_le_of_lt hle hlt⟩)
    exact ⟨e, d, Keyspace.find_later hfind hd (by omega), hin, hd, hle'⟩

theorem get_spec (h : WellFormed owner now rs) (id : String) :
    (∃ s, (rs.toMap now).live now id = some s ∧ rs.get now id = (rs, .ok s)) ∨
      (rs.toMap now).live now id = none ∧ ∃ error sessions,
        rs.get now id = ({ rs with sessions := sessions }, .error error) ∧
        (sessions = rs.sessions ∨ sessions = rs.sessions.del (key id)) := by
  cases hfind : rs.sessions.find now (key id) with
  | none =>
    have hmap : rs.toMap now id = none := by simp [toMap, Keyspace.get, hfind]
    refine .inr ⟨?_, "session " ++ id ++ " not found", rs.sessions, ?_, .inl rfl⟩
    · simp [SessionMap.live, hmap]
    · simp [get, Keyspace.get, hfind]
  | some e =>
    by_cases hexpired : e.value.expiresAt < now
    · have hmap : rs.toMap now id = some e.value := by simp [toMap, Keyspace.get, hfind]
      refine .inr ⟨?_, "session " ++ id ++ " expired", _, ?_, .inr rfl⟩
      · simp only [SessionMap.live, hmap, Option.filter_some]
        rw [if_neg]
        simp only [decide_eq_true_eq]
        omega
      · simp [get, Keyspace.get, hfind, Session.isExpired, hexpired]
    · refine .inl ⟨e.value, live_of_find h hfind (Int.not_lt.mp hexpired), ?_⟩
      simp [get, Keyspace.get, hfind, Session.isExpired, hexpired]

theorem get_keeps (h : WellFormed owner now rs) (id : String) :
    WellFormed owner now (rs.get now id).1 ∧
      ((rs.get now id).1.toMap now).live now = (rs.toMap now).live now := by
  rcases get_spec h id with ⟨s, _, hget⟩ | ⟨hdead, error, sessions, hget, rfl | rfl⟩
  · rw [hget]
    exact ⟨h, rfl⟩
  · rw [hget]
    exact ⟨h, rfl⟩
  · rw [hget]
    refine ⟨h.del id, ?_⟩
    rw [toMap_del]
    exact SessionMap.live_delete_of_none hdead

theorem timeUntil_eq {t : Int} (h : now < t) (hle : t ≤ now + 24 * hour) :
    timeUntil now t = t - now := by
  unfold timeUntil
  unfold hour at hle
  omega

section Create

variable {s : Session}

theorem create_eq (h : Exact owner rs now (.create s)) : rs.create now s = .ok
    { sessions := rs.sessions.set now (key s.id) s (s.expiresAt - now)
      users := (rs.users.sAdd now (userKey s.userID) s.id).expire now (userKey s.userID)
        (24 * hour) } := by
  rw [create, timeUntil_eq h.2.1 h.2.2, if_neg]
  have hlt := h.2.1
  omega

theorem create_spec (hwf : WellFormed owner now rs) (h : Exact owner rs now (.create s)) :
    ∃ rs', rs.create now s = .ok rs' ∧ WellFormed owner now rs' ∧
      (rs'.toMap now).live now = ((rs.toMap now).create s).live now := by
  obtain ⟨howner, hlt, hle⟩ := id h
  have hexpires : s.expiresAt = now + (s.expiresAt - now) := by omega
  refine ⟨_, create_eq h,
    (hwf.sAdd howner.symm).set howner hexpires (by omega) ?_, live_set hexpires⟩
  intro _
  have hfind : ((rs.users.sAdd now (userKey s.userID) s.id).expire now (userKey s.userID)
      (24 * hour)).find now (userKey s.userID) = _ :=
    (Keyspace.find_sAdd_expire day_pos).trans (if_pos rfl)
  exact ⟨_, now + 24 * hour, hfind, List.mem_insert_self, rfl, hle⟩

end Create

section Delete

theorem toMap_delete (h : WellFormed owner now rs) (id : String) :
    (rs.delete now id).toMap now = (rs.toMap now).delete id := by
  unfold delete
  rcases get_spec h id with ⟨s, _, hget⟩ | ⟨_, error, sessions, hget, rfl | rfl⟩
  · rw [hget, toMap_del]
  · rw [hget, toMap_del]
  · rw [hget]
    have hdel : toMap { rs with sessions := rs.sessions.del (key id) } now = _ := toMap_del
    exact toMap_del.trans
      ((congrArg (SessionMap.delete · id) hdel).trans (update_idem _ _ _))

theorem wellFormed_delete (h : WellFormed owner now rs) (id : String) :
    WellFormed owner now (rs.delete now id) := by
  have hdead : ∀ rs' : RedisStore, rs'.toMap now = (rs.toMap now).delete id →
      (rs'.toMap now).live now id = none := by
    intro rs' hmap
    rw [hmap]
    simp [SessionMap.live, SessionMap.delete]
  unfold delete
  rcases get_spec h id with ⟨s, _, hget⟩ | ⟨_, error, sessions, hget, rfl | rfl⟩
  · rw [hget]
    exact (h.del id).sRem (hdead _ toMap_del) s.userID
  · rw [hget]
    exact h.del id
  · rw [hget]
    exact (h.del id).del id

variable (order) (u : String)

theorem find_deleteByUser (id : String) : (rs.deleteByUser now order u).sessions.find now (key id) =
    if id ∈ rs.users.sMembers now (userKey u) then none else rs.sessions.find now (key id) := by
  unfold deleteByUser
  rw [Keyspace.find_delAll]
  simp [key_inj]

theorem mem_sMembers_iff (h : WellFormed owner now rs) {id : String} {s : Session}
    (hlive : (rs.toMap now).live now id = some s) :
    id ∈ rs.users.sMembers now (userKey u) ↔ s.userID = u := by
  rw [Keyspace.mem_sMembers, (owner_of_live h hlive).2]
  constructor
  · intro ⟨e, hfind, hin⟩
    exact (h.index u e hfind).2.1 id hin
  · intro hu
    obtain ⟨e, d, hfind, hin, _⟩ := h.indexed id s hlive
    exact ⟨e, hu ▸ hfind, hin⟩

theorem live_deleteByUser (h : WellFormed owner now rs) :
    ((rs.deleteByUser now order u).toMap now).live now =
      ((rs.toMap now).deleteByUser u).live now := by
  ext s
  rw [SessionMap.live_eq_some, SessionMap.live_eq_some, toMap_eq_some, find_deleteByUser,
    SessionMap.deleteByUser, Option.filter_eq_some_iff, decide_eq_true_eq]
  constructor
  · intro hleft
    obtain ⟨⟨e, hfind, hs⟩, hlt⟩ := hleft
    split at hfind
    · cases hfind
    · rename_i hnot
      have hmap := toMap_eq_some.mpr ⟨e, hfind, hs⟩
      refine ⟨⟨hmap, ?_⟩, hlt⟩
      rw [mem_sMembers_iff u h (SessionMap.live_eq_some.mpr ⟨hmap, hlt⟩)] at hnot
      exact hnot
  · intro hleft
    obtain ⟨⟨hmap, huser⟩, hlt⟩ := hleft
    obtain ⟨e, hfind, hs⟩ := toMap_eq_some.mp hmap
    rw [if_neg]
    · exact ⟨⟨e, hfind, hs⟩, hlt⟩
    · rw [mem_sMembers_iff u h (SessionMap.live_eq_some.mpr ⟨hmap, hlt⟩)]
      exact huser

theorem wellFormed_deleteByUser (h : WellFormed owner now rs) :
    WellFormed owner now (rs.deleteByUser now order u) := by
  have hsessions : WellFormed owner now
      { rs with sessions := (rs.deleteByUser now order u).sessions } := by
    refine h.of_sessions ?_
    intro k e hfind
    unfold deleteByUser at hfind
    rw [Keyspace.find_delAll] at hfind
    split at hfind
    · cases hfind
    · exact hfind
  refine hsessions.del_user ?_
  intro id s hlive
  have hlive' : ((rs.deleteByUser now order u).toMap now).live now id = some s := hlive
  rw [live_deleteByUser order u h, SessionMap.live_eq_some, SessionMap.deleteByUser,
    Option.filter_eq_some_iff, decide_eq_true_eq] at hlive'
  rw [← (owner_of_live hsessions hlive).2]
  exact hlive'.1.2

end Delete

section List

variable (u : String)

theorem listMember_spec {m : SessionMap} (h : WellFormed owner now rs)
    (hm : (rs.toMap now).live now = m) (sessions : List Session) (id : String) :
    ∃ rs', listMember now u (rs, sessions) id = (rs', sessions ++ (m id).toList) ∧
      WellFormed owner now rs' ∧ (rs'.toMap now).live now = m := by
  subst hm
  obtain ⟨hwf, hmap⟩ := get_keeps h id
  rcases get_spec h id with ⟨s, hlive, hget⟩ | ⟨hdead, error, sessions', hget, _⟩
  · refine ⟨rs, ?_, h, rfl⟩
    simp [listMember, hget, hlive]
  · rw [hget] at hwf hmap
    have hdead' : (toMap { rs with sessions := sessions' } now).live now id = none := by
      rw [hmap]
      exact hdead
    refine ⟨_, ?_, hwf.sRem hdead' u, hmap⟩
    simp [listMember, hget, hdead]

theorem foldl_listMember {m : SessionMap} (ids : List String) (h : WellFormed owner now rs)
    (hm : (rs.toMap now).live now = m) (sessions : List Session) :
    ∃ rs', ids.foldl (listMember now u) (rs, sessions) = (rs', sessions ++ ids.filterMap m) ∧
      WellFormed owner now rs' ∧ (rs'.toMap now).live now = m := by
  induction ids generalizing rs sessions with
  | nil => exact ⟨rs, by simp, h, hm⟩
  | cons id ids ih =>
    obtain ⟨rs', hmember, hwf, hmap⟩ := listMember_spec u h hm sessions id
    obtain ⟨rs'', hrest, hwf', hmap'⟩ := ih hwf hmap (sessions ++ (m id).toList)
    refine ⟨rs'', ?_, hwf', hmap'⟩
    rw [List.foldl_cons, hmember, hrest]
    cases hid : m id with
    | _ => simp [hid]

theorem list_spec (order : RangeOrder String) (h : WellFormed owner now rs) :
    ∃ rs', rs.list now order u =
      (rs', (order.visit (rs.users.sMembers now (userKey u))).filterMap ((rs.toMap now).live now)) ∧
    WellFormed owner now rs' ∧ (rs'.toMap now).live now = (rs.toMap now).live now := by
  obtain ⟨rs', hlist, hrest⟩ := foldl_listMember u
    (order.visit (rs.users.sMembers now (userKey u))) h rfl []
  exact ⟨rs', hlist, hrest⟩

theorem answers_list (h : WellFormed owner now rs) :
    SessionMap.Answers (rs.toMap now) now (.list u) (.listed (rs.list now order u).2) := by
  obtain ⟨rs', hlist, _⟩ := list_spec u order h
  rw [hlist]
  constructor
  · refine List.Nodup.filterMap ?_ ((order.perm _).nodup_iff.mpr (nodup_sMembers u h))
    intro id id' s hs hs'
    rw [← (owner_of_live h hs).1, ← (owner_of_live h hs').1]
  · intro s
    rw [List.mem_filterMap]
    constructor
    · intro ⟨id, hin, hlive⟩
      exact ⟨id, hlive, (mem_sMembers_iff u h hlive).mp ((order.mem_visit _ _).mp hin)⟩
    · intro ⟨id, hlive, huser⟩
      exact ⟨id, (order.mem_visit _ _).mpr ((mem_sMembers_iff u h hlive).mpr huser), hlive⟩

end List

theorem touch_spec (hwf : WellFormed owner now rs) (h : Exact owner rs now (.touch id ttl)) :
    WellFormed owner now (rs.touch now id ttl).1 ∧
      ((rs.touch now id ttl).1.toMap now).live now =
        ((rs.toMap now).touch now id ttl).live now := by
  rcases get_spec hwf id with ⟨s, hlive, hget⟩ | ⟨hdead, error, sessions, hget, _⟩
  · obtain ⟨rfl, howner⟩ := owner_of_live hwf hlive
    have htouch : (rs.touch now s.id ttl).1 = { rs with
        sessions := rs.sessions.set now (key s.id) { s with expiresAt := now + ttl } ttl } := by
      simp [touch, hget]
    rw [htouch, SessionMap.touch, hlive]
    refine ⟨WellFormed.set hwf (s := { s with expiresAt := now + ttl }) howner rfl h.1 ?_,
      live_set rfl⟩
    intro _
    obtain ⟨e, d, hfind, hin, hd, _⟩ := hwf.indexed s.id s hlive
    refine ⟨e, d, howner ▸ hfind, hin, hd, h.2 d ?_⟩
    rw [indexDeadline, hfind]
    exact hd
  · have htouch : (rs.touch now id ttl).1 = (rs.get now id).1 := by simp [touch, hget]
    rw [htouch, SessionMap.touch, hdead]
    exact get_keeps hwf id

theorem call_spec (hwf : WellFormed owner now rs) {c : Call} (h : Exact owner rs now c) :
    WellFormed owner now (rs.call order now c).1 ∧
      ((rs.call order now c).1.toMap now).live now = ((rs.toMap now).call now c).live now := by
  cases c with
  | create s =>
    obtain ⟨rs', hcreate, hspec⟩ := create_spec hwf h
    simp only [call, hcreate]
    exact hspec
  | get id => exact get_keeps hwf id
  | delete id =>
    exact ⟨wellFormed_delete hwf id, congrArg (SessionMap.live · now) (toMap_delete hwf id)⟩
  | deleteByUser u => exact ⟨wellFormed_deleteByUser order u hwf, live_deleteByUser order u hwf⟩
  | list u =>
    obtain ⟨rs', hlist, hspec⟩ := list_spec u order hwf
    simp only [call, hlist]
    exact hspec
  | touch id ttl => exact touch_spec hwf h

theorem answers_call (hwf : WellFormed owner now rs) (c : Call) :
    SessionMap.Answers (rs.toMap now) now c (rs.call order now c).2 := by
  cases c with
  | get id =>
    show (rs.get now id).2.toOption = (rs.toMap now).live now id
    rcases get_spec hwf id with ⟨s, hlive, hget⟩ | ⟨hdead, error, sessions, hget, _⟩
    · rw [hget, hlive]
      rfl
    · rw [hget, hdead]
      rfl
  | list u => exact answers_list u hwf
  | _ => exact trivial

end RedisStore

end Outpost
