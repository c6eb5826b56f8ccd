import Mathlib.Algebra.Ring.Int.Defs
import Outpost.SessionStore
import Outpost.Shared.Keyspace

/-!
# Sessions in Redis

A session is a string under `session:` and its id; the set under `user_sessions:` and a user's id
indexes that user's sessions. Commands succeed, JSON keeps a session as it is, a call runs at
one instant, and durations are not rounded.
-/

namespace Outpost

def hour : Int := 3600 * 10 ^ 9

/-- `time.Until`, which saturates. -/
def timeUntil (now t : Int) : Int := max (-2 ^ 63) (min (2 ^ 63 - 1) (t - now))

structure RedisStore where
  sessions : Keyspace Session
  users : Keyspace (List String)

namespace RedisStore

def empty : RedisStore := ⟨.empty, .empty⟩

def key (id : String) : String := "session:" ++ id

def userKey (userID : String) : String := "user_sessions:" ++ userID

variable (rs : RedisStore) (now : Int)

def create (s : Session) : Except String RedisStore :=
  if timeUntil now s.expiresAt ≤ 0 then .error "session already expired"
  else .ok
    { sessions := rs.sessions.set now (key s.id) s (timeUntil now s.expiresAt)
      users := (rs.users.sAdd now (userKey s.userID) s.id).expire now (userKey s.userID)
        (24 * hour) }

def get (id : String) : RedisStore × Except String Session :=
  match rs.sessions.get now (key id) with
  | none => (rs, .error ("session " ++ id ++ " not found"))
  | some s =>
    if s.isExpired now then
      ({ rs with sessions := rs.sessions.del (key id) }, .error ("session " ++ id ++ " expired"))
    else (rs, .ok s)

def delete (id : String) : RedisStore where
  sessions := (rs.get now id).1.sessions.del (key id)
  users :=
    match (rs.get now id).2 with
    | .ok s => rs.users.sRem now (userKey s.userID) id
    | .error _ => rs.users

def deleteByUser (order : RangeOrder String) (userID : String) : RedisStore where
  sessions :=
    rs.sessions.delAll ((order.visit (rs.users.sMembers now (userKey userID))).map key)
  users := rs.users.del (userKey userID)

def listMember (userID : String) (acc : RedisStore × List Session) (id : String) :
    RedisStore × List Session :=
  match acc.1.get now id with
  | (rs, .error _) => ({ rs with users := rs.users.sRem now (userKey userID) id }, acc.2)
  | (rs, .ok s) => (rs, acc.2 ++ [s])

def list (order : RangeOrder String) (userID : String) : RedisStore × List Session :=
  (order.visit (rs.users.sMembers now (userKey userID))).foldl (listMember now userID) (rs, [])

def touch (id : String) (ttl : Int) : RedisStore × Except String Unit :=
  match rs.get now id with
  | (rs, .error e) => (rs, .error e)
  | (rs, .ok s) =>
    ({ rs with sessions := rs.sessions.set now (key id) { s with expiresAt := now + ttl } ttl },
      .ok ())

theorem key_inj {id id' : String} : key id = key id' ↔ id = id' := String.append_right_inj _

theorem userKey_inj {u u' : String} : userKey u = userKey u' ↔ u = u' := String.append_right_inj _

end RedisStore

end Outpost
