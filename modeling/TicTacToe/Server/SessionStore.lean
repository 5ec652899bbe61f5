import TicTacToe.Lib.JsMap
import TicTacToe.Protocol.Events

/-! # The session store

Sessions and the command dedup cache of `src/server/app/sessionStore.ts`, both with lazy expiry. -/

namespace TicTacToe

/-- 7-day TTL for session tokens. -/
def SESSION_TTL_MS : Millis := 604800000

structure PlayerSession where
  playerId : PlayerId
  sessionToken : SessionToken
  createdAt : Millis
  lastSeenAt : Millis
  roomId : Option RoomId
  deriving DecidableEq

/-- A cached command result. `result` is the response as it was when it was recorded; what the object reads as later
is `Server.reread`. -/
structure DedupEntry where
  commandId : CommandId
  result : WireEvent
  cachedAt : Millis

def PlayerSession.isExpired (now : Millis) (session : PlayerSession) : Bool :=
  now - session.createdAt > SESSION_TTL_MS

def DedupEntry.isExpired (now : Millis) (entry : DedupEntry) : Bool := now - entry.cachedAt > COMMAND_DEDUP_TTL_MS

structure SessionStore where
  sessions : JsMap SessionToken PlayerSession
  dedupCache : JsMap CommandId DedupEntry

namespace SessionStore

def empty : SessionStore := ⟨.empty, .empty⟩

def newSession (now : Millis) (token : SessionToken) (playerId : PlayerId) : PlayerSession :=
  ⟨playerId, token, now, now, none⟩

def createSession (store : SessionStore) (now : Millis) (token : SessionToken) (playerId : PlayerId) : SessionStore :=
  { store with sessions := store.sessions.set token (newSession now token playerId) }

/-- What `getSession` returns. -/
def getSession (store : SessionStore) (now : Millis) (token : SessionToken) : Option PlayerSession :=
  store.sessions.lookup (PlayerSession.isExpired now) token

/-- What `getSession` does to the store: an expired session is deleted. -/
def afterGetSession (store : SessionStore) (now : Millis) (token : SessionToken) : SessionStore :=
  { store with sessions := store.sessions.evict (PlayerSession.isExpired now) token }

def touch (store : SessionStore) (now : Millis) (token : SessionToken) : SessionStore :=
  { store with sessions := store.sessions.modify token fun session => { session with lastSeenAt := now } }

def setRoom (store : SessionStore) (token : SessionToken) (roomId : Option RoomId) : SessionStore :=
  { store with sessions := store.sessions.modify token fun session => { session with roomId := roomId } }

def deleteSession (store : SessionStore) (token : SessionToken) : SessionStore :=
  { store with sessions := store.sessions.delete token }

def recordCommand (store : SessionStore) (now : Millis) (commandId : CommandId) (result : WireEvent) :
    SessionStore :=
  { store with dedupCache := store.dedupCache.set commandId ⟨commandId, result, now⟩ }

/-- The entry behind what `getCachedResult` returns. -/
def getCachedEntry (store : SessionStore) (now : Millis) (commandId : CommandId) : Option DedupEntry :=
  store.dedupCache.lookup (DedupEntry.isExpired now) commandId

/-- What `getCachedResult` returns. -/
def getCachedResult (store : SessionStore) (now : Millis) (commandId : CommandId) : Option WireEvent :=
  (store.getCachedEntry now commandId).map DedupEntry.result

/-- What `getCachedResult` does to the store: an expired entry is deleted. -/
def afterGetCachedResult (store : SessionStore) (now : Millis) (commandId : CommandId) : SessionStore :=
  { store with dedupCache := store.dedupCache.evict (DedupEntry.isExpired now) commandId }

def purgeExpired (store : SessionStore) (now : Millis) : SessionStore where
  sessions := store.sessions.purge (PlayerSession.isExpired now)
  dedupCache := store.dedupCache.purge (DedupEntry.isExpired now)

/-- The token of the first session of the player. -/
def getTokenByPlayerId (store : SessionStore) (playerId : PlayerId) : Option SessionToken :=
  (store.sessions.entries.find? fun e => e.2.playerId = playerId).map Prod.fst

theorem getTokenByPlayerId_some {store : SessionStore} {playerId : PlayerId} {token : SessionToken}
    (h : store.getTokenByPlayerId playerId = some token) :
    ∃ session, store.sessions.get token = some session ∧ session.playerId = playerId := by
  simp only [getTokenByPlayerId, Option.map_eq_some_iff] at h
  obtain ⟨⟨t, session⟩, hfind, rfl⟩ := h
  refine ⟨session, (JsMap.mem_entries_iff _).mp (List.mem_of_find?_eq_some hfind), ?_⟩
  simpa using List.find?_some hfind

theorem getTokenByPlayerId_none {store : SessionStore} {playerId : PlayerId} {token : SessionToken}
    {session : PlayerSession} (h : store.getTokenByPlayerId playerId = none)
    (hs : store.sessions.get token = some session) : session.playerId ≠ playerId := by
  simp only [getTokenByPlayerId, Option.map_eq_none_iff, List.find?_eq_none, decide_eq_true_eq] at h
  exact h _ ((JsMap.mem_entries_iff _).mpr hs)

end SessionStore
end TicTacToe
