import TicTacToe.Lib.JsMap
import TicTacToe.Protocol.Types

/-! # The room store

The in-memory room registry of `src/server/app/roomStore.ts`. A record that the store has dropped stays
in `evicted`: timer callbacks hold a reference to the object. -/

namespace TicTacToe

structure PlayerSlot where
  playerId : PlayerId
  symbol : PlayerSymbol
  name : Option PlayerName
  /-- True when the player has an active connection. -/
  connected : Bool
  lastSeenAt : Millis
  deriving DecidableEq

structure RoomRecord where
  roomId : RoomId
  playerX : Option PlayerSlot
  playerO : Option PlayerSlot
  /-- Which symbols have declared readiness for the current game. -/
  readySymbols : JsSet PlayerSymbol
  createdAt : Millis
  lastActivityAt : Millis
  deriving DecidableEq

def roomStatus (room : RoomRecord) : RoomStatus :=
  if room.playerX.isSome && room.playerO.isSome then .full else .open

def playerCount (room : RoomRecord) : Nat :=
  (if room.playerX.isSome then 1 else 0) + (if room.playerO.isSome then 1 else 0)

/-- Whether a slot is occupied by the player. -/
def slotHolds (slot : Option PlayerSlot) (playerId : PlayerId) : Bool := slot.any fun x => x.playerId = playerId

def getSlotByPlayerId (room : RoomRecord) (playerId : PlayerId) : Option PlayerSlot :=
  if slotHolds room.playerX playerId then room.playerX
  else if slotHolds room.playerO playerId then room.playerO else none

def getSymbolForPlayer (room : RoomRecord) (playerId : PlayerId) : Option PlayerSymbol :=
  if slotHolds room.playerX playerId then some .X
  else if slotHolds room.playerO playerId then some .O else none

def getOpponentSlot (room : RoomRecord) (playerId : PlayerId) : Option PlayerSlot :=
  if slotHolds room.playerX playerId then room.playerO
  else if slotHolds room.playerO playerId then room.playerX else none

/-! ### Operations on a record -/

namespace RoomRecord

def fresh (roomId : RoomId) (now : Millis) : RoomRecord := ⟨roomId, none, none, [], now, now⟩

/-- The slot of a symbol. -/
def slot (room : RoomRecord) : PlayerSymbol → Option PlayerSlot
  | .X => room.playerX
  | .O => room.playerO

def touch (room : RoomRecord) (now : Millis) : RoomRecord := { room with lastActivityAt := now }

/-- Assign the next free symbol to the player; `none` when the room is full. -/
def addPlayer (room : RoomRecord) (now : Millis) (playerId : PlayerId) (name : Option PlayerName) :
    Option (PlayerSymbol × RoomRecord) :=
  if room.playerX = none then
    some (.X, { room with playerX := some ⟨playerId, .X, name, true, now⟩, lastActivityAt := now })
  else if room.playerO = none then
    some (.O, { room with playerO := some ⟨playerId, .O, name, true, now⟩, lastActivityAt := now })
  else none

def removePlayer (room : RoomRecord) (now : Millis) (playerId : PlayerId) : RoomRecord :=
  if slotHolds room.playerX playerId then
    { room with playerX := none, readySymbols := JsSet.delete room.readySymbols .X, lastActivityAt := now }
  else if slotHolds room.playerO playerId then
    { room with playerO := none, readySymbols := JsSet.delete room.readySymbols .O, lastActivityAt := now }
  else room.touch now

def setConnected (room : RoomRecord) (now : Millis) (playerId : PlayerId) (connected : Bool) : RoomRecord :=
  let update (slot : PlayerSlot) : PlayerSlot := { slot with connected := connected, lastSeenAt := now }
  if slotHolds room.playerX playerId then { room with playerX := room.playerX.map update, lastActivityAt := now }
  else if slotHolds room.playerO playerId then { room with playerO := room.playerO.map update, lastActivityAt := now }
  else room

def markReady (room : RoomRecord) (symbol : PlayerSymbol) : RoomRecord :=
  { room with readySymbols := JsSet.add room.readySymbols symbol }

def bothReady (room : RoomRecord) : Bool := .X ∈ room.readySymbols && .O ∈ room.readySymbols

def resetReady (room : RoomRecord) : RoomRecord := { room with readySymbols := [] }

/-- The room has been idle for longer than its TTL. -/
def isExpired (now : Millis) (room : RoomRecord) : Bool := now - room.lastActivityAt > ROOM_TTL_MS

theorem live_of_active {now : Millis} {room : RoomRecord} (h : room.lastActivityAt = now) : room.isExpired now = false := by
  simp [isExpired, h, ROOM_TTL_MS]

theorem touch_live (room : RoomRecord) (now : Millis) : (room.touch now).isExpired now = false := live_of_active rfl

theorem removePlayer_live (room : RoomRecord) (now : Millis) (playerId : PlayerId) :
    (room.removePlayer now playerId).isExpired now = false := by
  unfold removePlayer
  split
  · exact live_of_active rfl
  · split <;> exact live_of_active rfl

theorem setConnected_live {room : RoomRecord} {now : Millis} (h : room.isExpired now = false) (playerId : PlayerId)
    (connected : Bool) : (room.setConnected now playerId connected).isExpired now = false := by
  unfold setConnected
  dsimp only
  split
  · exact live_of_active rfl
  · split
    · exact live_of_active rfl
    · exact h

end RoomRecord

/-! ### The store -/

structure RoomStore where
  rooms : JsMap RoomId RoomRecord
  evicted : JsMap RoomId RoomRecord

namespace RoomStore

def empty : RoomStore := ⟨.empty, .empty⟩

def createRoom (store : RoomStore) (now : Millis) (roomId : RoomId) : RoomStore :=
  { store with rooms := store.rooms.set roomId (.fresh roomId now) }

/-- What `getRoom` returns. -/
def getRoom (store : RoomStore) (now : Millis) (roomId : RoomId) : Option RoomRecord :=
  store.rooms.lookup (RoomRecord.isExpired now) roomId

/-- What `getRoom` does to the store: an expired room is deleted on access. -/
def afterGetRoom (store : RoomStore) (now : Millis) (roomId : RoomId) : RoomStore where
  rooms := store.rooms.evict (RoomRecord.isExpired now) roomId
  evicted := match store.rooms.get roomId with
    | some room => if room.isExpired now then store.evicted.set roomId room else store.evicted
    | none => store.evicted

/-- The effect of mutating the object stored under `roomId` into `room`. -/
def put (store : RoomStore) (roomId : RoomId) (room : RoomRecord) : RoomStore :=
  { store with rooms := store.rooms.set roomId room }

def purgeExpired (store : RoomStore) (now : Millis) : RoomStore where
  rooms := store.rooms.purge (RoomRecord.isExpired now)
  evicted := store.rooms.entries.foldl
    (fun dropped (roomId, room) => if room.isExpired now then dropped.set roomId room else dropped) store.evicted

/-- The room object that was stored under `roomId` last, whether or not the store still has it. -/
def object (store : RoomStore) (roomId : RoomId) : Option RoomRecord :=
  (store.rooms.get roomId).or (store.evicted.get roomId)

/-! ### Reading -/

variable {store : RoomStore} {now : Millis} {roomId r : RoomId} {room : RoomRecord}

theorem getRoom_eq_some :
    store.getRoom now roomId = some room ↔ store.rooms.get roomId = some room ∧ room.isExpired now = false :=
  JsMap.lookup_eq_some

theorem rooms_get_afterGetRoom :
    (store.afterGetRoom now roomId).rooms.get r =
      if roomId = r then store.getRoom now roomId else store.rooms.get r := JsMap.get_evict _ _ _

@[simp] theorem rooms_get_afterGetRoom_self :
    (store.afterGetRoom now roomId).rooms.get roomId = store.getRoom now roomId := by
  simp [rooms_get_afterGetRoom]

/-- Access by a live room's id leaves the store as it is. -/
theorem afterGetRoom_eq_self (h : store.getRoom now roomId = some room) : store.afterGetRoom now roomId = store := by
  obtain ⟨hget, hlive⟩ := getRoom_eq_some.mp h
  have hrooms : store.rooms.evict (RoomRecord.isExpired now) roomId = store.rooms := JsMap.evict_eq_self h
  simp [afterGetRoom, hrooms, hget, hlive]

theorem getRoom_afterGetRoom : (store.afterGetRoom now roomId).getRoom now r = store.getRoom now r :=
  JsMap.lookup_evict _ _ _

theorem afterGetRoom_idem (store : RoomStore) (now : Millis) (roomId : RoomId) :
    (store.afterGetRoom now roomId).afterGetRoom now roomId = store.afterGetRoom now roomId := by
  cases hroom : store.getRoom now roomId with
  | some room => exact afterGetRoom_eq_self (getRoom_afterGetRoom.trans hroom)
  | none =>
    have hget : (store.afterGetRoom now roomId).rooms.get roomId = none := by simp [hroom]
    have hrooms : (store.afterGetRoom now roomId).rooms.evict (RoomRecord.isExpired now) roomId =
        (store.afterGetRoom now roomId).rooms := by simp [JsMap.evict, hget]
    rw [afterGetRoom, hrooms, hget]

@[simp] theorem object_afterGetRoom : (store.afterGetRoom now roomId).object r = store.object r := by
  unfold object
  rw [rooms_get_afterGetRoom]
  by_cases hr : roomId = r
  · subst hr
    cases hget : store.rooms.get roomId with
    | none => simp [afterGetRoom, hget, getRoom, JsMap.lookup]
    | some room =>
      cases hx : room.isExpired now <;> simp [afterGetRoom, hget, getRoom, JsMap.lookup, hx, Option.filter]
  · cases hget : store.rooms.get roomId with
    | none => simp [afterGetRoom, hget, hr]
    | some room => cases hx : room.isExpired now <;> simp [afterGetRoom, hget, hr, hx, JsMap.get_set]

theorem object_put : (store.put roomId room).object r = if roomId = r then some room else store.object r := by
  unfold object put
  by_cases hr : roomId = r <;> simp [JsMap.get_set, hr]

theorem object_of_get (h : store.rooms.get roomId = some room) : store.object roomId = some room := by
  simp [object, h]

theorem object_createRoom :
    (store.createRoom now roomId).object r = if roomId = r then some (.fresh roomId now) else store.object r := by
  unfold object createRoom
  by_cases hr : roomId = r <;> simp [JsMap.get_set, hr]

theorem get_dropped {es : List (RoomId × RoomRecord)} (hn : (es.map Prod.fst).Nodup) (dropped : JsMap RoomId RoomRecord) :
    (es.foldl (fun dropped (roomId, room) => if room.isExpired now then dropped.set roomId room else dropped) dropped).get
      r = ((JsMap.find r es).filter (RoomRecord.isExpired now)).or (dropped.get r) := by
  induction es generalizing dropped with
  | nil => rfl
  | cons e es ih =>
    obtain ⟨k, room⟩ := e
    simp only [List.map_cons, List.nodup_cons] at hn
    rw [List.foldl_cons, ih hn.2]
    by_cases hk : k = r
    · subst hk
      rw [JsMap.find_eq_none hn.1]
      cases hx : room.isExpired now <;> simp [JsMap.find, Option.filter, hx]
    · cases hx : room.isExpired now <;> simp [JsMap.find, hk, JsMap.get_set, hx]

@[simp] theorem object_purgeExpired : (store.purgeExpired now).object r = store.object r := by
  unfold object purgeExpired
  rw [JsMap.get_purge, get_dropped store.rooms.nodup]
  simp only [JsMap.lookup]
  cases hget : store.rooms.get r with
  | none => simp [show JsMap.find r store.rooms.entries = none from hget]
  | some room =>
    rw [show JsMap.find r store.rooms.entries = some room from hget]
    cases hx : room.isExpired now <;> simp [Option.filter, hx]

theorem getRoom_purgeExpired : (store.purgeExpired now).getRoom now r = store.getRoom now r := JsMap.lookup_purge _ _

end RoomStore
end TicTacToe
