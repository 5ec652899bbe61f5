import TicTacToe.Server.SessionStore
import TicTacToe.Server.GameSession

/-! # The state of the server

The `ServerContext` of `src/server/app/commandHandler.ts`, the player-connection registry beside it and
the records of `src/server/ws/connectionManager.ts`, with the primitive operations on them. A connection
is open as long as its record is there. -/

namespace TicTacToe

/-- The random generators of `src/server/utils/idGenerator.ts` and `node:crypto`: the ids that the `n`-th
draw yields. -/
structure IdSource where
  roomId : Nat → RoomId
  gameId : Nat → GameId
  playerId : Nat → PlayerId
  sessionToken : Nat → SessionToken
  connectionId : Nat → ConnectionId
  traceId : Nat → String

/-- No id is ever generated twice. -/
structure IdSource.NeverRepeats (G : IdSource) : Prop where
  roomId : Function.Injective G.roomId
  gameId : Function.Injective G.gameId
  playerId : Function.Injective G.playerId
  sessionToken : Function.Injective G.sessionToken
  connectionId : Function.Injective G.connectionId

structure RateBucket where
  windowStart : Millis
  count : Nat
  deriving DecidableEq

structure ConnectionRecord where
  sessionToken : Option SessionToken
  playerId : Option PlayerId
  authenticated : Bool
  lastMessageAt : Millis
  /-- When the `AUTH` timeout fires; cleared on a successful `AUTH`. -/
  authTimer : Option Millis
  /-- When the idle timeout fires; reset on every message. -/
  idleTimer : Option Millis
  rateBucket : RateBucket
  deriving DecidableEq

structure Server where
  now : Millis
  /-- The number of ids drawn so far. -/
  nextId : Nat
  sessions : SessionStore
  rooms : RoomStore
  gameSessions : JsMap RoomId GameSession
  historyRepository : HistoryRepository
  serverVersion : String
  playerConnectionRegistry : JsMap PlayerId (JsSet ConnectionId)
  connections : JsMap ConnectionId ConnectionRecord
  /-- Every call of a `SendFn` so far, with the room it belongs to. -/
  sendLog : List (RoomId × SendCall)
  /-- Every object written to a socket so far. -/
  wire : List (ConnectionId × WireEvent)

namespace Server

/-- The server as it starts up, with the history it has loaded. -/
def start (now : Millis) (serverVersion : String) (repository : HistoryRepository) : Server where
  now := now
  nextId := 0
  sessions := .empty
  rooms := .empty
  gameSessions := .empty
  historyRepository := repository
  serverVersion := serverVersion
  playerConnectionRegistry := .empty
  connections := .empty
  sendLog := []
  wire := []

/-! ### Connections -/

def RATE_WINDOW_MS : Millis := 10000
def RATE_MAX_MSGS : Nat := 60

/-- The bucket after `checkRate`. -/
def countMessage (now : Millis) (bucket : RateBucket) : RateBucket :=
  let bucket := if now - bucket.windowStart > RATE_WINDOW_MS then ⟨now, 0⟩ else bucket
  { bucket with count := bucket.count + 1 }

def newConnection (now : Millis) : ConnectionRecord where
  sessionToken := none
  playerId := none
  authenticated := false
  lastMessageAt := now
  authTimer := some (now + AUTH_TIMEOUT_MS)
  idleTimer := some (now + CONNECTION_IDLE_TIMEOUT_MS)
  rateBucket := ⟨now, 0⟩

def register (G : IdSource) (s : Server) : Server :=
  { s with connections := s.connections.set (G.connectionId s.nextId) (newConnection s.now), nextId := s.nextId + 1 }

/-- Mark the connection authenticated and clear the `AUTH` timeout. -/
def authenticate (s : Server) (connectionId : ConnectionId) (token : SessionToken) (playerId : PlayerId) : Server :=
  { s with connections := s.connections.modify connectionId fun rec =>
      { rec with sessionToken := some token, playerId := some playerId, authenticated := true, authTimer := none } }

def unregister (s : Server) (connectionId : ConnectionId) : Server :=
  { s with connections := s.connections.delete connectionId }

/-- Update the last-message time and reset the idle timer. -/
def touchConnection (s : Server) (connectionId : ConnectionId) : Server :=
  { s with connections := s.connections.modify connectionId fun rec =>
      { rec with lastMessageAt := s.now, idleTimer := some (s.now + CONNECTION_IDLE_TIMEOUT_MS) } }

/-- `checkRateLimit`: what it counts, and whether the message is within the limit. -/
def countFrame (s : Server) (connectionId : ConnectionId) : Server :=
  { s with connections := s.connections.modify connectionId fun rec =>
      { rec with rateBucket := countMessage s.now rec.rateBucket } }

def withinRateLimit (s : Server) (connectionId : ConnectionId) : Bool :=
  (s.connections.get connectionId).any fun rec => (countMessage s.now rec.rateBucket).count ≤ RATE_MAX_MSGS

/-- Write an object to the socket, or drop it when the connection is gone. -/
def send (s : Server) (connectionId : ConnectionId) (event : WireEvent) : Server :=
  if s.connections.has connectionId then { s with wire := s.wire ++ [(connectionId, event)] } else s

/-- A close by the server: a final event, then the record is removed. -/
def close (s : Server) (connectionId : ConnectionId) (finalEvent : Option WireEvent) : Server :=
  match finalEvent with
  | none => s.unregister connectionId
  | some event => (s.send connectionId event).unregister connectionId

/-! ### The registry of player connections -/

def getPlayerConnectionIds (s : Server) (playerId : PlayerId) : JsSet ConnectionId :=
  (s.playerConnectionRegistry.get playerId).getD []

def registerPlayerConnection (s : Server) (playerId : PlayerId) (connectionId : ConnectionId) : Server :=
  { s with playerConnectionRegistry :=
      s.playerConnectionRegistry.set playerId (JsSet.add (s.getPlayerConnectionIds playerId) connectionId) }

/-- The server after the call. An emptied set is deleted. -/
def unregisterPlayerConnection (s : Server) (playerId : PlayerId) (connectionId : ConnectionId) : Server :=
  match s.playerConnectionRegistry.get playerId with
  | none => s
  | some connections =>
    let connections := JsSet.delete connections connectionId
    { s with playerConnectionRegistry :=
        if connections = [] then s.playerConnectionRegistry.delete playerId
        else s.playerConnectionRegistry.set playerId connections }

def sendToPlayerConnections (s : Server) (playerId : PlayerId) (event : WireEvent) : Server :=
  (s.getPlayerConnectionIds playerId).foldl (fun s connectionId => s.send connectionId event) s

/-! ### Stores -/

def getSession (s : Server) (token : SessionToken) : Option PlayerSession := s.sessions.getSession s.now token

def afterGetSession (s : Server) (token : SessionToken) : Server :=
  { s with sessions := s.sessions.afterGetSession s.now token }

def getRoom (s : Server) (roomId : RoomId) : Option RoomRecord := s.rooms.getRoom s.now roomId

def afterGetRoom (s : Server) (roomId : RoomId) : Server := { s with rooms := s.rooms.afterGetRoom s.now roomId }

def putRoom (s : Server) (roomId : RoomId) (room : RoomRecord) : Server := { s with rooms := s.rooms.put roomId room }

def putGame (s : Server) (roomId : RoomId) (gs : GameSession) : Server :=
  { s with gameSessions := s.gameSessions.set roomId gs }

def setSessionRoom (s : Server) (token : SessionToken) (roomId : Option RoomId) : Server :=
  { s with sessions := s.sessions.setRoom token roomId }

def touchSession (s : Server) (token : SessionToken) : Server := { s with sessions := s.sessions.touch s.now token }

def recordCommand (s : Server) (commandId : CommandId) (result : WireEvent) : Server :=
  { s with sessions := s.sessions.recordCommand s.now commandId result }

def drawIds (s : Server) (n : Nat) : Server := { s with nextId := s.nextId + n }

/-! ### The send function of a game session -/

/-- The slots of `room` to which a call is delivered. -/
def recipients (room : RoomRecord) (call : SendCall) : List PlayerId :=
  let connected := ([room.playerX, room.playerO].filterMap id).filter PlayerSlot.connected
  match call.target with
  | .player => [call.playerId]
  | .broadcast => connected.map PlayerSlot.playerId
  | .others => (connected.map PlayerSlot.playerId).filter (· ≠ call.playerId)

/-- `makeSendFn`: nothing is delivered when the room is gone. -/
def sendFn (s : Server) (roomId : RoomId) (call : SendCall) : Server :=
  let found := s.getRoom roomId
  let s := { s.afterGetRoom roomId with sendLog := s.sendLog ++ [(roomId, call)] }
  match found with
  | none => s
  | some room => (recipients room call).foldl (fun s playerId => s.sendToPlayerConnections playerId (.event call.event)) s

def sendAll (s : Server) (roomId : RoomId) (calls : List SendCall) : Server :=
  calls.foldl (fun s call => s.sendFn roomId call) s

/-- A method call on the game session of a room, with its effects. -/
def applyEmitted (s : Server) (roomId : RoomId) (e : Emitted) : Server :=
  (s.putGame roomId e.session).sendAll roomId e.sends

def applyEffect (s : Server) (roomId : RoomId) (e : GameEffect) : Server :=
  { s.applyEmitted roomId e.toEmitted with historyRepository := e.historyRepository }

end Server
end TicTacToe
