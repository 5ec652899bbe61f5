import TicTacToe.Lib.Transition
import TicTacToe.Server.CommandHandler

/-! # The message router and the runs of the server

Frames and closes reach the handlers through `src/server/ws/messageRouter.ts`; timers, the HTTP surface and
the maintenance job are wired in `wsServer.ts`, `roomsRouter.ts` and `index.ts`. Every callback runs to its
end before the next one, so a run of the server is a sequence of inputs. -/

namespace TicTacToe
namespace Server

/-! ### Errors and deliveries -/

/-- `sendError` of the router: the connection is closed when the code's metadata says so. -/
def sendError (s : Server) (connectionId : ConnectionId) (code : ErrorCode) (correlationId : Option CommandId) :
    Server :=
  let event := WireEvent.event
    (makeErrorEvent code (ERROR_META code).summary (ERROR_META code).recoverable correlationId none)
  if (ERROR_META code).closesConnection then s.close connectionId (some event) else s.send connectionId event

def deliver (s : Server) (deliveries : List Delivery) : Server :=
  deliveries.foldl (fun s delivery =>
    match delivery with
    | .connection connectionId event => s.send connectionId event
    | .broadcast playerId event => s.sendToPlayerConnections playerId event) s

/-- The exception boundary around a handler and the delivery of its result. -/
def conclude (G : IdSource) (connectionId : ConnectionId) (commandId : CommandId) (result : HandlerResult) : Server :=
  if result.threw then
    (result.server.drawIds 1).send connectionId
      (.event (makeErrorEvent .INTERNAL_ERROR (ERROR_META .INTERNAL_ERROR).summary
        (ERROR_META .INTERNAL_ERROR).recoverable (some commandId) (some (G.traceId result.server.nextId))))
  else result.server.deliver result.deliveries

/-! ### Frames -/

def parseFailureCode : ParseFailure → ErrorCode
  | .protocolVersionMismatch => .PROTOCOL_VERSION_MISMATCH
  | .unknownMessageType => .UNKNOWN_MESSAGE_TYPE
  | .malformed => .MALFORMED_MESSAGE

/-- `AUTH` and `PING` may be sent before authentication. -/
def isAuthExempt : CommandBody → Bool
  | .auth _ => true
  | .ping _ => true
  | _ => false

/-- After `handleAuth`: an `AUTH_ACK` binds the connection to its session. -/
def bindConnection (connectionId : ConnectionId) (result : HandlerResult) : HandlerResult :=
  match result.deliveries with
  | .connection _ (.event (.authAck token playerId _ _ _)) :: _ =>
    { result with
      server := (result.server.authenticate connectionId token playerId).registerPlayerConnection playerId connectionId }
  | _ => result

/-- After `handleReconnect`: the connection is registered for its player. -/
def registerReconnected (connectionId : ConnectionId) (playerId : Option PlayerId) (result : HandlerResult) :
    HandlerResult :=
  match playerId with
  | none => result
  | some playerId => { result with server := result.server.registerPlayerConnection playerId connectionId }

/-- The routing switch for a connection with record `rec`. Without a session, only `AUTH` and `PING` get here. -/
def dispatch (G : IdSource) (s : Server) (connectionId : ConnectionId) (rec : ConnectionRecord) (command : Command)
    (diskFails : Bool) : HandlerResult :=
  match command.body, rec.sessionToken with
  | .auth guestToken, _ => bindConnection connectionId (s.handleAuth G connectionId command.commandId guestToken)
  | .ping clientTime, _ => s.handlePing connectionId command.commandId clientTime
  | _, none => s.ok []
  | .joinRoom roomId playerName, some token =>
    s.handleJoinRoom connectionId command.commandId roomId playerName token
  | .leaveRoom roomId, some token => s.handleLeaveRoom connectionId command.commandId roomId token diskFails
  | .playerReady roomId, some token => s.handlePlayerReady G connectionId command.commandId roomId token
  | .makeMove roomId gameId position, some token =>
    s.handleMakeMove connectionId command.commandId roomId gameId position token diskFails
  | .requestRematch roomId gameId, some token =>
    s.handleRequestRematch connectionId command.commandId roomId gameId token
  | .acceptRematch roomId gameId, some token =>
    s.handleAcceptRematch G connectionId command.commandId roomId gameId token
  | .declineRematch roomId gameId, some token =>
    s.handleDeclineRematch connectionId command.commandId roomId gameId token
  | .reconnect roomId lastReceivedSeq, some token =>
    registerReconnected connectionId rec.playerId
      (s.handleReconnect connectionId command.commandId roomId lastReceivedSeq token)
  | .syncRequest roomId fromSeq, some token =>
    s.handleSyncRequest connectionId command.commandId roomId fromSeq token

/-- The auth guard, the session check and the exception boundary around a parsed command. -/
def handleCommand (G : IdSource) (s : Server) (connectionId : ConnectionId) (command : Command) (diskFails : Bool) :
    Server :=
  match s.connections.get connectionId with
  | none => s
  | some rec =>
    if !rec.authenticated && !isAuthExempt command.body then
      s.sendError connectionId .NOT_AUTHENTICATED (some command.commandId)
    else match (if rec.authenticated then rec.sessionToken else none) with
      | none => conclude G connectionId command.commandId (s.dispatch G connectionId rec command diskFails)
      | some token =>
        if (s.getSession token).isNone then
          (s.afterGetSession token).sendError connectionId .SESSION_EXPIRED (some command.commandId)
        else
          conclude G connectionId command.commandId
            (((s.afterGetSession token).touchSession token).dispatch G connectionId rec command diskFails)

def handleFrame (G : IdSource) (s : Server) (connectionId : ConnectionId) (frame : RawFrame) (diskFails : Bool) :
    Server :=
  if frame.byteLength > MAX_FRAME_BYTES then s.sendError connectionId .MESSAGE_TOO_LARGE none
  else
    let touched := s.touchConnection connectionId
    let s := touched.countFrame connectionId
    if !touched.withinRateLimit connectionId then s.sendError connectionId .RATE_LIMITED none
    else match frame.parseResult with
      | .error reason => s.sendError connectionId (parseFailureCode reason) none
      | .ok command => s.handleCommand G connectionId command diskFails

/-! ### Closes and timeouts -/

/-- The socket has reported a close or an error. -/
def handleClose (s : Server) (connectionId : ConnectionId) : Server :=
  match s.connections.get connectionId with
  | none => s.unregister connectionId
  | some rec =>
    match rec.sessionToken with
    | none => s.unregister connectionId
    | some token =>
      match rec.playerId with
      | none => (s.handleDisconnect token).unregister connectionId
      | some playerId =>
        let s := s.unregisterPlayerConnection playerId connectionId
        if s.getPlayerConnectionIds playerId ≠ [] then s.unregister connectionId
        else (s.handleDisconnect token).unregister connectionId

def onAuthTimeout (s : Server) (connectionId : ConnectionId) : Server :=
  s.close connectionId (some (.event
    (makeErrorEvent .AUTH_TIMEOUT (ERROR_META .AUTH_TIMEOUT).summary false none none)))

def onIdleTimeout (s : Server) (connectionId : ConnectionId) : Server := s.close connectionId none

/-! ### Runs -/

end Server

/-- What can happen next. A timer may fire at any moment from its deadline on. -/
inductive Input where
  | tick (elapsed : Nat)
  | connect
  | frame (connectionId : ConnectionId) (frame : RawFrame) (diskFails : Bool)
  /-- The `close` or `error` event of a socket. -/
  | socketClosed (connectionId : ConnectionId)
  | authTimeout (connectionId : ConnectionId)
  | idleTimeout (connectionId : ConnectionId)
  | wsPong (connectionId : ConnectionId)
  | reconnectWindow (roomId : RoomId) (playerId : PlayerId) (diskFails : Bool)
  | rematchTimer (roomId : RoomId)
  /-- `POST /api/rooms`. -/
  | createRoom
  /-- `GET /api/rooms/:id` and its history: the room is looked up. -/
  | httpGetRoom (roomId : RoomId)
  /-- The maintenance job. -/
  | maintenance

namespace Server

/-- A pending timer whose deadline has passed. -/
def due (s : Server) (deadline : Option Millis) : Bool := deadline.any (· ≤ s.now)

/-- One input; there is no next state when its timer is not due, or when its callback throws and takes the
process down. -/
def step (G : IdSource) (s : Server) : Input → Option Server
  | .tick elapsed => some { s with now := s.now + elapsed }
  | .connect => some (s.register G)
  | .frame connectionId frame diskFails => some (s.handleFrame G connectionId frame diskFails)
  | .socketClosed connectionId => some (s.handleClose connectionId)
  | .authTimeout connectionId =>
    if s.due ((s.connections.get connectionId).bind ConnectionRecord.authTimer) then some (s.onAuthTimeout connectionId)
    else none
  | .idleTimeout connectionId =>
    if s.due ((s.connections.get connectionId).bind ConnectionRecord.idleTimer) then some (s.onIdleTimeout connectionId)
    else none
  | .wsPong connectionId => some (s.touchConnection connectionId)
  | .reconnectWindow roomId playerId diskFails =>
    match s.gameSessions.get roomId with
    | none => none
    | some gs =>
      match gs.reconnectTimers.get playerId with
      | none => none
      | some timer =>
        if timer.deadline ≤ s.now then
          let fired := s.fireReconnectWindow roomId gs playerId timer diskFails
          if fired.2 then none else some fired.1
        else none
  | .rematchTimer roomId =>
    match s.gameSessions.get roomId, s.rooms.object roomId with
    | some gs, some room =>
      match gs.rematch with
      | none => none
      | some proposal =>
        if proposal.expiresAt ≤ s.now then some (s.applyEmitted roomId (gs.expireRematch room proposal.gameId))
        else none
    | _, _ => none
  | .createRoom =>
    some { s with rooms := s.rooms.createRoom s.now (G.roomId s.nextId), nextId := s.nextId + 1 }
  | .httpGetRoom roomId => some (s.afterGetRoom roomId)
  | .maintenance => some { s with sessions := s.sessions.purgeExpired s.now, rooms := s.rooms.purgeExpired s.now }

/-- The server states reached from `s` by steps that meet `C`. -/
abbrev Runs (G : IdSource) (C : Server → Input → Prop) : Server → Server → Prop := Transition.Runs (step G) C

end Server
end TicTacToe
