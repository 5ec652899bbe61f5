import TicTacToe.Protocol.Commands
import TicTacToe.Server.State

/-! # The command handlers

The handlers of `src/server/app/commandHandler.ts`. Each returns the server after it, the deliveries it asks
the router for, and whether it threw; only saving a completed game can throw. -/

namespace TicTacToe

/-- An event for one connection, or for all connections of a player. -/
inductive Delivery where
  | connection (connectionId : ConnectionId) (event : WireEvent)
  | broadcast (playerId : PlayerId) (event : WireEvent)

structure HandlerResult where
  server : Server
  deliveries : List Delivery
  threw : Bool

/-- Units of the `String.prototype.trim` whitespace set. -/
def isJsSpace (u : UInt16) : Bool :=
  (9 ≤ u && u ≤ 13) || u == 32 || u == 0xA0 || u == 0x1680 || (0x2000 ≤ u && u ≤ 0x200A) || u == 0x2028 ||
    u == 0x2029 || u == 0x202F || u == 0x205F || u == 0x3000 || u == 0xFEFF

def trimName (name : PlayerName) : PlayerName := (((name.dropWhile isJsSpace).reverse).dropWhile isJsSpace).reverse

/-- Trim, cut to `MAX_PLAYER_NAME_LENGTH` units, strip the characters `<`, `>`, `"`, `'` and `&`. -/
def sanitiseName (raw : Option PlayerName) : Option PlayerName :=
  raw.map fun name => ((trimName name).take MAX_PLAYER_NAME_LENGTH).filter fun u => !([60, 62, 34, 39, 38].contains u)

namespace Server

/-! ### Shared parts -/

def ok (s : Server) (deliveries : List Delivery) : HandlerResult := ⟨s, deliveries, false⟩

/-- `errorDelivery` for the code's metadata. -/
def refuse (s : Server) (connectionId : ConnectionId) (code : ErrorCode) (correlationId : CommandId) : HandlerResult :=
  s.ok [.connection connectionId
    (.event (makeErrorEvent code (ERROR_META code).summary (ERROR_META code).recoverable (some correlationId) none))]

/-- The session lookup at the head of every room command. -/
def withSession (s : Server) (connectionId : ConnectionId) (commandId : CommandId) (token : SessionToken)
    (handle : Server → PlayerSession → HandlerResult) : HandlerResult :=
  match s.getSession token with
  | none => (s.afterGetSession token).refuse connectionId .NOT_AUTHENTICATED commandId
  | some session => handle (s.afterGetSession token) session

/-- What a cached object reads as when it is serialised again. The cache holds the object itself, and `gameHistory` in
the snapshot of a room refers to the array of the room's session: the games recorded since are in it as well. -/
def reread (s : Server) : WireEvent → WireEvent
  | .event (.room event) =>
    match s.gameSessions.get event.roomId with
    | none => .event (.room event)
    | some gs => .event (.room { event with payload := event.payload.withHistory gs.history })
  | cached => cached

/-- The dedup check: a cached response is answered through `answer` and nothing else happens. -/
def unlessCached (s : Server) (commandId : CommandId) (answer : WireEvent → List Delivery)
    (handle : Server → HandlerResult) : HandlerResult :=
  let looked := { s with sessions := s.sessions.afterGetCachedResult s.now commandId }
  match s.sessions.getCachedResult s.now commandId with
  | some cached => looked.ok (answer (s.reread cached))
  | none => handle looked

/-- The room lookup. -/
def withRoom (s : Server) (connectionId : ConnectionId) (commandId : CommandId) (roomId : RoomId)
    (handle : Server → RoomRecord → HandlerResult) : HandlerResult :=
  match s.getRoom roomId with
  | none => (s.afterGetRoom roomId).refuse connectionId .ROOM_NOT_FOUND commandId
  | some room => handle (s.afterGetRoom roomId) room

/-- `connection` and `cached` are the id of the asking connection and the response to send to it. -/
def resend (connectionId : ConnectionId) (cached : WireEvent) : List Delivery := [.connection connectionId cached]

/-- Session, dedup check and room lookup, in the order all room commands but `JOIN_ROOM` share. -/
def roomCommand (s : Server) (connectionId : ConnectionId) (commandId : CommandId) (token : SessionToken)
    (roomId : RoomId) (answer : WireEvent → List Delivery)
    (handle : Server → PlayerSession → RoomRecord → HandlerResult) : HandlerResult :=
  s.withSession connectionId commandId token fun s session =>
    s.unlessCached commandId answer fun s =>
      s.withRoom connectionId commandId roomId fun s room => handle s session room

/-- Record the response and deliver it to the asking connection. -/
def respond (s : Server) (connectionId : ConnectionId) (commandId : CommandId) (event : Event)
    (others : List Delivery) : HandlerResult :=
  (s.recordCommand commandId (.event event)).ok (.connection connectionId (.event event) :: others)

def playerInfo (symbol : PlayerSymbol) (slot : PlayerSlot) : PlayerInfo where
  playerId := slot.playerId
  symbol := symbol
  name := slot.name
  connectionState := if slot.connected then .connected else .disconnected
  lastSeenAt := slot.lastSeenAt

def currentGame (state : GameState) : CurrentGame where
  gameId := state.gameId
  status := state.status
  board := state.board
  currentTurn := state.currentTurn
  moveCount := state.moveHistory.length
  startedAt := state.createdAt
  result := state.result

/-- The callers have just looked the room up. `gameHistory` is the array of the session itself: a cached snapshot shows
what `reread` finds in it. -/
def buildRoomSnapshot (s : Server) (roomId : RoomId) : RoomStateSnapshot :=
  let room := s.getRoom roomId
  let session := s.gameSessions.get roomId
  { roomId := roomId
    status := (room.map roomStatus).getD .open
    players := ⟨(room.bind RoomRecord.playerX).map (playerInfo .X), (room.bind RoomRecord.playerO).map (playerInfo .O)⟩
    readyPlayers := (room.map RoomRecord.readySymbols).getD []
    currentGame := (session.bind GameSession.gameState).map currentGame
    gameHistory := (session.map GameSession.history).getD [] }

/-- The room's session, created when there is none. -/
def ensureGameSession (s : Server) (roomId : RoomId) : Server :=
  if s.gameSessions.has roomId then s else s.putGame roomId (.new roomId s.historyRepository)

/-- `gs?.allocateSequence()`. -/
def allocateSequence (s : Server) (roomId : RoomId) : Server :=
  { s with gameSessions := s.gameSessions.modify roomId GameSession.allocateSequence }

/-- The session's sequence number, or `default` without a session. -/
def sequenceOr (s : Server) (roomId : RoomId) (default : Nat) : Nat :=
  ((s.gameSessions.get roomId).map GameSession.sessionSeq).getD default

/-! ### Authentication -/

/-- The room the player is still associated with, and its effects: an association with a room that is gone
is cleared. -/
def existingRoom (s : Server) (session : PlayerSession) : Server × Option ExistingRoom :=
  match session.roomId with
  | none => (s, none)
  | some roomId =>
    let room := s.getRoom roomId
    let s := s.afterGetRoom roomId
    match room.bind fun room => getSymbolForPlayer room session.playerId with
    | some symbol =>
      let status := ((s.gameSessions.get roomId).bind GameSession.gameState).map GameState.status
      (s, some ⟨roomId, symbol, status.getD .waiting⟩)
    | none => (s.setSessionRoom session.sessionToken none, none)

def acknowledgeAuth (s : Server) (connectionId : ConnectionId) (commandId : CommandId) (session : PlayerSession) :
    HandlerResult :=
  let found := (s.touchSession session.sessionToken).existingRoom session
  found.1.respond connectionId commandId
    (makeAuthAck session.sessionToken session.playerId s.serverVersion found.2 commandId) []

def handleAuth (G : IdSource) (s : Server) (connectionId : ConnectionId) (commandId : CommandId)
    (guestToken : Option SessionToken) : HandlerResult :=
  s.unlessCached commandId (resend connectionId) fun s =>
    -- An empty token counts as none.
    match guestToken.filter (· ≠ "") with
    | some token =>
      match s.getSession token with
      | none => (s.afterGetSession token).refuse connectionId .AUTH_FAILED commandId
      | some session => (s.afterGetSession token).acknowledgeAuth connectionId commandId session
    | none =>
      let token := G.sessionToken s.nextId
      let playerId := G.playerId s.nextId
      { s with sessions := s.sessions.createSession s.now token playerId, nextId := s.nextId + 1 }.acknowledgeAuth
        connectionId commandId (SessionStore.newSession s.now token playerId)

/-! ### Rooms -/

/-- Already in this room: the state is sent again. -/
def rejoinRoom (s : Server) (connectionId : ConnectionId) (commandId : CommandId) (roomId : RoomId)
    (playerId : PlayerId) (slot : PlayerSlot) : HandlerResult :=
  let snapshot := s.buildRoomSnapshot roomId
  let s := s.allocateSequence roomId
  s.respond connectionId commandId
    (.room (makeRoomJoined roomId playerId slot.symbol snapshot (s.sequenceOr roomId 1) commandId)) []

/-- A new slot has been taken: `room` is the record after `addPlayer`. -/
def enterRoom (s : Server) (connectionId : ConnectionId) (commandId : CommandId) (roomId : RoomId)
    (token : SessionToken) (playerId : PlayerId) (name : Option PlayerName) (symbol : PlayerSymbol)
    (room : RoomRecord) : HandlerResult :=
  let s := (s.putRoom roomId (room.touch s.now)).setSessionRoom token (some roomId)
  let s := (s.ensureGameSession roomId).allocateSequence roomId
  let joined := makeRoomJoined roomId playerId symbol (s.buildRoomSnapshot roomId) (s.sequenceOr roomId 1) commandId
  match room.slot (opponent symbol) with
  | none => s.respond connectionId commandId (.room joined) []
  | some otherSlot =>
    let s := s.allocateSequence roomId
    s.respond connectionId commandId (.room joined)
      [.broadcast otherSlot.playerId
        (.event (.room (makePlayerJoined roomId playerId symbol name (playerCount room) (s.sequenceOr roomId 1))))]

def handleJoinRoom (s : Server) (connectionId : ConnectionId) (commandId : CommandId) (roomId : RoomId)
    (playerName : Option PlayerName) (token : SessionToken) : HandlerResult :=
  s.withSession connectionId commandId token fun s session =>
    s.unlessCached commandId (resend connectionId) fun s =>
      if session.roomId.any (· ≠ roomId) then s.refuse connectionId .ALREADY_IN_ROOM commandId
      else s.withRoom connectionId commandId roomId fun s room =>
        match getSlotByPlayerId room session.playerId with
        | some slot => s.rejoinRoom connectionId commandId roomId session.playerId slot
        | none =>
          if playerCount room ≥ 2 then s.refuse connectionId .ROOM_FULL commandId
          else match room.addPlayer s.now session.playerId (sanitiseName playerName) with
            | none => s.refuse connectionId .ROOM_FULL commandId
            | some (symbol, room) =>
              s.enterRoom connectionId commandId roomId token session.playerId (sanitiseName playerName) symbol room

/-- The end of `handleLeaveRoom`, once a running game has been forfeited. -/
def vacateRoom (s : Server) (connectionId : ConnectionId) (commandId : CommandId) (roomId : RoomId)
    (token : SessionToken) (playerId : PlayerId) (slot : PlayerSlot) (room : RoomRecord) : HandlerResult :=
  let s := s.allocateSequence roomId
  let seqNow := s.sequenceOr roomId 1
  let state := (s.gameSessions.get roomId).bind GameSession.gameState
  let forfeited := state.any fun state =>
    state.status = .finished && state.result.any fun result => result.reason = .playerForfeited
  let s := s.allocateSequence roomId
  let left := makePlayerLeft roomId playerId slot.symbol (if forfeited then .forfeit else .voluntary)
    (s.sequenceOr roomId (seqNow + 1))
  let told := (getOpponentSlot room playerId).toList.map fun opponentSlot =>
    Delivery.broadcast opponentSlot.playerId (.event (.room left))
  ((s.putRoom roomId (room.removePlayer s.now playerId)).setSessionRoom token none).respond connectionId commandId
    (.room (makeRoomLeft roomId seqNow commandId)) told

def handleLeaveRoom (s : Server) (connectionId : ConnectionId) (commandId : CommandId) (roomId : RoomId)
    (token : SessionToken) (diskFails : Bool) : HandlerResult :=
  s.roomCommand connectionId commandId token roomId (resend connectionId) fun s session room =>
    match getSlotByPlayerId room session.playerId with
    | none => s.refuse connectionId .NOT_IN_ROOM commandId
    | some slot =>
      match s.gameSessions.get roomId with
      | none => s.vacateRoom connectionId commandId roomId token session.playerId slot room
      | some gs =>
        -- A running game is forfeited before the player leaves; the session broadcasts GAME_FINISHED.
        let ended := gs.handleForfeit s.now s.historyRepository diskFails session.playerId
        let s := s.applyEffect roomId ended
        if ended.threw then ⟨s, [], true⟩
        else s.vacateRoom connectionId commandId roomId token session.playerId slot room

/-! ### Ready and moves -/

/-- The first turn of a game that starts because both players are ready: it alternates. -/
def readyFirstTurn : Option GameState → PlayerSymbol
  | none => .X
  | some state => if state.firstTurn = .X then .O else .X

/-- Both players are ready: the next game starts. -/
def startReadyGame (G : IdSource) (s : Server) (roomId : RoomId) (room : RoomRecord) : Server :=
  match s.gameSessions.get roomId with
  | none => s
  | some gs =>
    ((s.putRoom roomId room.resetReady).drawIds 1).applyEmitted roomId
      (gs.startGame s.now (G.gameId s.nextId) room.resetReady (readyFirstTurn gs.gameState))

/-- The player was not ready yet: `room` is the record after `markReady`. -/
def becomeReady (G : IdSource) (s : Server) (connectionId : ConnectionId) (commandId : CommandId) (roomId : RoomId)
    (symbol : PlayerSymbol) (room : RoomRecord) : HandlerResult :=
  let s := (s.putRoom roomId room).allocateSequence roomId
  let ack := makePlayerReadyAck roomId room.readySymbols (s.sequenceOr roomId 1) commandId
  match room.slot (opponent symbol) with
  | none => (if room.bothReady then s.startReadyGame G roomId room else s).respond connectionId commandId (.room ack) []
  | some oppSlot =>
    let s := s.allocateSequence roomId
    let told := Delivery.broadcast oppSlot.playerId
      (.event (.room (makeOpponentReady roomId symbol room.readySymbols (s.sequenceOr roomId 1))))
    (if room.bothReady then s.startReadyGame G roomId room else s).respond connectionId commandId (.room ack) [told]

def handlePlayerReady (G : IdSource) (s : Server) (connectionId : ConnectionId) (commandId : CommandId)
    (roomId : RoomId) (token : SessionToken) : HandlerResult :=
  s.roomCommand connectionId commandId token roomId (resend connectionId) fun s session room =>
    if playerCount room < 2 then s.refuse connectionId .NOT_IN_ROOM commandId
    else match getSymbolForPlayer room session.playerId with
      | none => s.refuse connectionId .NOT_IN_ROOM commandId
      | some symbol =>
        let s := s.ensureGameSession roomId
        if symbol ∈ room.readySymbols then
          s.respond connectionId commandId
            (.room (makePlayerReadyAck roomId room.readySymbols (s.sequenceOr roomId 1) commandId)) []
        else s.becomeReady G connectionId commandId roomId symbol (room.markReady symbol)

/-- The move result is sent by the session; its response is only recorded here. -/
def handleMakeMove (s : Server) (connectionId : ConnectionId) (commandId : CommandId) (roomId : RoomId)
    (gameId : GameId) (position : RawPosition) (token : SessionToken) (diskFails : Bool) : HandlerResult :=
  s.roomCommand connectionId commandId token roomId (resend connectionId) fun s session _ =>
    match s.gameSessions.get roomId with
    | none => s.refuse connectionId .GAME_NOT_ACTIVE commandId
    | some gs =>
      let outcome := gs.handleMove s.now s.historyRepository diskFails session.playerId gameId position commandId
      let s := s.applyEffect roomId outcome.toGameEffect
      if outcome.threw then ⟨s, [], true⟩
      else match outcome.response with
        | none => s.ok []
        | some response => (s.recordCommand commandId (.event response)).ok []

/-! ### Rematch -/

/-- The three rematch handlers: a cached command is answered by nothing, and a command that the session
takes is cached as processed. `refusal` are the checks before the session's method; `drawn` is the number
of ids that the method may use. -/
def rematchCommand (s : Server) (connectionId : ConnectionId) (commandId : CommandId) (roomId : RoomId)
    (token : SessionToken) (drawn : Nat) (refusal : Option GameSession → Option ErrorCode)
    (method : Server → GameSession → RoomRecord → PlayerId → GameSession.RematchOutcome) : HandlerResult :=
  s.roomCommand connectionId commandId token roomId (fun _ => []) fun s session room =>
    match s.gameSessions.get roomId, refusal (s.gameSessions.get roomId) with
    | _, some code => s.refuse connectionId code commandId
    | none, none => s.ok []
    | some gs, none =>
      let outcome := method s gs room session.playerId
      let s := ((s.putRoom roomId outcome.room).drawIds drawn).applyEmitted roomId outcome.toEmitted
      if outcome.taken then (s.recordCommand commandId .processed).ok [] else s.ok []

def handleRequestRematch (s : Server) (connectionId : ConnectionId) (commandId : CommandId) (roomId : RoomId)
    (gameId : GameId) (token : SessionToken) : HandlerResult :=
  s.rematchCommand connectionId commandId roomId token 0
    (fun
      | none => some .GAME_NOT_ACTIVE
      | some gs => if gs.rematch.isSome then some .REMATCH_PENDING else none)
    fun s gs room playerId => gs.handleRematchRequest s.now room playerId gameId

def handleAcceptRematch (G : IdSource) (s : Server) (connectionId : ConnectionId) (commandId : CommandId)
    (roomId : RoomId) (gameId : GameId) (token : SessionToken) : HandlerResult :=
  s.rematchCommand connectionId commandId roomId token 2
    (fun
      | none => some .GAME_NOT_ACTIVE
      | some gs => if gs.rematch.isNone then some .REMATCH_NOT_REQUESTED else none)
    fun s gs room playerId =>
      gs.handleRematchAccept s.now (G.gameId s.nextId, G.gameId (s.nextId + 1)) room playerId gameId

def handleDeclineRematch (s : Server) (connectionId : ConnectionId) (commandId : CommandId) (roomId : RoomId)
    (gameId : GameId) (token : SessionToken) : HandlerResult :=
  s.rematchCommand connectionId commandId roomId token 0
    (fun
      | none => some .REMATCH_NOT_REQUESTED
      | some gs => if gs.rematch.isNone then some .REMATCH_NOT_REQUESTED else none)
    fun _ gs room playerId => gs.handleRematchDecline room playerId gameId

/-! ### Heartbeat, reconnect and sync -/

def handlePing (s : Server) (connectionId : ConnectionId) (commandId : CommandId) (clientTime : JsNumber) :
    HandlerResult :=
  s.ok [.connection connectionId (.event (makePong s.now clientTime commandId))]

/-- A recipient-scoped replay when the buffer covers the gap and has something for the player. -/
def replayFor (s : Server) (roomId : RoomId) (fromSeq : Nat) (playerId : PlayerId) : Option (List RoomEvent) :=
  ((s.gameSessions.get roomId).bind fun gs => gs.getReplayEvents fromSeq playerId).filter (· ≠ [])

/-- The presence part of `handleReconnect`: the slot, the session and the reconnect window. -/
def restorePresence (s : Server) (roomId : RoomId) (token : SessionToken) (playerId : PlayerId) (room : RoomRecord) :
    Server :=
  let room := room.setConnected s.now playerId true
  let s := (s.putRoom roomId room).setSessionRoom token (some roomId)
  match s.gameSessions.get roomId with
  | none => s
  | some gs => s.applyEmitted roomId ((gs.clearReconnectWindow playerId).notifyOpponentReconnected room playerId)

def handleReconnect (s : Server) (connectionId : ConnectionId) (commandId : CommandId) (roomId : RoomId)
    (lastReceivedSeq : Nat) (token : SessionToken) : HandlerResult :=
  s.roomCommand connectionId commandId token roomId (resend connectionId) fun s session room =>
    match getSlotByPlayerId room session.playerId with
    | none => s.refuse connectionId .RECONNECT_INVALID commandId
    | some slot =>
      let s := (s.restorePresence roomId token session.playerId room).allocateSequence roomId
      let seqNow := s.sequenceOr roomId 1
      let snapshot := s.buildRoomSnapshot roomId
      let ack := makeReconnectAck roomId session.playerId slot.symbol snapshot seqNow commandId
      -- Missed events are replayed when possible; otherwise the full state is sent.
      let sync := match s.replayFor roomId (lastReceivedSeq + 1) session.playerId with
        | some replay => makeStateSyncReplay roomId (lastReceivedSeq + 1) seqNow replay
        | none => makeStateSyncSnapshot roomId snapshot seqNow
      s.respond connectionId commandId (.room ack)
        (if lastReceivedSeq < seqNow then [.connection connectionId (.event (.room sync))] else [])

def handleSyncRequest (s : Server) (connectionId : ConnectionId) (commandId : CommandId) (roomId : RoomId)
    (fromSeq : Nat) (token : SessionToken) : HandlerResult :=
  s.roomCommand connectionId commandId token roomId (resend connectionId) fun s session room =>
    match getSlotByPlayerId room session.playerId with
    | none => s.refuse connectionId .NOT_IN_ROOM commandId
    | some _ =>
      let sync := match s.replayFor roomId fromSeq session.playerId with
        | some replay => makeStateSyncReplay roomId fromSeq (s.sequenceOr roomId (fromSeq - 1)) replay
        | none => makeStateSyncSnapshot roomId (s.buildRoomSnapshot roomId) (s.sequenceOr roomId 0)
      s.respond connectionId commandId (.room sync) []

/-! ### Disconnects and timers -/

/-- Called by the transport when a player's last connection has closed. -/
def handleDisconnect (s : Server) (token : SessionToken) : Server :=
  let session := s.getSession token
  let s := s.afterGetSession token
  match session.bind PlayerSession.roomId, session with
  | some roomId, some session =>
    let found := s.getRoom roomId
    let s := s.afterGetRoom roomId
    match found with
    | none => s
    | some room =>
      let room := room.setConnected s.now session.playerId false
      let s := s.putRoom roomId room
      match s.gameSessions.get roomId with
      | none => s
      | some gs =>
        if gs.isActive then s.applyEmitted roomId (gs.startReconnectWindow s.now room session.playerId) else s
  | _, _ => s

/-- `makeOnPlayerLeftFn`: free the slot, and clear the room of the player's session. -/
def onPlayerLeft (s : Server) (roomId : RoomId) (playerId : PlayerId) : Server :=
  let found := s.getRoom roomId
  let s := s.afterGetRoom roomId
  let s := match found with
    | none => s
    | some room => s.putRoom roomId (room.removePlayer s.now playerId)
  match s.sessions.getTokenByPlayerId playerId with
  | none => s
  | some token => s.setSessionRoom token none

/-- The callback of a reconnect window, and whether it threw. -/
def fireReconnectWindow (s : Server) (roomId : RoomId) (gs : GameSession) (playerId : PlayerId)
    (timer : ReconnectTimer) (diskFails : Bool) : Server × Bool :=
  let expired := gs.expireReconnectWindow s.now s.historyRepository diskFails playerId timer.symbol
  let s := s.applyEffect roomId expired
  if expired.threw then (s, true) else (s.onPlayerLeft roomId playerId, false)

end Server
end TicTacToe
