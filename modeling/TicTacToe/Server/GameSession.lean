import TicTacToe.Game.Engine
import TicTacToe.Protocol.Events
import TicTacToe.Server.RoomStore
import TicTacToe.Server.HistoryRepository

/-! # The game session

The stateful owner of a room's games (`src/server/app/gameSession.ts`). A method returns the session
after the call together with the calls it has made to the injected `SendFn`, in order; a pending timer is
an entry of the state. `now` is the clock reading of the call. -/

namespace TicTacToe

/-- `player`: only the named player; `broadcast`: all connected players of the room; `others`: all
connected players but the named one. -/
inductive SendTarget where
  | player
  | broadcast
  | others
  deriving DecidableEq, Repr

/-- One call of the `SendFn`. -/
structure SendCall where
  target : SendTarget
  playerId : PlayerId
  event : Event

structure BufferEntry where
  event : RoomEvent
  target : SendTarget
  anchorPlayerId : PlayerId

/-- A pending rematch proposal; its timer fires at `expiresAt` with the `gameId` it has captured. -/
structure RematchProposal where
  requestedBy : PlayerSymbol
  requestedAt : Millis
  expiresAt : Millis
  acceptedBy : JsSet PlayerSymbol
  gameId : GameId
  deriving DecidableEq

/-- A pending reconnect window with the symbol that its callback has captured. -/
structure ReconnectTimer where
  symbol : Option PlayerSymbol
  deadline : Millis
  deriving DecidableEq

structure GameSession where
  roomId : RoomId
  gameState : Option GameState
  sessionSeq : Nat
  rematch : Option RematchProposal
  completedGames : List CompletedGameRecord
  replayBuffer : List BufferEntry
  reconnectTimers : JsMap PlayerId ReconnectTimer

/-- A session after a method call, and the calls of its `SendFn`. -/
structure Emitted where
  session : GameSession
  sends : List SendCall

/-- The same for a method that may save a completed game, which may throw. -/
structure GameEffect extends Emitted where
  historyRepository : HistoryRepository
  threw : Bool

namespace GameSession

/-- The constructor: earlier games of the room are loaded from the repository. -/
def new (roomId : RoomId) (repository : HistoryRepository) : GameSession where
  roomId := roomId
  gameState := none
  sessionSeq := 0
  rematch := none
  completedGames := repository.loadCompletedGames roomId
  replayBuffer := []
  reconnectTimers := .empty

/-- The session after `nextSeq()`; the number it returns is the new `sessionSeq`. -/
def nextSeq (gs : GameSession) : GameSession := { gs with sessionSeq := gs.sessionSeq + 1 }

def resetSeq (gs : GameSession) : GameSession := { gs with sessionSeq := 0, replayBuffer := [] }

def allocateSequence (gs : GameSession) : GameSession := gs.nextSeq

def isActive (gs : GameSession) : Bool := gs.gameState.any fun state => state.status = .active

/-- Drop the oldest entries beyond `EVENT_BUFFER_SIZE`. -/
def trimBuffer (buffer : List BufferEntry) : List BufferEntry := buffer.drop (buffer.length - EVENT_BUFFER_SIZE)

/-- Buffer a room event. -/
def push (gs : GameSession) (entry : BufferEntry) : GameSession :=
  { gs with replayBuffer := trimBuffer (gs.replayBuffer ++ [entry]) }

/-- `emit` for an event that carries a `sessionSeq`. -/
def emit (gs : GameSession) (target : SendTarget) (playerId : PlayerId) (event : RoomEvent) : Emitted :=
  ⟨gs.push ⟨event, target, playerId⟩, [⟨target, playerId, .room event⟩]⟩

/-- `emit` for an `ERROR`, which is not buffered; the detail is the code itself. -/
def sendError (gs : GameSession) (playerId : PlayerId) (code : ErrorCode) (detail : String)
    (correlationId : CommandId) : Emitted :=
  ⟨gs, [⟨.player, playerId, makeErrorEvent code detail true (some correlationId) none⟩]⟩

/-! ### Games -/

def slotInfo (slot : PlayerSlot) : PlayerInfo where
  playerId := slot.playerId
  symbol := slot.symbol
  name := slot.name
  connectionState := if slot.connected then .connected else .disconnected
  lastSeenAt := slot.lastSeenAt

/-- Start a new game between the holders of the two slots. -/
def startGame (gs : GameSession) (now : Millis) (gameId : GameId) (room : RoomRecord) (firstTurn : PlayerSymbol) :
    Emitted :=
  match room.playerX, room.playerO with
  | some playerX, some playerO =>
    let result := TicTacToe.startGame ⟨gameId, gs.roomId, playerX.playerId, playerO.playerId, firstTurn, now⟩
    let gs := { gs.resetSeq with gameState := some result.newState }.nextSeq
    gs.emit .broadcast playerX.playerId
      (makeGameStarted gs.roomId gameId result.newState.board firstTurn ⟨slotInfo playerX, slotInfo playerO⟩ now
        gs.sessionSeq)
  | _, _ => ⟨gs, []⟩

/-- `endedAt && firstMoveAt ? endedAt - firstMoveAt : 0`. -/
def gameDuration (state : GameState) : Millis :=
  match state.endedAt, state.firstMoveAt with
  | some endedAt, some firstMoveAt => if endedAt ≠ 0 ∧ firstMoveAt ≠ 0 then endedAt - firstMoveAt else 0
  | _, _ => 0

def completedRecord (state : GameState) (result : GameResult) (finalBoard : BoardSnapshot)
    (moveHistory : List MoveRecord) : CompletedGameRecord where
  gameId := state.gameId
  outcome := result.outcome
  winner := result.winner
  moveCount := moveHistory.length
  startedAt := state.createdAt
  endedAt := result.endedAt
  finalBoard := finalBoard
  result := result
  moveHistory := moveHistory

/-- Save the finished game and broadcast `GAME_FINISHED`. The sequence number is taken before the save;
when the save throws, nothing is sent. -/
def emitGameFinished (gs : GameSession) (repository : HistoryRepository) (diskFails : Bool) (result : GameResult)
    (finalBoard : BoardSnapshot) (moveHistory : List MoveRecord) (fromPlayerId : PlayerId) : GameEffect :=
  match gs.gameState with
  | none => ⟨⟨gs, []⟩, repository, false⟩
  | some state =>
    let gs := gs.nextSeq
    let event := makeGameFinished gs.roomId state.gameId result finalBoard moveHistory
      ⟨moveHistory.length, gameDuration state, state.firstMoveAt⟩ gs.sessionSeq
    let completedGame := completedRecord state result finalBoard moveHistory
    if gs.completedGames.any fun game => game.gameId = completedGame.gameId then
      ⟨gs.emit .broadcast fromPlayerId event, repository, false⟩
    else
      let gs := { gs with completedGames := completedGame :: gs.completedGames }
      let saved := repository.saveCompletedGame gs.roomId completedGame diskFails
      if saved.2 then ⟨⟨gs, []⟩, saved.1, true⟩
      else ⟨gs.emit .broadcast fromPlayerId event, saved.1, false⟩

/-- The result of `handleMove` with the mover's response, to be cached. -/
structure MoveOutcome extends GameEffect where
  response : Option Event

def refuseMove (gs : GameSession) (repository : HistoryRepository) (playerId : PlayerId) (code : ErrorCode)
    (detail : String) (commandId : CommandId) : MoveOutcome :=
  ⟨⟨gs.sendError playerId code detail commandId, repository, false⟩, none⟩

/-- An accepted move: `MOVE_ACK` to the mover, `MOVE_BROADCAST` to the others, then the end of the game if
the engine reports one. -/
def announceMove (gs : GameSession) (repository : HistoryRepository) (diskFails : Bool) (playerId : PlayerId)
    (gameId : GameId) (position : RawPosition) (commandId : CommandId) (moveEv : MoveMade)
    (endEv : Option GameEnded) : MoveOutcome :=
  let gs := gs.nextSeq
  let ack := makeMoveAck gs.roomId gameId position moveEv.symbol moveEv.sequenceInGame moveEv.board moveEv.nextTurn
    gs.sessionSeq commandId
  let acked := gs.emit .player playerId ack
  let gs := acked.session.nextSeq
  let told := gs.emit .others playerId
    (makeMoveBroadcast gs.roomId gameId position moveEv.symbol playerId moveEv.sequenceInGame moveEv.board
      moveEv.nextTurn gs.sessionSeq)
  match endEv with
  | none => ⟨⟨⟨told.session, acked.sends ++ told.sends⟩, repository, false⟩, some (.room ack)⟩
  | some endEv =>
    let ended := told.session.emitGameFinished repository diskFails endEv.result endEv.finalBoard endEv.moveHistory
      playerId
    ⟨⟨⟨ended.session, acked.sends ++ told.sends ++ ended.sends⟩, ended.historyRepository, ended.threw⟩,
      if ended.threw then none else some (.room ack)⟩

def handleMove (gs : GameSession) (now : Millis) (repository : HistoryRepository) (diskFails : Bool)
    (playerId : PlayerId) (gameId : GameId) (position : RawPosition) (commandId : CommandId) : MoveOutcome :=
  match gs.gameState with
  | none => gs.refuseMove repository playerId .GAME_NOT_ACTIVE "GAME_NOT_ACTIVE" commandId
  | some state =>
    -- Anti-replay: gameId must match the running game.
    if state.gameId ≠ gameId then gs.refuseMove repository playerId .GAME_ID_MISMATCH "GAME_ID_MISMATCH" commandId
    else if state.status ≠ .active then
      gs.refuseMove repository playerId .GAME_NOT_ACTIVE "GAME_NOT_ACTIVE" commandId
    else match applyMove state ⟨playerId, position.row, position.col, commandId, now⟩ with
      | .rejected _ reason =>
        let gs := gs.nextSeq
        let event := makeMoveRejected gs.roomId state.gameId position reason state.board state.currentTurn
          gs.sessionSeq commandId
        ⟨⟨gs.emit .player playerId event, repository, false⟩, some (.room event)⟩
      | .accepted newState events =>
        let gs := { gs with gameState := some newState }
        match events.findSome? EngineEvent.asMoveMade with
        | none => ⟨⟨⟨gs, []⟩, repository, false⟩, none⟩
        | some moveEv =>
          gs.announceMove repository diskFails playerId state.gameId position commandId moveEv
            (events.findSome? EngineEvent.asGameEnded)

/-- `handleForfeit` and `handleAbandon` end a running game through `endWith`. -/
def handleEnd (gs : GameSession) (repository : HistoryRepository) (diskFails : Bool) (playerId : PlayerId)
    (endWith : GameState → EndResult) : GameEffect :=
  match gs.gameState with
  | none => ⟨⟨gs, []⟩, repository, false⟩
  | some state =>
    if state.status ≠ .active then ⟨⟨gs, []⟩, repository, false⟩
    else
      let result := endWith state
      { gs with gameState := some result.newState }.emitGameFinished repository diskFails result.event.result
        result.event.finalBoard result.event.moveHistory playerId

def handleForfeit (gs : GameSession) (now : Millis) (repository : HistoryRepository) (diskFails : Bool)
    (playerId : PlayerId) : GameEffect :=
  gs.handleEnd repository diskFails playerId fun state => forfeit state ⟨playerId, now⟩

def handleAbandon (gs : GameSession) (now : Millis) (repository : HistoryRepository) (diskFails : Bool)
    (playerId : PlayerId) : GameEffect :=
  gs.handleEnd repository diskFails playerId fun state => abandon state ⟨playerId, now⟩

/-! ### Rematch -/

/-- The result of a rematch method: whether it took the command, and the room after it. -/
structure RematchOutcome extends Emitted where
  taken : Bool
  room : RoomRecord

def notTaken (gs : GameSession) (room : RoomRecord) : RematchOutcome := ⟨⟨gs, []⟩, false, room⟩

/-- The finished game of the session has the given id. -/
def hasFinished (gs : GameSession) (gameId : GameId) : Bool :=
  gs.gameState.any fun state => state.status = .finished && state.gameId = gameId

def handleRematchRequest (gs : GameSession) (now : Millis) (room : RoomRecord) (playerId : PlayerId)
    (gameId : GameId) : RematchOutcome :=
  if !gs.hasFinished gameId then gs.notTaken room
  else if gs.rematch.isSome then gs.notTaken room
  else match getSymbolForPlayer room playerId with
    | none => gs.notTaken room
    | some symbol =>
      let expiresAt := now + REMATCH_TIMEOUT_MS
      let gs := { gs with rematch := some ⟨symbol, now, expiresAt, [symbol], gameId⟩ }.nextSeq
      let event := makeRematchRequested gs.roomId gameId symbol expiresAt gs.sessionSeq
      ⟨gs.emit .broadcast playerId event, true, room⟩

/-- The accept that completes the proposal starts the next game. `createRematch` only contributes the first
turn: `startGame` draws an id of its own, `gameIds.2`. -/
def handleRematchAccept (gs : GameSession) (now : Millis) (gameIds : GameId × GameId) (room : RoomRecord)
    (playerId : PlayerId) (gameId : GameId) : RematchOutcome :=
  match gs.gameState, gs.rematch with
  | some state, some proposal =>
    if state.status ≠ .finished ∨ state.gameId ≠ gameId then gs.notTaken room
    else match getSymbolForPlayer room playerId with
      | none => gs.notTaken room
      | some symbol =>
        let acceptedBy := JsSet.add proposal.acceptedBy symbol
        if acceptedBy.length = 2 then
          let rematchResult := createRematch state gameIds.1 now
          let room := room.resetReady
          ⟨{ gs with rematch := none }.startGame now gameIds.2 room rematchResult.newState.firstTurn, true, room⟩
        else ⟨⟨{ gs with rematch := some { proposal with acceptedBy := acceptedBy } }, []⟩, true, room⟩
  | _, _ => gs.notTaken room

/-- `REMATCH_DECLINED` goes to the `SendFn` directly and is not buffered. -/
def handleRematchDecline (gs : GameSession) (room : RoomRecord) (playerId : PlayerId) (gameId : GameId) :
    RematchOutcome :=
  if gs.rematch.isNone then gs.notTaken room
  else match getSymbolForPlayer room playerId with
    | none => gs.notTaken room
    | some symbol =>
      let gs := { gs with rematch := none }.nextSeq
      let event := makeRematchDeclined gs.roomId gameId symbol gs.sessionSeq
      ⟨⟨gs, [⟨.broadcast, playerId, .room event⟩]⟩, true, room⟩

/-- The rematch timer: `room` is the object it has captured. -/
def expireRematch (gs : GameSession) (room : RoomRecord) (gameId : GameId) : Emitted :=
  if gs.rematch.isNone then ⟨gs, []⟩
  else
    let gs := { gs with rematch := none }
    match (room.playerX.or room.playerO).map PlayerSlot.playerId with
    | none => ⟨gs, []⟩
    | some anyPlayer =>
      let gs := gs.nextSeq
      gs.emit .broadcast anyPlayer (makeRematchExpired gs.roomId gameId gs.sessionSeq)

/-! ### Reconnect windows -/

def clearReconnectWindow (gs : GameSession) (playerId : PlayerId) : GameSession :=
  { gs with reconnectTimers := gs.reconnectTimers.delete playerId }

/-- Send an event made from the player's symbol and the next sequence number to a connected opponent. -/
def tellOpponent (gs : GameSession) (room : RoomRecord) (playerId : PlayerId)
    (makeEvent : PlayerSymbol → Nat → RoomEvent) : Emitted :=
  match getSymbolForPlayer room playerId, getOpponentSlot room playerId with
  | some symbol, some opponent =>
    if opponent.connected then
      let gs := gs.nextSeq
      gs.emit .player opponent.playerId (makeEvent symbol gs.sessionSeq)
    else ⟨gs, []⟩
  | _, _ => ⟨gs, []⟩

def startReconnectWindow (gs : GameSession) (now : Millis) (room : RoomRecord) (playerId : PlayerId) : Emitted :=
  let gs := gs.clearReconnectWindow playerId
  let deadline := now + RECONNECT_WINDOW_MS
  let told := gs.tellOpponent room playerId fun symbol seq => makeOpponentDisconnected gs.roomId symbol deadline seq
  ⟨{ told.session with
      reconnectTimers := told.session.reconnectTimers.set playerId ⟨getSymbolForPlayer room playerId, deadline⟩ },
    told.sends⟩

/-- The callback of a reconnect window, up to the call of `onPlayerLeft`. -/
def expireReconnectWindow (gs : GameSession) (now : Millis) (repository : HistoryRepository) (diskFails : Bool)
    (playerId : PlayerId) (symbol : Option PlayerSymbol) : GameEffect :=
  let abandoned := gs.handleAbandon now repository diskFails playerId
  if abandoned.threw then abandoned
  else match symbol with
    | none => { abandoned with session := abandoned.session.clearReconnectWindow playerId }
    | some symbol =>
      let gs := abandoned.session.nextSeq
      let left := gs.emit .broadcast playerId
        (makePlayerLeft gs.roomId playerId symbol .disconnectTimeout gs.sessionSeq)
      { abandoned with
        session := left.session.clearReconnectWindow playerId
        sends := abandoned.sends ++ left.sends }

def notifyOpponentReconnected (gs : GameSession) (room : RoomRecord) (playerId : PlayerId) : Emitted :=
  gs.tellOpponent room playerId fun symbol seq => makeOpponentReconnected gs.roomId symbol seq

/-! ### Replay -/

/-- The player is among the recipients of a buffered event. -/
def addressedTo (playerId : PlayerId) (entry : BufferEntry) : Bool :=
  match entry.target with
  | .broadcast => true
  | .player => entry.anchorPlayerId = playerId
  | .others => entry.anchorPlayerId ≠ playerId

/-- The buffered events for the player from `fromSeq` on; `none` when the oldest of them is newer than
`fromSeq`. -/
def getReplayEvents (gs : GameSession) (fromSeq : Nat) (requestingPlayerId : PlayerId) : Option (List RoomEvent) :=
  if fromSeq > gs.sessionSeq then some []
  else
    let relevant := gs.replayBuffer.filter fun entry =>
      fromSeq ≤ entry.event.sessionSeq && addressedTo requestingPlayerId entry
    match relevant with
    | [] => some []
    | oldestScoped :: _ =>
      if oldestScoped.event.sessionSeq > fromSeq then none else some (relevant.map BufferEntry.event)

/-- What the array that `get history` returns holds at the moment. It is the session's own array, to which
`emitGameFinished` adds; an object that refers to it is read again by `Server.reread`. -/
def history (gs : GameSession) : List GameSummary := gs.completedGames.map CompletedGameRecord.toGameSummary

end GameSession
end TicTacToe
