import TicTacToe.Protocol.Types
import TicTacToe.Protocol.Errors

/-! # Server events

The events of `src/shared/protocol/events.ts` and the constructors of
`src/server/utils/eventFactory.ts`. A room event is an envelope with its room, its sequence number, the
command it answers and a payload; a replay carries earlier room events. -/

namespace TicTacToe

structure EventEnvelope (α : Type) where
  roomId : RoomId
  sessionSeq : Nat
  correlationId : Option CommandId
  payload : α

inductive PlayerLeftReason where
  | voluntary
  | disconnectTimeout
  | forfeit
  deriving DecidableEq, Repr

inductive RoomPayload where
  | roomJoined (playerId : PlayerId) (symbol : PlayerSymbol) (roomState : RoomStateSnapshot)
  | playerJoined (playerId : PlayerId) (symbol : PlayerSymbol) (playerName : Option PlayerName)
      (connectedPlayerCount : Nat)
  | roomLeft
  | playerLeft (playerId : PlayerId) (symbol : PlayerSymbol) (reason : PlayerLeftReason)
  | playerReadyAck (readyPlayers : List PlayerSymbol)
  | opponentReady (symbol : PlayerSymbol) (readyPlayers : List PlayerSymbol)
  | gameStarted (gameId : GameId) (board : BoardSnapshot) (firstTurn : PlayerSymbol)
      (players : Players PlayerInfo) (startedAt : Millis)
  | moveAck (gameId : GameId) (position : RawPosition) (symbol : PlayerSymbol) (sequenceInGame : Nat)
      (board : BoardSnapshot) (nextTurn : Option PlayerSymbol)
  | moveBroadcast (gameId : GameId) (position : RawPosition) (symbol : PlayerSymbol) (playerId : PlayerId)
      (sequenceInGame : Nat) (board : BoardSnapshot) (nextTurn : Option PlayerSymbol)
  | moveRejected (gameId : GameId) (position : RawPosition) (reason : MoveRejectionReason)
      (board : BoardSnapshot) (currentTurn : PlayerSymbol)
  | gameFinished (gameId : GameId) (result : GameResult) (finalBoard : BoardSnapshot)
      (moveHistory : List MoveRecord) (stats : GameStats)
  | rematchRequested (gameId : GameId) (requestedBy : PlayerSymbol) (expiresAt : Millis)
  | rematchDeclined (gameId : GameId) (declinedBy : PlayerSymbol)
  | rematchExpired (gameId : GameId)
  | opponentDisconnected (symbol : PlayerSymbol) (reconnectDeadlineAt : Millis)
  | opponentReconnected (symbol : PlayerSymbol)
  | reconnectAck (playerId : PlayerId) (symbol : PlayerSymbol) (roomState : RoomStateSnapshot)
  | stateSyncReplay (fromSeq toSeq : Nat) (events : List (EventEnvelope RoomPayload))
  | stateSyncSnapshot (roomState : RoomStateSnapshot)

/-- The snapshot of the room that a payload carries. -/
def RoomPayload.roomState : RoomPayload → Option RoomStateSnapshot
  | .roomJoined _ _ roomState => some roomState
  | .reconnectAck _ _ roomState => some roomState
  | .stateSyncSnapshot roomState => some roomState
  | _ => none

/-- The payload once the array of completed games that its room snapshot refers to holds `games`. -/
def RoomPayload.withHistory (games : List GameSummary) : RoomPayload → RoomPayload
  | .roomJoined playerId symbol roomState => .roomJoined playerId symbol { roomState with gameHistory := games }
  | .reconnectAck playerId symbol roomState => .reconnectAck playerId symbol { roomState with gameHistory := games }
  | .stateSyncSnapshot roomState => .stateSyncSnapshot { roomState with gameHistory := games }
  | payload => payload

abbrev RoomEvent := EventEnvelope RoomPayload

/-- The room a player is still associated with. -/
structure ExistingRoom where
  roomId : RoomId
  symbol : PlayerSymbol
  gameStatus : GameStatus
  deriving DecidableEq

inductive Event where
  | authAck (sessionToken : SessionToken) (playerId : PlayerId) (serverVersion : String)
      (existingRoom : Option ExistingRoom) (correlationId : CommandId)
  | pong (clientTime : JsNumber) (serverTime : Millis) (correlationId : CommandId)
  /-- `traceId` is the only structured context that the server attaches. -/
  | error (code : ErrorCode) (detail : String) (recoverable : Bool) (correlationId : Option CommandId)
      (traceId : Option String)
  | room (event : RoomEvent)

/-- An object ready to be serialised: an event, or the mark `{ processed: true }` that the rematch
handlers leave in the dedup cache. -/
inductive WireEvent where
  | event (e : Event)
  | processed

namespace WireEvent

def isError : WireEvent → Bool
  | event (.error ..) => true
  | _ => false

end WireEvent

def makeAuthAck (sessionToken : SessionToken) (playerId : PlayerId) (serverVersion : String)
    (existingRoom : Option ExistingRoom) (correlationId : CommandId) : Event :=
  .authAck sessionToken playerId serverVersion existingRoom correlationId

def makePong (now : Millis) (clientTime : JsNumber) (correlationId : CommandId) : Event :=
  .pong clientTime now correlationId

def makeErrorEvent (code : ErrorCode) (detail : String) (recoverable : Bool) (correlationId : Option CommandId)
    (traceId : Option String) : Event :=
  .error code detail recoverable correlationId traceId

def makeRoomJoined (roomId : RoomId) (playerId : PlayerId) (symbol : PlayerSymbol) (roomState : RoomStateSnapshot)
    (sessionSeq : Nat) (correlationId : CommandId) : RoomEvent :=
  ⟨roomId, sessionSeq, some correlationId, .roomJoined playerId symbol roomState⟩

def makePlayerJoined (roomId : RoomId) (playerId : PlayerId) (symbol : PlayerSymbol) (playerName : Option PlayerName)
    (connectedPlayerCount sessionSeq : Nat) : RoomEvent :=
  ⟨roomId, sessionSeq, none, .playerJoined playerId symbol playerName connectedPlayerCount⟩

def makeRoomLeft (roomId : RoomId) (sessionSeq : Nat) (correlationId : CommandId) : RoomEvent :=
  ⟨roomId, sessionSeq, some correlationId, .roomLeft⟩

def makePlayerLeft (roomId : RoomId) (playerId : PlayerId) (symbol : PlayerSymbol) (reason : PlayerLeftReason)
    (sessionSeq : Nat) : RoomEvent :=
  ⟨roomId, sessionSeq, none, .playerLeft playerId symbol reason⟩

def makePlayerReadyAck (roomId : RoomId) (readyPlayers : List PlayerSymbol) (sessionSeq : Nat)
    (correlationId : CommandId) : RoomEvent :=
  ⟨roomId, sessionSeq, some correlationId, .playerReadyAck readyPlayers⟩

def makeOpponentReady (roomId : RoomId) (symbol : PlayerSymbol) (readyPlayers : List PlayerSymbol)
    (sessionSeq : Nat) : RoomEvent :=
  ⟨roomId, sessionSeq, none, .opponentReady symbol readyPlayers⟩

def makeGameStarted (roomId : RoomId) (gameId : GameId) (board : BoardSnapshot) (firstTurn : PlayerSymbol)
    (players : Players PlayerInfo) (startedAt : Millis) (sessionSeq : Nat) : RoomEvent :=
  ⟨roomId, sessionSeq, none, .gameStarted gameId board firstTurn players startedAt⟩

def makeMoveAck (roomId : RoomId) (gameId : GameId) (position : RawPosition) (symbol : PlayerSymbol)
    (sequenceInGame : Nat) (board : BoardSnapshot) (nextTurn : Option PlayerSymbol) (sessionSeq : Nat)
    (correlationId : CommandId) : RoomEvent :=
  ⟨roomId, sessionSeq, some correlationId, .moveAck gameId position symbol sequenceInGame board nextTurn⟩

def makeMoveBroadcast (roomId : RoomId) (gameId : GameId) (position : RawPosition) (symbol : PlayerSymbol)
    (playerId : PlayerId) (sequenceInGame : Nat) (board : BoardSnapshot) (nextTurn : Option PlayerSymbol)
    (sessionSeq : Nat) : RoomEvent :=
  ⟨roomId, sessionSeq, none, .moveBroadcast gameId position symbol playerId sequenceInGame board nextTurn⟩

def makeMoveRejected (roomId : RoomId) (gameId : GameId) (position : RawPosition) (reason : MoveRejectionReason)
    (board : BoardSnapshot) (currentTurn : PlayerSymbol) (sessionSeq : Nat) (correlationId : CommandId) : RoomEvent :=
  ⟨roomId, sessionSeq, some correlationId, .moveRejected gameId position reason board currentTurn⟩

def makeGameFinished (roomId : RoomId) (gameId : GameId) (result : GameResult) (finalBoard : BoardSnapshot)
    (moveHistory : List MoveRecord) (stats : GameStats) (sessionSeq : Nat) : RoomEvent :=
  ⟨roomId, sessionSeq, none, .gameFinished gameId result finalBoard moveHistory stats⟩

def makeRematchRequested (roomId : RoomId) (gameId : GameId) (requestedBy : PlayerSymbol) (expiresAt : Millis)
    (sessionSeq : Nat) : RoomEvent :=
  ⟨roomId, sessionSeq, none, .rematchRequested gameId requestedBy expiresAt⟩

def makeRematchDeclined (roomId : RoomId) (gameId : GameId) (declinedBy : PlayerSymbol) (sessionSeq : Nat) :
    RoomEvent :=
  ⟨roomId, sessionSeq, none, .rematchDeclined gameId declinedBy⟩

def makeRematchExpired (roomId : RoomId) (gameId : GameId) (sessionSeq : Nat) : RoomEvent :=
  ⟨roomId, sessionSeq, none, .rematchExpired gameId⟩

def makeOpponentDisconnected (roomId : RoomId) (symbol : PlayerSymbol) (reconnectDeadlineAt : Millis)
    (sessionSeq : Nat) : RoomEvent :=
  ⟨roomId, sessionSeq, none, .opponentDisconnected symbol reconnectDeadlineAt⟩

def makeOpponentReconnected (roomId : RoomId) (symbol : PlayerSymbol) (sessionSeq : Nat) : RoomEvent :=
  ⟨roomId, sessionSeq, none, .opponentReconnected symbol⟩

def makeReconnectAck (roomId : RoomId) (playerId : PlayerId) (symbol : PlayerSymbol) (roomState : RoomStateSnapshot)
    (sessionSeq : Nat) (correlationId : CommandId) : RoomEvent :=
  ⟨roomId, sessionSeq, some correlationId, .reconnectAck playerId symbol roomState⟩

def makeStateSyncSnapshot (roomId : RoomId) (roomState : RoomStateSnapshot) (sessionSeq : Nat) : RoomEvent :=
  ⟨roomId, sessionSeq, none, .stateSyncSnapshot roomState⟩

def makeStateSyncReplay (roomId : RoomId) (fromSeq toSeq : Nat) (events : List RoomEvent) : RoomEvent :=
  ⟨roomId, toSeq, none, .stateSyncReplay fromSeq toSeq events⟩

end TicTacToe
