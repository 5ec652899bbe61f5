import TicTacToe.Protocol.Events

/-! # The client's store

The reducer of `src/client/store/gameStore.ts`. The latency metrics and the time at which a move was sent, which only
they need, are left out. -/

namespace TicTacToe
namespace Client

/-- The states of the transport (`src/client/lib/wsClient.ts`). -/
inductive WsState where
  | idle
  | connecting
  /-- The socket is open, and not authenticated yet. -/
  | connected
  /-- `AUTH_ACK` received. -/
  | authenticated
  | reconnecting
  | closed
  deriving DecidableEq, Repr

structure PendingMove where
  commandId : CommandId
  row : JsNumber
  col : JsNumber
  deriving DecidableEq

inductive RematchState where
  | none
  | requestedByMe (expiresAt : Millis)
  | requestedByThem (expiresAt : Millis)
  | declined
  | expired
  deriving DecidableEq, Repr

inductive OpponentConnectionEvent where
  | disconnected (reconnectDeadlineAt : Millis)
  | reconnected
  deriving DecidableEq, Repr

inductive GamePhase where
  /-- No room joined. -/
  | lobby
  /-- In a room, only one player. -/
  | waitingForPlayer
  /-- Both players are there, before the game. -/
  | readyCheck
  | active
  /-- The game has ended, and the result is shown. -/
  | finished
  /-- The socket is reconnecting. -/
  | reconnecting
  deriving DecidableEq, Repr

structure ClientState where
  sessionToken : Option SessionToken
  playerId : Option PlayerId
  mySymbol : Option PlayerSymbol
  roomId : Option RoomId
  gameId : Option GameId
  players : Players (Option PlayerInfo)
  readyPlayers : List PlayerSymbol
  opponentConnection : Option OpponentConnectionEvent
  confirmedBoard : BoardSnapshot
  confirmedTurn : PlayerSymbol
  gameStatus : GameStatus
  gameResult : Option GameResult
  moveHistory : List MoveRecord
  winningLine : Option WinningLine
  /-- `none` when no move is pending. -/
  optimisticBoard : Option BoardSnapshot
  pendingMove : Option PendingMove
  phase : GamePhase
  wsState : WsState
  rematch : RematchState
  lastReceivedSeq : Nat
  deriving DecidableEq

def INITIAL_STATE : ClientState where
  sessionToken := none
  playerId := none
  mySymbol := none
  roomId := none
  gameId := none
  players := ⟨none, none⟩
  readyPlayers := []
  opponentConnection := none
  confirmedBoard := EMPTY_BOARD
  confirmedTurn := .X
  gameStatus := .waiting
  gameResult := none
  moveHistory := []
  winningLine := none
  optimisticBoard := none
  pendingMove := none
  phase := .lobby
  wsState := .idle
  rematch := .none
  lastReceivedSeq := 0

/-- The fields of an action that come from the snapshot of a room. -/
structure RoomFields where
  symbol : PlayerSymbol
  players : Players (Option PlayerInfo)
  readyPlayers : List PlayerSymbol
  confirmedBoard : BoardSnapshot
  confirmedTurn : PlayerSymbol
  gameStatus : GameStatus
  gameId : Option GameId
  gameResult : Option GameResult

inductive GameAction where
  | wsStateChanged (wsState : WsState)
  | latencyMeasured
  | authAck (sessionToken : SessionToken) (playerId : PlayerId) (existingRoom : Option ExistingRoom)
  | roomJoined (roomId : RoomId) (fields : RoomFields)
  | playerJoined (symbol : PlayerSymbol) (playerInfo : PlayerInfo)
  | playerLeft (symbol : PlayerSymbol)
  | playerReadyAck (readyPlayers : List PlayerSymbol)
  | opponentReady (readyPlayers : List PlayerSymbol)
  | gameStarted (gameId : GameId) (board : BoardSnapshot) (firstTurn : PlayerSymbol) (players : Players PlayerInfo)
      (startedAt : Millis)
  | moveOptimistic (commandId : CommandId) (row col : JsNumber) (predictedBoard : BoardSnapshot)
  | moveAck (board : BoardSnapshot) (nextTurn : Option PlayerSymbol) (sequenceInGame : Nat) (commandId : CommandId)
  | moveBroadcast (board : BoardSnapshot) (nextTurn : Option PlayerSymbol) (symbol : PlayerSymbol)
      (position : RawPosition)
  | moveRejected (board : BoardSnapshot) (currentTurn : PlayerSymbol) (commandId : CommandId)
  | gameFinished (result : GameResult) (finalBoard : BoardSnapshot) (moveHistory : List MoveRecord)
      (winningLine : Option WinningLine)
  | rematchRequested (requestedBy : PlayerSymbol) (expiresAt : Millis)
  | rematchDeclined (declinedBy : PlayerSymbol)
  | rematchExpired
  | opponentDisconnected (reconnectDeadlineAt : Millis)
  | opponentReconnected
  | reconnectAck (fields : RoomFields) (sessionSeq : Nat)
  | seqAdvanced (seq : Nat)
  | leaveRoom

/-- A string that is not null and not empty. -/
def present (x : Option String) : Option String := x.filter (· ≠ "")

/-- `{ ...players, [symbol]: value }`. -/
def setPlayer (players : Players (Option PlayerInfo)) (symbol : PlayerSymbol) (value : Option PlayerInfo) :
    Players (Option PlayerInfo) :=
  match symbol with
  | .X => { players with X := value }
  | .O => { players with O := value }

def derivePhase (s : ClientState) : GamePhase :=
  if (present s.roomId).isNone then .lobby
  else if s.gameStatus = .active then .active
  else if s.gameStatus = .finished then .finished
  else if s.players.X.isSome && s.players.O.isSome then .readyCheck
  else .waitingForPlayer

def gameReducer (state : ClientState) : GameAction → ClientState
  | .wsStateChanged wsState =>
    { state with
      wsState := wsState
      phase := if wsState = .reconnecting then .reconnecting
        else if state.phase = .reconnecting then derivePhase state else state.phase }
  | .latencyMeasured => state
  | .authAck sessionToken playerId existingRoom =>
    { state with
      sessionToken := some sessionToken
      playerId := some playerId
      roomId := (existingRoom.map ExistingRoom.roomId).or state.roomId
      mySymbol := (existingRoom.map ExistingRoom.symbol).or state.mySymbol }
  | .roomJoined roomId fields =>
    { state with
      roomId := some roomId
      mySymbol := some fields.symbol
      players := fields.players
      readyPlayers := fields.readyPlayers
      confirmedBoard := fields.confirmedBoard
      confirmedTurn := fields.confirmedTurn
      gameStatus := fields.gameStatus
      gameId := fields.gameId
      gameResult := fields.gameResult
      optimisticBoard := none
      pendingMove := none
      phase := if fields.players.X.isSome && fields.players.O.isSome then .readyCheck else .waitingForPlayer
      rematch := .none }
  | .playerJoined symbol playerInfo =>
    let players := setPlayer state.players symbol (some playerInfo)
    { state with
      players := players
      phase := if players.X.isSome && players.O.isSome then .readyCheck else .waitingForPlayer }
  | .playerLeft symbol =>
    { state with
      players := setPlayer state.players symbol none
      readyPlayers := state.readyPlayers.filter (· ≠ symbol)
      phase := .waitingForPlayer }
  | .playerReadyAck readyPlayers => { state with readyPlayers := readyPlayers }
  | .opponentReady readyPlayers => { state with readyPlayers := readyPlayers }
  | .gameStarted gameId board firstTurn players _ =>
    { state with
      gameId := some gameId
      confirmedBoard := board
      confirmedTurn := firstTurn
      gameStatus := .active
      gameResult := none
      moveHistory := []
      winningLine := none
      optimisticBoard := none
      pendingMove := none
      players := ⟨some players.X, some players.O⟩
      phase := .active
      rematch := .none
      lastReceivedSeq := 1 }
  | .moveOptimistic commandId row col predictedBoard =>
    -- At most one pending move: a second one is ignored.
    if state.pendingMove.isSome then state
    else { state with optimisticBoard := some predictedBoard, pendingMove := some ⟨commandId, row, col⟩ }
  | .moveAck board nextTurn _ _ =>
    { state with
      confirmedBoard := board
      confirmedTurn := nextTurn.getD state.confirmedTurn
      optimisticBoard := none
      pendingMove := none }
  | .moveBroadcast board nextTurn _ _ =>
    { state with
      confirmedBoard := board
      confirmedTurn := nextTurn.getD state.confirmedTurn
      optimisticBoard := if state.pendingMove.isSome then state.optimisticBoard else none }
  | .moveRejected board currentTurn _ =>
    { state with
      confirmedBoard := board
      confirmedTurn := currentTurn
      optimisticBoard := none
      pendingMove := none }
  | .gameFinished result finalBoard moveHistory winningLine =>
    { state with
      confirmedBoard := finalBoard
      gameStatus := .finished
      gameResult := some result
      moveHistory := moveHistory
      winningLine := winningLine
      optimisticBoard := none
      pendingMove := none
      phase := .finished }
  | .rematchRequested requestedBy expiresAt =>
    { state with
      rematch := if some requestedBy = state.mySymbol then .requestedByMe expiresAt else .requestedByThem expiresAt }
  | .rematchDeclined _ => { state with rematch := .declined }
  | .rematchExpired => { state with rematch := .expired }
  | .opponentDisconnected reconnectDeadlineAt =>
    { state with opponentConnection := some (.disconnected reconnectDeadlineAt) }
  | .opponentReconnected => { state with opponentConnection := some .reconnected }
  | .reconnectAck fields sessionSeq =>
    { state with
      mySymbol := some fields.symbol
      players := fields.players
      readyPlayers := fields.readyPlayers
      confirmedBoard := fields.confirmedBoard
      confirmedTurn := fields.confirmedTurn
      gameStatus := fields.gameStatus
      gameId := fields.gameId
      gameResult := fields.gameResult
      optimisticBoard := none
      pendingMove := none
      lastReceivedSeq := sessionSeq
      phase := if fields.gameStatus = .active then .active
        else if fields.gameStatus = .finished then .finished
        else if fields.players.X.isSome && fields.players.O.isSome then .readyCheck
        else .waitingForPlayer }
  | .seqAdvanced seq => { state with lastReceivedSeq := seq }
  | .leaveRoom =>
    { INITIAL_STATE with
      sessionToken := state.sessionToken
      playerId := state.playerId
      wsState := state.wsState }

/-! ### What is shown -/

/-- The optimistic overlay while a move is in flight, else the confirmed board. -/
def displayBoard (state : ClientState) : BoardSnapshot := state.optimisticBoard.getD state.confirmedBoard

/-- Whether the opponent is known to be disconnected. -/
def opponentDisconnected (state : ClientState) : Bool :=
  match state.opponentConnection with
  | some (.disconnected _) => true
  | _ => false

/-- Whether the local player can click a cell right now. -/
def canMove (state : ClientState) : Bool :=
  state.gameStatus = .active && some state.confirmedTurn = state.mySymbol && state.pendingMove.isNone &&
    state.wsState = .authenticated && !opponentDisconnected state

def hasPendingMove (state : ClientState) : Bool := state.pendingMove.isSome

end Client
end TicTacToe
