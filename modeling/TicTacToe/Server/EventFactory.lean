import TicTacToe.Protocol.Encoding
import TicTacToe.Server.HistoryRepository

/-! # Events on the wire

The objects that the constructors of `src/server/utils/eventFactory.ts` build, with the values that they carry. -/

namespace TicTacToe
open Json

/-! ### Carried values -/

def CellValue.json (cell : CellValue) : Json := .text cell.text

/-- The nine cells in their order. -/
def boardJson (board : BoardSnapshot) : Json := .array ((List.finRange 9).map fun i => (board i).json)

def BoardPosition.json (position : BoardPosition) : Json :=
  .object [("row", nat position.row), ("col", nat position.col)]

def WinningLineType.text : WinningLineType → String
  | row => "row"
  | col => "col"
  | diagonal => "diagonal"

def WinningLine.json (line : WinningLine) : Json :=
  .object [("type", .text line.type.text), ("positions", .array (line.cells.map BoardPosition.json))]

def GameStatus.text : GameStatus → String
  | waiting => "WAITING"
  | active => "ACTIVE"
  | finished => "FINISHED"

def RoomStatus.text : RoomStatus → String
  | .open => "OPEN"
  | .full => "FULL"
  | .closed => "CLOSED"

def GameEndReason.text : GameEndReason → String
  | threeInARow => "THREE_IN_A_ROW"
  | boardFull => "BOARD_FULL"
  | playerForfeited => "PLAYER_FORFEITED"
  | playerAbandoned => "PLAYER_ABANDONED"

def GameResult.json (result : GameResult) : Json :=
  .object [("outcome", .text result.outcome.text), ("winner", orNull (result.winner.map PlayerSymbol.json)),
    ("winningLine", orNull (result.winningLine.map WinningLine.json)), ("reason", .text result.reason.text),
    ("endedAt", int result.endedAt)]

def MoveRecord.json (record : MoveRecord) : Json :=
  .object [("sequenceInGame", nat record.sequenceInGame), ("symbol", record.symbol.json),
    ("position", record.position.json), ("appliedAt", int record.appliedAt)]

def ConnectionState.text : ConnectionState → String
  | connected => "CONNECTED"
  | disconnected => "DISCONNECTED"
  | reconnecting => "RECONNECTING"

def PlayerInfo.json (info : PlayerInfo) : Json :=
  .object [("playerId", .text info.playerId), ("symbol", info.symbol.json), ("name", orNull (info.name.map .string)),
    ("connectionState", .text info.connectionState.text), ("lastSeenAt", int info.lastSeenAt)]

def GameStats.json (stats : GameStats) : Json :=
  .object [("moveCount", nat stats.moveCount), ("durationMs", int stats.durationMs),
    ("firstMoveAt", orNull (stats.firstMoveAt.map int))]

def CompletedGameRecord.json (record : CompletedGameRecord) : Json :=
  .object [("gameId", .text record.gameId), ("outcome", .text record.outcome.text),
    ("winner", orNull (record.winner.map PlayerSymbol.json)), ("moveCount", nat record.moveCount),
    ("startedAt", int record.startedAt), ("endedAt", int record.endedAt), ("finalBoard", boardJson record.finalBoard),
    ("result", record.result.json), ("moveHistory", .array (record.moveHistory.map MoveRecord.json))]

def CurrentGame.json (game : CurrentGame) : Json :=
  .object [("gameId", .text game.gameId), ("status", .text game.status.text), ("board", boardJson game.board),
    ("currentTurn", game.currentTurn.json), ("moveCount", nat game.moveCount), ("startedAt", int game.startedAt),
    ("result", orNull (game.result.map GameResult.json))]

/-- The two players, each an object or null. -/
def playersJson (players : Players (Option PlayerInfo)) : Json :=
  .object [("X", orNull (players.X.map PlayerInfo.json)), ("O", orNull (players.O.map PlayerInfo.json))]

def symbolsJson (symbols : List PlayerSymbol) : Json := .array (symbols.map PlayerSymbol.json)

/-- The history is the session's own array, whose entries are whole records. -/
def RoomStateSnapshot.json (records : List CompletedGameRecord) (snapshot : RoomStateSnapshot) : Json :=
  .object [("roomId", .text snapshot.roomId), ("status", .text snapshot.status.text),
    ("players", playersJson snapshot.players), ("readyPlayers", symbolsJson snapshot.readyPlayers),
    ("currentGame", orNull (snapshot.currentGame.map CurrentGame.json)),
    ("gameHistory", .array (records.map CompletedGameRecord.json))]

def PlayerLeftReason.text : PlayerLeftReason → String
  | voluntary => "VOLUNTARY"
  | disconnectTimeout => "DISCONNECT_TIMEOUT"
  | forfeit => "FORFEIT"

def MoveRejectionReason.text : MoveRejectionReason → String
  | notYourTurn => "NOT_YOUR_TURN"
  | cellOccupied => "CELL_OCCUPIED"
  | outOfBounds => "OUT_OF_BOUNDS"
  | gameNotActive => "GAME_NOT_ACTIVE"
  | gameIdMismatch => "GAME_ID_MISMATCH"

def ExistingRoom.json (room : ExistingRoom) : Json :=
  .object [("roomId", .text room.roomId), ("symbol", room.symbol.json), ("gameStatus", .text room.gameStatus.text)]

/-! ### Room events -/

namespace RoomPayload

def type : RoomPayload → EventType
  | roomJoined .. => .ROOM_JOINED
  | playerJoined .. => .PLAYER_JOINED
  | roomLeft => .ROOM_LEFT
  | playerLeft .. => .PLAYER_LEFT
  | playerReadyAck .. => .PLAYER_READY_ACK
  | opponentReady .. => .OPPONENT_READY
  | gameStarted .. => .GAME_STARTED
  | moveAck .. => .MOVE_ACK
  | moveBroadcast .. => .MOVE_BROADCAST
  | moveRejected .. => .MOVE_REJECTED
  | gameFinished .. => .GAME_FINISHED
  | rematchRequested .. => .REMATCH_REQUESTED
  | rematchDeclined .. => .REMATCH_DECLINED
  | rematchExpired .. => .REMATCH_EXPIRED
  | opponentDisconnected .. => .OPPONENT_DISCONNECTED
  | opponentReconnected .. => .OPPONENT_RECONNECTED
  | reconnectAck .. => .RECONNECT_ACK
  | stateSyncReplay .. => .STATE_SYNC
  | stateSyncSnapshot .. => .STATE_SYNC

/-- The fields that follow those of `roomBase`: `records` are the games of a carried snapshot, `replayed` the objects of
a replay. -/
def fields (records : List CompletedGameRecord) (replayed : List Json) : RoomPayload → List (String × Json)
  | roomJoined playerId symbol roomState =>
    [("playerId", text playerId), ("symbol", symbol.json), ("roomState", roomState.json records)]
  | playerJoined playerId symbol playerName connectedPlayerCount =>
    [("playerId", text playerId), ("symbol", symbol.json), ("playerName", orNull (playerName.map string)),
      ("connectedPlayerCount", nat connectedPlayerCount)]
  | roomLeft => []
  | playerLeft playerId symbol reason =>
    [("playerId", text playerId), ("symbol", symbol.json), ("reason", text reason.text)]
  | playerReadyAck readyPlayers => [("readyPlayers", symbolsJson readyPlayers)]
  | opponentReady symbol readyPlayers => [("symbol", symbol.json), ("readyPlayers", symbolsJson readyPlayers)]
  | gameStarted gameId board firstTurn players startedAt =>
    [("gameId", text gameId), ("board", boardJson board), ("firstTurn", firstTurn.json),
      ("players", playersJson ⟨some players.X, some players.O⟩), ("startedAt", int startedAt)]
  | moveAck gameId position symbol sequenceInGame board nextTurn =>
    [("gameId", text gameId), ("position", position.json), ("symbol", symbol.json),
      ("sequenceInGame", nat sequenceInGame), ("board", boardJson board),
      ("nextTurn", orNull (nextTurn.map PlayerSymbol.json))]
  | moveBroadcast gameId position symbol playerId sequenceInGame board nextTurn =>
    [("gameId", text gameId), ("position", position.json), ("symbol", symbol.json), ("playerId", text playerId),
      ("sequenceInGame", nat sequenceInGame), ("board", boardJson board),
      ("nextTurn", orNull (nextTurn.map PlayerSymbol.json))]
  | moveRejected gameId position reason board currentTurn =>
    [("gameId", text gameId), ("position", position.json), ("reason", text reason.text), ("board", boardJson board),
      ("currentTurn", currentTurn.json)]
  | gameFinished gameId result finalBoard moveHistory stats =>
    [("gameId", text gameId), ("result", result.json), ("finalBoard", boardJson finalBoard),
      ("moveHistory", array (moveHistory.map MoveRecord.json)), ("stats", stats.json)]
  | rematchRequested gameId requestedBy expiresAt =>
    [("gameId", text gameId), ("requestedBy", requestedBy.json), ("expiresAt", int expiresAt)]
  | rematchDeclined gameId declinedBy => [("gameId", text gameId), ("declinedBy", declinedBy.json)]
  | rematchExpired gameId => [("gameId", text gameId)]
  | opponentDisconnected symbol reconnectDeadlineAt =>
    [("symbol", symbol.json), ("reconnectDeadlineAt", int reconnectDeadlineAt)]
  | opponentReconnected symbol => [("symbol", symbol.json)]
  | reconnectAck playerId symbol roomState =>
    [("playerId", text playerId), ("symbol", symbol.json), ("roomState", roomState.json records)]
  | stateSyncReplay fromSeq toSeq _ =>
    [("mode", text "REPLAY"), ("fromSeq", nat fromSeq), ("toSeq", nat toSeq), ("events", array replayed)]
  | stateSyncSnapshot roomState => [("mode", text "SNAPSHOT"), ("roomState", roomState.json records)]

/-- The completed games of the snapshot that a payload carries. -/
def gameHistory : RoomPayload → List GameSummary
  | roomJoined _ _ roomState => roomState.gameHistory
  | reconnectAck _ _ roomState => roomState.gameHistory
  | stateSyncSnapshot roomState => roomState.gameHistory
  | _ => []

/-- The events that a payload carries. -/
def replayed : RoomPayload → List RoomEvent
  | stateSyncReplay _ _ events => events
  | _ => []

end RoomPayload

/-- `correlationId`, when it is given. -/
def correlationFields (correlationId : Option CommandId) : List (String × Json) :=
  (correlationId.map fun id => ("correlationId", text id)).toList

def roomBase (stamp : Stamp) (event : RoomEvent) : List (String × Json) :=
  baseFields stamp event.payload.type.text ++
    [("roomId", text event.roomId), ("sessionSeq", nat event.sessionSeq)] ++ correlationFields event.correlationId

/-- An object that stands for the event: what it carries has been built earlier, with stamps of its own. -/
inductive RoomEvent.Writes : RoomEvent → Json → Prop
  | mk {event : RoomEvent} {stamp : Stamp} {records : List CompletedGameRecord} {replayed : List Json}
    (hstamp : stamp.Valid) (hrecords : records.map CompletedGameRecord.toGameSummary = event.payload.gameHistory)
    (hreplayed : List.Forall₂ RoomEvent.Writes event.payload.replayed replayed) :
    RoomEvent.Writes event (.object (roomBase stamp event ++ event.payload.fields records replayed))

/-! ### Events -/

namespace Event

def type : Event → EventType
  | authAck .. => .AUTH_ACK
  | pong .. => .PONG
  | error .. => .ERROR
  | room event => event.payload.type

/-- `data`, when there is any. -/
def traceFields (traceId : Option String) : List (String × Json) :=
  (traceId.map fun id => ("data", .object [("traceId", text id)])).toList

def globalBase (stamp : Stamp) (type : EventType) (correlationId : Option CommandId) : List (String × Json) :=
  baseFields stamp type.text ++ correlationFields correlationId

/-- An object that stands for the event. -/
inductive Writes : Event → Json → Prop
  | authAck {sessionToken : SessionToken} {playerId : PlayerId} {serverVersion : String}
    {existingRoom : Option ExistingRoom} {correlationId : CommandId} {stamp : Stamp} (hstamp : stamp.Valid) :
    Writes (.authAck sessionToken playerId serverVersion existingRoom correlationId)
      (.object (globalBase stamp .AUTH_ACK (some correlationId) ++
        [("sessionToken", text sessionToken), ("playerId", text playerId), ("serverVersion", text serverVersion),
          ("existingRoom", orNull (existingRoom.map ExistingRoom.json))]))
  | pong {clientTime : JsNumber} {serverTime : Millis} {correlationId : CommandId} {stamp : Stamp}
    (hstamp : stamp.Valid) :
    Writes (.pong clientTime serverTime correlationId)
      (.object (globalBase stamp .PONG (some correlationId) ++
        [("clientTime", number clientTime), ("serverTime", int serverTime)]))
  | error {code : ErrorCode} {detail : String} {recoverable : Bool} {correlationId : Option CommandId}
    {traceId : Option String} {stamp : Stamp} (hstamp : stamp.Valid) :
    Writes (.error code detail recoverable correlationId traceId)
      (.object (globalBase stamp .ERROR correlationId ++
        ([("code", text code.text), ("detail", text detail), ("recoverable", boolean recoverable)] ++
          traceFields traceId)))
  | room {event : RoomEvent} {v : Json} (h : event.Writes v) : Writes (.room event) v

end Event
end TicTacToe
