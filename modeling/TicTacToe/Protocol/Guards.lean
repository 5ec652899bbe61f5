import TicTacToe.Lib.Json
import TicTacToe.Protocol.Commands
import TicTacToe.Protocol.Errors

/-! # Runtime type guards

The guards of `src/shared/protocol/guards.ts` and the parsing of frames. -/

namespace TicTacToe
open Json

def PROTOCOL_VERSION : Nat := 1

/-! ### Formats -/

/-- A string has as many units as the pattern, and each is of its kind. -/
def matchesPattern : List (UInt16 → Bool) → JsString → Bool
  | [], [] => true
  | p :: ps, u :: us => p u && matchesPattern ps us
  | _, _ => false

/-- `[0-9a-f]`, in either case. -/
def isHexUnit (u : UInt16) : Bool := (48 ≤ u && u ≤ 57) || (97 ≤ u && u ≤ 102) || (65 ≤ u && u ≤ 70)

/-- `[A-Z2-9]`. -/
def isRoomUnit (u : UInt16) : Bool := (65 ≤ u && u ≤ 90) || (50 ≤ u && u ≤ 57)

/-- `[89ab]`, in either case. -/
def isVariantUnit (u : UInt16) : Bool := u == 56 || u == 57 || u == 97 || u == 98 || u == 65 || u == 66

def uuidPattern : List (UInt16 → Bool) :=
  List.replicate 8 isHexUnit ++ [(· == 45)] ++ List.replicate 4 isHexUnit ++ [(· == 45), (· == 52)] ++
    List.replicate 3 isHexUnit ++ [(· == 45), isVariantUnit] ++ List.replicate 3 isHexUnit ++ [(· == 45)] ++
    List.replicate 12 isHexUnit

/-- The format of a UUID v4. -/
def isUuid (s : JsString) : Bool := matchesPattern uuidPattern s

/-- The format of a room code. -/
def isRoomCode (s : JsString) : Bool := matchesPattern (List.replicate 8 isRoomUnit) s

/-! ### Values -/

def isNumber : Option Json → Bool := numberWith fun _ => true

def isPositiveNumber : Option Json → Bool := numberWith fun x => (JsNumber.ofNat 0).lt x

def isNonNegativeInteger : Option Json → Bool := numberWith fun x => x.isInteger && (JsNumber.ofNat 0).le x

def isPositiveInteger : Option Json → Bool :=
  numberWith fun x => x.isInteger && (JsNumber.ofNat 0).le x && (JsNumber.ofNat 1).le x

/-- `v === n`. -/
def isNat (n : Nat) : Option Json → Bool := numberWith (· = .ofNat n)

def isBoardIndex (v : Option Json) : Bool := isNat 0 v || isNat 1 v || isNat 2 v

/-- One of the texts. -/
def isOneOf (texts : List String) (v : Option Json) : Bool := texts.any fun text => isText text v

def isCellValue : Option Json → Bool := isOneOf ["", "X", "O"]

def isBoardPosition (v : Option Json) : Bool :=
  isObject v && isBoardIndex (field v "row") && isBoardIndex (field v "col")

def isBoardSnapshot (v : Option Json) : Bool :=
  isArray v && (items v).length == 9 && (items v).all fun cell => isCellValue (some cell)

def isRoomId : Option Json → Bool := stringWith isRoomCode

def isUuidLike : Option Json → Bool := stringWith isUuid

def isPlayerSymbol : Option Json → Bool := isOneOf ["X", "O"]

/-- Null, or of the given kind. -/
def isNullOr (p : Option Json → Bool) (v : Option Json) : Bool := isNull v || p v

/-! ### Envelopes -/

def isBaseEnvelope (v : Option Json) : Bool :=
  isObject v && isNat PROTOCOL_VERSION (field v "protocolVersion") && isUuidLike (field v "messageId") &&
    isPositiveNumber (field v "timestamp") && stringWith (fun s => !s.isEmpty) (field v "type")

def isCommandEnvelope (v : Option Json) : Bool :=
  isBaseEnvelope v && isUuidLike (field v "commandId") && isNullOr isString (field v "sessionToken")

def isEventEnvelope (v : Option Json) : Bool :=
  isBaseEnvelope v && isPositiveInteger (field v "sessionSeq") && isRoomId (field v "roomId")

def isGlobalEventEnvelope (v : Option Json) : Bool := isBaseEnvelope v

/-! ### Commands -/

/-- The text of a command's `type`. -/
def CommandType.text : CommandType → String
  | AUTH => "AUTH"
  | JOIN_ROOM => "JOIN_ROOM"
  | LEAVE_ROOM => "LEAVE_ROOM"
  | PLAYER_READY => "PLAYER_READY"
  | MAKE_MOVE => "MAKE_MOVE"
  | REQUEST_REMATCH => "REQUEST_REMATCH"
  | ACCEPT_REMATCH => "ACCEPT_REMATCH"
  | DECLINE_REMATCH => "DECLINE_REMATCH"
  | PING => "PING"
  | RECONNECT => "RECONNECT"
  | SYNC_REQUEST => "SYNC_REQUEST"

/-- A command guard: the envelope, the type, and the fields of that type. -/
def commandGuard (type : CommandType) (fields : Option Json → Bool) (v : Option Json) : Bool :=
  isCommandEnvelope v && isText type.text (field v "type") && fields v

def isAuthCommand : Option Json → Bool :=
  commandGuard .AUTH fun v => isNull (field v "sessionToken") && isNullOr isString (field v "guestToken") &&
    isString (field v "clientVersion")

def isJoinRoomCommand : Option Json → Bool :=
  commandGuard .JOIN_ROOM fun v => isRoomId (field v "roomId") && isNullOr isString (field v "playerName")

def isLeaveRoomCommand : Option Json → Bool :=
  commandGuard .LEAVE_ROOM fun v => isRoomId (field v "roomId") &&
    isOneOf ["VOLUNTARY", "CLOSING_TAB"] (field v "reason")

def isPlayerReadyCommand : Option Json → Bool := commandGuard .PLAYER_READY fun v => isRoomId (field v "roomId")

def isMakeMoveCommand : Option Json → Bool :=
  commandGuard .MAKE_MOVE fun v => isRoomId (field v "roomId") && isUuidLike (field v "gameId") &&
    isBoardPosition (field v "position")

def isRequestRematchCommand : Option Json → Bool :=
  commandGuard .REQUEST_REMATCH fun v => isRoomId (field v "roomId") && isUuidLike (field v "gameId")

def isAcceptRematchCommand : Option Json → Bool :=
  commandGuard .ACCEPT_REMATCH fun v => isRoomId (field v "roomId") && isUuidLike (field v "gameId")

def isDeclineRematchCommand : Option Json → Bool :=
  commandGuard .DECLINE_REMATCH fun v => isRoomId (field v "roomId") && isUuidLike (field v "gameId")

def isPingCommand : Option Json → Bool := commandGuard .PING fun v => isPositiveNumber (field v "clientTime")

def isReconnectCommand : Option Json → Bool :=
  commandGuard .RECONNECT fun v => isRoomId (field v "roomId") && isNonNegativeInteger (field v "lastReceivedSeq")

def isSyncRequestCommand : Option Json → Bool :=
  commandGuard .SYNC_REQUEST fun v => isRoomId (field v "roomId") && isPositiveInteger (field v "fromSeq")

/-- The concrete guard of a type. -/
def CommandType.guard : CommandType → Option Json → Bool
  | AUTH => isAuthCommand
  | JOIN_ROOM => isJoinRoomCommand
  | LEAVE_ROOM => isLeaveRoomCommand
  | PLAYER_READY => isPlayerReadyCommand
  | MAKE_MOVE => isMakeMoveCommand
  | REQUEST_REMATCH => isRequestRematchCommand
  | ACCEPT_REMATCH => isAcceptRematchCommand
  | DECLINE_REMATCH => isDeclineRematchCommand
  | PING => isPingCommand
  | RECONNECT => isReconnectCommand
  | SYNC_REQUEST => isSyncRequestCommand

/-- All command types, in the order of the switch. -/
def CommandType.all : List CommandType :=
  [AUTH, JOIN_ROOM, LEAVE_ROOM, PLAYER_READY, MAKE_MOVE, REQUEST_REMATCH, ACCEPT_REMATCH, DECLINE_REMATCH, PING,
    RECONNECT, SYNC_REQUEST]

/-- The type that a value names. -/
def commandTypeOf (v : Option Json) : Option CommandType :=
  CommandType.all.find? fun type => isText type.text (field v "type")

def isAnyCommand (v : Option Json) : Bool := isCommandEnvelope v && (commandTypeOf v).any fun type => type.guard v

/-- The accepted value is the parsed object itself. -/
def parseCommand {Text : Type} (J : JsonTexts Text) (raw : Text) : Except ParseFailure Json :=
  match J.parse raw with
  | none => .error .malformed
  | some parsed =>
    if !isObject (some parsed) then .error .malformed
    else if !isNat PROTOCOL_VERSION (field (some parsed) "protocolVersion") then .error .protocolVersionMismatch
    else if !isCommandEnvelope (some parsed) then .error .malformed
    else if !isAnyCommand (some parsed) then
      .error (if (commandTypeOf (some parsed)).isSome then .malformed else .unknownMessageType)
    else .ok parsed

/-- The fields of a parsed command that its handler reads. -/
def CommandBody.ReadFrom (v : Option Json) : CommandBody → Prop
  | .auth guestToken => field v "guestToken" = some (orNull (guestToken.map text))
  | .joinRoom roomId playerName =>
    field v "roomId" = some (text roomId) ∧ field v "playerName" = some (orNull (playerName.map string))
  | .leaveRoom roomId => field v "roomId" = some (text roomId)
  | .playerReady roomId => field v "roomId" = some (text roomId)
  | .makeMove roomId gameId position =>
    field v "roomId" = some (text roomId) ∧ field v "gameId" = some (text gameId) ∧
      field (field v "position") "row" = some (number position.row) ∧
      field (field v "position") "col" = some (number position.col)
  | .requestRematch roomId gameId => field v "roomId" = some (text roomId) ∧ field v "gameId" = some (text gameId)
  | .acceptRematch roomId gameId => field v "roomId" = some (text roomId) ∧ field v "gameId" = some (text gameId)
  | .declineRematch roomId gameId => field v "roomId" = some (text roomId) ∧ field v "gameId" = some (text gameId)
  | .ping clientTime => field v "clientTime" = some (number clientTime)
  | .reconnect roomId lastReceivedSeq =>
    field v "roomId" = some (text roomId) ∧ field v "lastReceivedSeq" = some (nat lastReceivedSeq)
  | .syncRequest roomId fromSeq => field v "roomId" = some (text roomId) ∧ field v "fromSeq" = some (nat fromSeq)

structure Command.ReadFrom (command : Command) (v : Option Json) : Prop where
  type : field v "type" = some (text command.body.type.text)
  commandId : field v "commandId" = some (text command.commandId)
  body : command.body.ReadFrom v

/-! ### Events -/

/-- The `type` of an event. -/
inductive EventType where
  | AUTH_ACK | PONG | ERROR | ROOM_JOINED | PLAYER_JOINED | ROOM_LEFT | PLAYER_LEFT | PLAYER_READY_ACK | OPPONENT_READY
  | GAME_STARTED | MOVE_ACK | MOVE_BROADCAST | MOVE_REJECTED | GAME_FINISHED | REMATCH_REQUESTED | REMATCH_DECLINED
  | REMATCH_EXPIRED | OPPONENT_DISCONNECTED | OPPONENT_RECONNECTED | RECONNECT_ACK | STATE_SYNC
  deriving DecidableEq

def EventType.text : EventType → String
  | AUTH_ACK => "AUTH_ACK"
  | PONG => "PONG"
  | ERROR => "ERROR"
  | ROOM_JOINED => "ROOM_JOINED"
  | PLAYER_JOINED => "PLAYER_JOINED"
  | ROOM_LEFT => "ROOM_LEFT"
  | PLAYER_LEFT => "PLAYER_LEFT"
  | PLAYER_READY_ACK => "PLAYER_READY_ACK"
  | OPPONENT_READY => "OPPONENT_READY"
  | GAME_STARTED => "GAME_STARTED"
  | MOVE_ACK => "MOVE_ACK"
  | MOVE_BROADCAST => "MOVE_BROADCAST"
  | MOVE_REJECTED => "MOVE_REJECTED"
  | GAME_FINISHED => "GAME_FINISHED"
  | REMATCH_REQUESTED => "REMATCH_REQUESTED"
  | REMATCH_DECLINED => "REMATCH_DECLINED"
  | REMATCH_EXPIRED => "REMATCH_EXPIRED"
  | OPPONENT_DISCONNECTED => "OPPONENT_DISCONNECTED"
  | OPPONENT_RECONNECTED => "OPPONENT_RECONNECTED"
  | RECONNECT_ACK => "RECONNECT_ACK"
  | STATE_SYNC => "STATE_SYNC"

/-- The keys of `ERROR_META`. -/
def ErrorCode.text : ErrorCode → String
  | AUTH_TIMEOUT => "AUTH_TIMEOUT"
  | AUTH_FAILED => "AUTH_FAILED"
  | NOT_AUTHENTICATED => "NOT_AUTHENTICATED"
  | SESSION_EXPIRED => "SESSION_EXPIRED"
  | DUPLICATE_SESSION => "DUPLICATE_SESSION"
  | ROOM_NOT_FOUND => "ROOM_NOT_FOUND"
  | ROOM_FULL => "ROOM_FULL"
  | ROOM_EXPIRED => "ROOM_EXPIRED"
  | ALREADY_IN_ROOM => "ALREADY_IN_ROOM"
  | NOT_IN_ROOM => "NOT_IN_ROOM"
  | GAME_NOT_ACTIVE => "GAME_NOT_ACTIVE"
  | GAME_ID_MISMATCH => "GAME_ID_MISMATCH"
  | NOT_YOUR_TURN => "NOT_YOUR_TURN"
  | CELL_OCCUPIED => "CELL_OCCUPIED"
  | OUT_OF_BOUNDS => "OUT_OF_BOUNDS"
  | REMATCH_PENDING => "REMATCH_PENDING"
  | REMATCH_NOT_REQUESTED => "REMATCH_NOT_REQUESTED"
  | RECONNECT_WINDOW_EXPIRED => "RECONNECT_WINDOW_EXPIRED"
  | RECONNECT_INVALID => "RECONNECT_INVALID"
  | PROTOCOL_VERSION_MISMATCH => "PROTOCOL_VERSION_MISMATCH"
  | MALFORMED_MESSAGE => "MALFORMED_MESSAGE"
  | UNKNOWN_MESSAGE_TYPE => "UNKNOWN_MESSAGE_TYPE"
  | MESSAGE_TOO_LARGE => "MESSAGE_TOO_LARGE"
  | RATE_LIMITED => "RATE_LIMITED"
  | UNAUTHORIZED => "UNAUTHORIZED"
  | INTERNAL_ERROR => "INTERNAL_ERROR"
  | SERVER_SHUTTING_DOWN => "SERVER_SHUTTING_DOWN"

def ErrorCode.all : List ErrorCode :=
  [AUTH_TIMEOUT, AUTH_FAILED, NOT_AUTHENTICATED, SESSION_EXPIRED, DUPLICATE_SESSION, ROOM_NOT_FOUND, ROOM_FULL,
    ROOM_EXPIRED, ALREADY_IN_ROOM, NOT_IN_ROOM, GAME_NOT_ACTIVE, GAME_ID_MISMATCH, NOT_YOUR_TURN, CELL_OCCUPIED,
    OUT_OF_BOUNDS, REMATCH_PENDING, REMATCH_NOT_REQUESTED, RECONNECT_WINDOW_EXPIRED, RECONNECT_INVALID,
    PROTOCOL_VERSION_MISMATCH, MALFORMED_MESSAGE, UNKNOWN_MESSAGE_TYPE, MESSAGE_TOO_LARGE, RATE_LIMITED,
    UNAUTHORIZED, INTERNAL_ERROR, SERVER_SHUTTING_DOWN]

/-- What every object inherits. -/
def objectPrototype : List String :=
  ["constructor", "__defineGetter__", "__defineSetter__", "hasOwnProperty", "__lookupGetter__", "__lookupSetter__",
    "isPrototypeOf", "propertyIsEnumerable", "toString", "valueOf", "__proto__", "toLocaleString"]

/-- `v in ERROR_META`, for a string. -/
def inErrorMeta (v : Option Json) : Bool := isOneOf (ErrorCode.all.map ErrorCode.text ++ objectPrototype) v

/-- A guard of an event that belongs to no room. -/
def globalGuard (type : EventType) (fields : Option Json → Bool) (v : Option Json) : Bool :=
  isGlobalEventEnvelope v && isText type.text (field v "type") && fields v

/-- A guard of a room event. -/
def roomGuard (type : EventType) (fields : Option Json → Bool) (v : Option Json) : Bool :=
  isEventEnvelope v && isText type.text (field v "type") && isRoomId (field v "roomId") && fields v

def isExistingRoom (v : Option Json) : Bool :=
  isObject v && isRoomId (field v "roomId") && isPlayerSymbol (field v "symbol") &&
    isOneOf ["WAITING", "ACTIVE", "FINISHED"] (field v "gameStatus")

def isAuthAckEvent : Option Json → Bool :=
  globalGuard .AUTH_ACK fun v => isString (field v "sessionToken") && isUuidLike (field v "playerId") &&
    isString (field v "serverVersion") && isNullOr isExistingRoom (field v "existingRoom")

def isPongEvent : Option Json → Bool :=
  globalGuard .PONG fun v => isNumber (field v "clientTime") && isNumber (field v "serverTime")

def isErrorEvent : Option Json → Bool :=
  globalGuard .ERROR fun v => isString (field v "code") && inErrorMeta (field v "code") &&
    isString (field v "detail") && isBoolean (field v "recoverable")

def isRoomJoinedEvent : Option Json → Bool :=
  roomGuard .ROOM_JOINED fun v => isUuidLike (field v "playerId") && isPlayerSymbol (field v "symbol") &&
    isObject (field v "roomState")

def isPlayerJoinedEvent : Option Json → Bool :=
  roomGuard .PLAYER_JOINED fun v => isUuidLike (field v "playerId") && isPlayerSymbol (field v "symbol") &&
    isNullOr isString (field v "playerName") && isNumber (field v "connectedPlayerCount")

def isRoomLeftEvent : Option Json → Bool := roomGuard .ROOM_LEFT fun _ => true

def isPlayerLeftEvent : Option Json → Bool :=
  roomGuard .PLAYER_LEFT fun v => isUuidLike (field v "playerId") && isPlayerSymbol (field v "symbol") &&
    isOneOf ["VOLUNTARY", "DISCONNECT_TIMEOUT", "FORFEIT"] (field v "reason")

/-- An array of player symbols. -/
def isSymbolArray (v : Option Json) : Bool := isArray v && (items v).all fun x => isPlayerSymbol (some x)

def isPlayerReadyAckEvent : Option Json → Bool :=
  roomGuard .PLAYER_READY_ACK fun v => isSymbolArray (field v "readyPlayers")

def isOpponentReadyEvent : Option Json → Bool :=
  roomGuard .OPPONENT_READY fun v => isPlayerSymbol (field v "symbol") && isSymbolArray (field v "readyPlayers")

def isGameStartedEvent : Option Json → Bool :=
  roomGuard .GAME_STARTED fun v => isUuidLike (field v "gameId") && isBoardSnapshot (field v "board") &&
    isPlayerSymbol (field v "firstTurn") && isObject (field v "players") && isNumber (field v "startedAt")

def isMoveAckEvent : Option Json → Bool :=
  roomGuard .MOVE_ACK fun v => isUuidLike (field v "gameId") && isObject (field v "position") &&
    isPlayerSymbol (field v "symbol") && isNonNegativeInteger (field v "sequenceInGame") &&
    isBoardSnapshot (field v "board") && isNullOr isPlayerSymbol (field v "nextTurn")

def isMoveBroadcastEvent : Option Json → Bool :=
  roomGuard .MOVE_BROADCAST fun v => isUuidLike (field v "gameId") && isObject (field v "position") &&
    isPlayerSymbol (field v "symbol") && isUuidLike (field v "playerId") &&
    isNonNegativeInteger (field v "sequenceInGame") && isBoardSnapshot (field v "board") &&
    isNullOr isPlayerSymbol (field v "nextTurn")

def isMoveRejectedEvent : Option Json → Bool :=
  roomGuard .MOVE_REJECTED fun v => isUuidLike (field v "gameId") && isObject (field v "position") &&
    isOneOf ["NOT_YOUR_TURN", "CELL_OCCUPIED", "OUT_OF_BOUNDS", "GAME_NOT_ACTIVE", "GAME_ID_MISMATCH"]
      (field v "reason") &&
    isBoardSnapshot (field v "board") && isPlayerSymbol (field v "currentTurn")

def isGameFinishedEvent : Option Json → Bool :=
  roomGuard .GAME_FINISHED fun v => isUuidLike (field v "gameId") && isObject (field v "result") &&
    isBoardSnapshot (field v "finalBoard") && isArray (field v "moveHistory") && isObject (field v "stats")

def isRematchRequestedEvent : Option Json → Bool :=
  roomGuard .REMATCH_REQUESTED fun v => isUuidLike (field v "gameId") && isPlayerSymbol (field v "requestedBy") &&
    isNumber (field v "expiresAt")

def isRematchDeclinedEvent : Option Json → Bool :=
  roomGuard .REMATCH_DECLINED fun v => isUuidLike (field v "gameId") && isPlayerSymbol (field v "declinedBy")

def isRematchExpiredEvent : Option Json → Bool := roomGuard .REMATCH_EXPIRED fun v => isUuidLike (field v "gameId")

def isOpponentDisconnectedEvent : Option Json → Bool :=
  roomGuard .OPPONENT_DISCONNECTED fun v => isPlayerSymbol (field v "symbol") &&
    isNumber (field v "reconnectDeadlineAt")

def isOpponentReconnectedEvent : Option Json → Bool :=
  roomGuard .OPPONENT_RECONNECTED fun v => isPlayerSymbol (field v "symbol")

def isReconnectAckEvent : Option Json → Bool :=
  roomGuard .RECONNECT_ACK fun v => isUuidLike (field v "playerId") && isPlayerSymbol (field v "symbol") &&
    isObject (field v "roomState") && isNonNegativeInteger (field v "sessionSeq")

def isStateSyncReplayEvent : Option Json → Bool :=
  roomGuard .STATE_SYNC fun v => isText "REPLAY" (field v "mode") && isNonNegativeInteger (field v "fromSeq") &&
    isNonNegativeInteger (field v "toSeq") && isArray (field v "events")

def isStateSyncSnapshotEvent : Option Json → Bool :=
  roomGuard .STATE_SYNC fun v => isText "SNAPSHOT" (field v "mode") && isObject (field v "roomState")

def isStateSyncEvent (v : Option Json) : Bool := isStateSyncReplayEvent v || isStateSyncSnapshotEvent v

/-- The guard that the switch applies to a type. -/
def EventType.guard : EventType → Option Json → Bool
  | AUTH_ACK => isAuthAckEvent
  | PONG => isPongEvent
  | ERROR => isErrorEvent
  | ROOM_JOINED => isRoomJoinedEvent
  | PLAYER_JOINED => isPlayerJoinedEvent
  | ROOM_LEFT => isRoomLeftEvent
  | PLAYER_LEFT => isPlayerLeftEvent
  | PLAYER_READY_ACK => isPlayerReadyAckEvent
  | OPPONENT_READY => isOpponentReadyEvent
  | GAME_STARTED => isGameStartedEvent
  | MOVE_ACK => isMoveAckEvent
  | MOVE_BROADCAST => isMoveBroadcastEvent
  | MOVE_REJECTED => isMoveRejectedEvent
  | GAME_FINISHED => isGameFinishedEvent
  | REMATCH_REQUESTED => isRematchRequestedEvent
  | REMATCH_DECLINED => isRematchDeclinedEvent
  | REMATCH_EXPIRED => isRematchExpiredEvent
  | OPPONENT_DISCONNECTED => isOpponentDisconnectedEvent
  | OPPONENT_RECONNECTED => isOpponentReconnectedEvent
  | RECONNECT_ACK => isReconnectAckEvent
  | STATE_SYNC => isStateSyncEvent

/-- All event types, in the order of the switch. -/
def EventType.all : List EventType :=
  [AUTH_ACK, PONG, ERROR, ROOM_JOINED, PLAYER_JOINED, ROOM_LEFT, PLAYER_LEFT, PLAYER_READY_ACK, OPPONENT_READY,
    GAME_STARTED, MOVE_ACK, MOVE_BROADCAST, MOVE_REJECTED, GAME_FINISHED, REMATCH_REQUESTED, REMATCH_DECLINED,
    REMATCH_EXPIRED, OPPONENT_DISCONNECTED, OPPONENT_RECONNECTED, RECONNECT_ACK, STATE_SYNC]

def eventTypeOf (v : Option Json) : Option EventType :=
  EventType.all.find? fun type => isText type.text (field v "type")

def isAnyEvent (v : Option Json) : Bool := isBaseEnvelope v && (eventTypeOf v).any fun type => type.guard v

def parseEvent {Text : Type} (J : JsonTexts Text) (raw : Text) : Option Json :=
  (J.parse raw).filter fun parsed => isErrorEvent (some parsed) || isAnyEvent (some parsed)

end TicTacToe
