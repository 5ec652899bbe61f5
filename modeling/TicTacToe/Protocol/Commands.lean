import TicTacToe.Protocol.Types

/-! # Client commands

Parsed commands (`src/shared/protocol/commands.ts`) with the fields that the server reads. The
`sessionToken` of a command's envelope, the client version and the reason of a leave are not read. -/

namespace TicTacToe

inductive CommandBody where
  /-- `guestToken` is null for a new session. -/
  | auth (guestToken : Option SessionToken)
  | joinRoom (roomId : RoomId) (playerName : Option PlayerName)
  | leaveRoom (roomId : RoomId)
  | playerReady (roomId : RoomId)
  | makeMove (roomId : RoomId) (gameId : GameId) (position : RawPosition)
  | requestRematch (roomId : RoomId) (gameId : GameId)
  | acceptRematch (roomId : RoomId) (gameId : GameId)
  | declineRematch (roomId : RoomId) (gameId : GameId)
  | ping (clientTime : JsNumber)
  | reconnect (roomId : RoomId) (lastReceivedSeq : Nat)
  | syncRequest (roomId : RoomId) (fromSeq : Nat)

/-- The `type` of a command. -/
inductive CommandType where
  | AUTH | JOIN_ROOM | LEAVE_ROOM | PLAYER_READY | MAKE_MOVE | REQUEST_REMATCH | ACCEPT_REMATCH | DECLINE_REMATCH
  | PING | RECONNECT | SYNC_REQUEST
  deriving DecidableEq

def CommandBody.type : CommandBody → CommandType
  | .auth _ => .AUTH
  | .joinRoom .. => .JOIN_ROOM
  | .leaveRoom _ => .LEAVE_ROOM
  | .playerReady _ => .PLAYER_READY
  | .makeMove .. => .MAKE_MOVE
  | .requestRematch .. => .REQUEST_REMATCH
  | .acceptRematch .. => .ACCEPT_REMATCH
  | .declineRematch .. => .DECLINE_REMATCH
  | .ping _ => .PING
  | .reconnect .. => .RECONNECT
  | .syncRequest .. => .SYNC_REQUEST

structure Command where
  commandId : CommandId
  body : CommandBody

/-- Why `parseCommand` refuses a frame, as far as the router tells the reasons apart. -/
inductive ParseFailure where
  | protocolVersionMismatch
  | unknownMessageType
  | malformed

/-- A received frame: its size and what `parseCommand` makes of it. -/
structure RawFrame where
  byteLength : Nat
  parseResult : Except ParseFailure Command

end TicTacToe
