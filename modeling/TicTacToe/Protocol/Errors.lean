/-! # Error codes

The error codes of the protocol with the behaviour metadata the server looks up
(`src/shared/protocol/errors.ts`). -/

namespace TicTacToe

inductive ErrorCode where
  | AUTH_TIMEOUT
  | AUTH_FAILED
  | NOT_AUTHENTICATED
  | SESSION_EXPIRED
  | DUPLICATE_SESSION
  | ROOM_NOT_FOUND
  | ROOM_FULL
  | ROOM_EXPIRED
  | ALREADY_IN_ROOM
  | NOT_IN_ROOM
  | GAME_NOT_ACTIVE
  | GAME_ID_MISMATCH
  | NOT_YOUR_TURN
  | CELL_OCCUPIED
  | OUT_OF_BOUNDS
  | REMATCH_PENDING
  | REMATCH_NOT_REQUESTED
  | RECONNECT_WINDOW_EXPIRED
  | RECONNECT_INVALID
  | PROTOCOL_VERSION_MISMATCH
  | MALFORMED_MESSAGE
  | UNKNOWN_MESSAGE_TYPE
  | MESSAGE_TOO_LARGE
  | RATE_LIMITED
  | UNAUTHORIZED
  | INTERNAL_ERROR
  | SERVER_SHUTTING_DOWN
  deriving DecidableEq, Repr

structure ErrorMeta where
  recoverable : Bool
  closesConnection : Bool
  summary : String
  deriving DecidableEq

def ERROR_META : ErrorCode → ErrorMeta
  | .AUTH_TIMEOUT => ⟨false, true, "No AUTH command received within the time limit after WebSocket open."⟩
  | .AUTH_FAILED => ⟨true, false,
      "The provided guestToken is invalid or expired. Send AUTH with guestToken: null to create a new session."⟩
  | .NOT_AUTHENTICATED => ⟨true, false, "A room or game command was sent before authentication succeeded."⟩
  | .SESSION_EXPIRED => ⟨false, true,
      "The session token has expired (7-day TTL). Clear stored credentials and re-authenticate."⟩
  | .DUPLICATE_SESSION => ⟨false, true, "The same session token is already in use on another connection."⟩
  | .ROOM_NOT_FOUND => ⟨true, false, "No room exists with the given roomId."⟩
  | .ROOM_FULL => ⟨true, false, "The room already has 2 players and cannot accept more."⟩
  | .ROOM_EXPIRED => ⟨false, false, "The room has exceeded its 24-hour TTL and has been purged."⟩
  | .ALREADY_IN_ROOM => ⟨true, false, "The player is already in a different active room."⟩
  | .NOT_IN_ROOM => ⟨true, false, "This command requires the player to be in a room."⟩
  | .GAME_NOT_ACTIVE => ⟨true, false, "This command requires the game to be in ACTIVE status."⟩
  | .GAME_ID_MISMATCH => ⟨true, false, "The gameId in the command does not match the current active game."⟩
  | .NOT_YOUR_TURN => ⟨true, false, "It is not this player's turn."⟩
  | .CELL_OCCUPIED => ⟨true, false, "The target cell is already occupied."⟩
  | .OUT_OF_BOUNDS => ⟨true, false, "The position row or col is outside the valid range [0, 2]."⟩
  | .REMATCH_PENDING => ⟨true, false, "A rematch proposal is already pending for this game."⟩
  | .REMATCH_NOT_REQUESTED => ⟨true, false,
      "Cannot accept or decline: no rematch has been requested for this game."⟩
  | .RECONNECT_WINDOW_EXPIRED => ⟨false, false,
      "The 5-minute reconnection window has elapsed. The game has been abandoned."⟩
  | .RECONNECT_INVALID => ⟨true, false, "The session token is not associated with the given roomId."⟩
  | .PROTOCOL_VERSION_MISMATCH => ⟨false, true,
      "The protocolVersion field does not match the server's supported version."⟩
  | .MALFORMED_MESSAGE => ⟨true, false, "The message could not be parsed or is missing required envelope fields."⟩
  | .UNKNOWN_MESSAGE_TYPE => ⟨true, false, "The type field does not match any known command."⟩
  | .MESSAGE_TOO_LARGE => ⟨true, false, "The message frame exceeds the maximum allowed size of 64 KB."⟩
  | .RATE_LIMITED => ⟨true, false, "The sender has exceeded the rate limit. Back off and retry."⟩
  | .UNAUTHORIZED => ⟨true, false, "Authorization failed for this command (e.g. acting as another player)."⟩
  | .INTERNAL_ERROR => ⟨true, false,
      "An unexpected server error occurred. A traceId is provided in data for support."⟩
  | .SERVER_SHUTTING_DOWN => ⟨false, true, "The server is shutting down. Reconnect in a few seconds."⟩

end TicTacToe
