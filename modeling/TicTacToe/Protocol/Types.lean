import Mathlib.Tactic.Common
import Mathlib.Data.Fintype.Basic
import TicTacToe.Lib.JsNumber

/-! # Protocol types

The values that the server and the client share (`src/shared/protocol/types.ts`). Identifiers are
opaque strings, times are epoch milliseconds. The envelope fields that nothing reads once a frame is
parsed (`protocolVersion`, `messageId`, `timestamp`) are left out here; the encoding adds them. -/

namespace TicTacToe

abbrev RoomId := String
abbrev GameId := String
abbrev PlayerId := String
abbrev SessionToken := String
abbrev CommandId := String
abbrev ConnectionId := String

/-- A time or a duration in milliseconds. -/
abbrev Millis := Int

/-- A display name as its UTF-16 code units. -/
abbrev PlayerName := List UInt16

def MAX_FRAME_BYTES : Nat := 65536
def COMMAND_DEDUP_TTL_MS : Millis := 300000
def RECONNECT_WINDOW_MS : Millis := 300000
def CONNECTION_IDLE_TIMEOUT_MS : Millis := 60000
def AUTH_TIMEOUT_MS : Millis := 10000
def REMATCH_TIMEOUT_MS : Millis := 60000
def ROOM_TTL_MS : Millis := 86400000
def EVENT_BUFFER_SIZE : Nat := 500
def MAX_PLAYER_NAME_LENGTH : Nat := 30

inductive PlayerSymbol where
  | X
  | O
  deriving DecidableEq, Repr

/-- A cell is unoccupied or holds a mark. -/
inductive CellValue where
  | empty
  | mark (symbol : PlayerSymbol)
  deriving DecidableEq, Repr

/-- `0 | 1 | 2`. -/
abbrev BoardIndex := Fin 3

structure BoardPosition where
  row : BoardIndex
  col : BoardIndex
  deriving DecidableEq, Repr

/-- The nine cells, row by row. -/
abbrev BoardSnapshot := Fin 9 → CellValue

def EMPTY_BOARD : BoardSnapshot := fun _ => .empty

def positionToIndex (row col : BoardIndex) : Fin 9 := ⟨row * 3 + col, by omega⟩

inductive WinningLineType where
  | row
  | col
  | diagonal
  deriving DecidableEq, Repr

structure WinningLine where
  type : WinningLineType
  positions : BoardPosition × BoardPosition × BoardPosition
  deriving DecidableEq, Repr

namespace WinningLine

/-- The positions of a line, in order. -/
def cells (line : WinningLine) : List BoardPosition := [line.positions.1, line.positions.2.1, line.positions.2.2]

end WinningLine

inductive GameStatus where
  | waiting
  | active
  | finished
  deriving DecidableEq, Repr

inductive RoomStatus where
  | open
  | full
  | closed
  deriving DecidableEq, Repr

inductive GameOutcome where
  | win
  | draw
  | forfeit
  | abandoned
  deriving DecidableEq, Repr

inductive GameEndReason where
  | threeInARow
  | boardFull
  | playerForfeited
  | playerAbandoned
  deriving DecidableEq, Repr

structure GameResult where
  outcome : GameOutcome
  winner : Option PlayerSymbol
  winningLine : Option WinningLine
  reason : GameEndReason
  endedAt : Millis
  deriving DecidableEq, Repr

structure MoveRecord where
  /-- 1-based index of this move within the game. -/
  sequenceInGame : Nat
  symbol : PlayerSymbol
  position : BoardPosition
  appliedAt : Millis
  deriving DecidableEq, Repr

inductive ConnectionState where
  | connected
  | disconnected
  | reconnecting
  deriving DecidableEq, Repr

structure PlayerInfo where
  playerId : PlayerId
  symbol : PlayerSymbol
  name : Option PlayerName
  connectionState : ConnectionState
  lastSeenAt : Millis
  deriving DecidableEq

structure GameStats where
  moveCount : Nat
  durationMs : Millis
  firstMoveAt : Option Millis
  deriving DecidableEq

/-- Compact game record for the room history list. -/
structure GameSummary where
  gameId : GameId
  outcome : GameOutcome
  winner : Option PlayerSymbol
  moveCount : Nat
  startedAt : Millis
  endedAt : Millis
  deriving DecidableEq

/-- The game of a room as a snapshot shows it. -/
structure CurrentGame where
  gameId : GameId
  status : GameStatus
  board : BoardSnapshot
  currentTurn : PlayerSymbol
  moveCount : Nat
  startedAt : Millis
  result : Option GameResult
  deriving DecidableEq

/-- The two players of a room or of a game, by symbol. -/
structure Players (α : Type) where
  X : α
  O : α
  deriving DecidableEq

/-- Full room state transmitted to a client on join or reconnect. -/
structure RoomStateSnapshot where
  roomId : RoomId
  status : RoomStatus
  players : Players (Option PlayerInfo)
  readyPlayers : List PlayerSymbol
  currentGame : Option CurrentGame
  gameHistory : List GameSummary
  deriving DecidableEq

inductive MoveRejectionReason where
  | notYourTurn
  | cellOccupied
  | outOfBounds
  | gameNotActive
  | gameIdMismatch
  deriving DecidableEq, Repr

/-- A board position as a client submits it. -/
structure RawPosition where
  row : JsNumber
  col : JsNumber
  deriving DecidableEq

end TicTacToe
