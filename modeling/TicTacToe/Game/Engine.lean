import Mathlib.Tactic.Common
import TicTacToe.Protocol.Types

/-! # The game engine

The pure engine of `src/server/game/engine.ts`: one state record, a constructor for a new game and
the three transitions (move, forfeit, abandon), each returning the new state and its events. -/

namespace TicTacToe

/-- The complete, authoritative state of one game. -/
structure GameState where
  gameId : GameId
  roomId : RoomId
  playerX : PlayerId
  playerO : PlayerId
  board : BoardSnapshot
  currentTurn : PlayerSymbol
  status : GameStatus
  result : Option GameResult
  moveHistory : List MoveRecord
  /-- X for game 1; alternates on rematch. -/
  firstTurn : PlayerSymbol
  createdAt : Millis
  firstMoveAt : Option Millis
  endedAt : Option Millis
  deriving DecidableEq

structure StartGameCommand where
  gameId : GameId
  roomId : RoomId
  playerX : PlayerId
  playerO : PlayerId
  firstTurn : PlayerSymbol
  timestamp : Millis

/-- A move as the session layer submits it; `row` and `col` are any numbers. -/
structure MakeMoveCommand where
  playerId : PlayerId
  row : JsNumber
  col : JsNumber
  commandId : CommandId
  timestamp : Millis

structure ForfeitCommand where
  playerId : PlayerId
  timestamp : Millis

structure AbandonCommand where
  playerId : PlayerId
  timestamp : Millis

structure MoveMade where
  gameId : GameId
  symbol : PlayerSymbol
  row : BoardIndex
  col : BoardIndex
  sequenceInGame : Nat
  board : BoardSnapshot
  nextTurn : Option PlayerSymbol
  deriving DecidableEq

structure GameEnded where
  gameId : GameId
  result : GameResult
  finalBoard : BoardSnapshot
  moveHistory : List MoveRecord
  deriving DecidableEq

inductive EngineEvent where
  | gameStarted (gameId : GameId) (roomId : RoomId) (firstTurn : PlayerSymbol) (board : BoardSnapshot)
  | moveMade (event : MoveMade)
  | gameEnded (event : GameEnded)
  deriving DecidableEq

namespace EngineEvent

def asMoveMade : EngineEvent → Option MoveMade
  | moveMade e => some e
  | _ => none

def asGameEnded : EngineEvent → Option GameEnded
  | gameEnded e => some e
  | _ => none

end EngineEvent

structure StartGameResult where
  newState : GameState
  events : List EngineEvent

/-- An accepted move with its events, or a rejection of the unchanged state. -/
inductive MakeMoveResult where
  | accepted (newState : GameState) (events : List EngineEvent)
  | rejected (newState : GameState) (rejectionReason : MoveRejectionReason)

namespace MakeMoveResult

def isAccepted : MakeMoveResult → Bool
  | accepted .. => true
  | rejected .. => false

def newState : MakeMoveResult → GameState
  | accepted s _ => s
  | rejected s _ => s

def events : MakeMoveResult → List EngineEvent
  | accepted _ es => es
  | rejected .. => []

end MakeMoveResult

/-- The result of `forfeit` and `abandon`: the finished state and its only event. -/
structure EndResult where
  newState : GameState
  event : GameEnded

/-! ### The board -/

/-- The eight lines: three rows, three columns, two diagonals. -/
def ALL_WINNING_LINES : List WinningLine :=
  [⟨.row, ⟨0, 0⟩, ⟨0, 1⟩, ⟨0, 2⟩⟩, ⟨.row, ⟨1, 0⟩, ⟨1, 1⟩, ⟨1, 2⟩⟩, ⟨.row, ⟨2, 0⟩, ⟨2, 1⟩, ⟨2, 2⟩⟩,
   ⟨.col, ⟨0, 0⟩, ⟨1, 0⟩, ⟨2, 0⟩⟩, ⟨.col, ⟨0, 1⟩, ⟨1, 1⟩, ⟨2, 1⟩⟩, ⟨.col, ⟨0, 2⟩, ⟨1, 2⟩, ⟨2, 2⟩⟩,
   ⟨.diagonal, ⟨0, 0⟩, ⟨1, 1⟩, ⟨2, 2⟩⟩, ⟨.diagonal, ⟨0, 2⟩, ⟨1, 1⟩, ⟨2, 0⟩⟩]

def applyMarkToBoard (board : BoardSnapshot) (row col : BoardIndex) (symbol : PlayerSymbol) : BoardSnapshot :=
  fun i => if i = positionToIndex row col then .mark symbol else board i

/-- The cell of `board` at a position. -/
def boardAt (board : BoardSnapshot) (position : BoardPosition) : CellValue :=
  board (positionToIndex position.row position.col)

/-- The first line that `symbol` occupies. -/
def detectWin (board : BoardSnapshot) (symbol : PlayerSymbol) : Option WinningLine :=
  ALL_WINNING_LINES.find? fun line => line.cells.all fun position => boardAt board position = .mark symbol

def isBoardFull (board : BoardSnapshot) : Bool := (List.ofFn board).all fun cell => cell ≠ .empty

def opponent : PlayerSymbol → PlayerSymbol
  | .X => .O
  | .O => .X

def isValidPosition (row col : JsNumber) : Bool :=
  row.isInteger && col.isInteger &&
    (JsNumber.ofNat 0).le row && row.le (.ofNat 2) && (JsNumber.ofNat 0).le col && col.le (.ofNat 2)

/-- The cast of a validated number. -/
def toBoardIndex : JsNumber → BoardIndex
  | .finite q => Fin.ofNat 3 q.num.toNat
  | _ => 0

/-- Replay an ordered history from the empty board. -/
def boardFromHistory (history : List MoveRecord) : BoardSnapshot :=
  history.foldl (fun board record => applyMarkToBoard board record.position.row record.position.col record.symbol)
    EMPTY_BOARD

/-! ### Transitions -/

/-- Both players are ready before the engine is called, so a game starts `ACTIVE`. -/
def startGame (command : StartGameCommand) : StartGameResult where
  newState := {
    gameId := command.gameId
    roomId := command.roomId
    playerX := command.playerX
    playerO := command.playerO
    board := EMPTY_BOARD
    currentTurn := command.firstTurn
    status := .active
    result := none
    moveHistory := []
    firstTurn := command.firstTurn
    createdAt := command.timestamp
    firstMoveAt := none
    endedAt := none }
  events := [.gameStarted command.gameId command.roomId command.firstTurn EMPTY_BOARD]

def resolveSymbol (state : GameState) (playerId : PlayerId) : Option PlayerSymbol :=
  if playerId = state.playerX then some .X else if playerId = state.playerO then some .O else none

def reject (state : GameState) (reason : MoveRejectionReason) : MakeMoveResult := .rejected state reason

/-- The record of the next move. -/
def nextMoveRecord (state : GameState) (symbol : PlayerSymbol) (row col : BoardIndex) (timestamp : Millis) :
    MoveRecord where
  sequenceInGame := state.moveHistory.length + 1
  symbol := symbol
  position := ⟨row, col⟩
  appliedAt := timestamp

/-- The part of the state that every accepted move changes alike. -/
def placeMark (state : GameState) (symbol : PlayerSymbol) (row col : BoardIndex) (timestamp : Millis)
    (turn : PlayerSymbol) : GameState :=
  { state with
    board := applyMarkToBoard state.board row col symbol
    currentTurn := turn
    moveHistory := state.moveHistory ++ [nextMoveRecord state symbol row col timestamp]
    firstMoveAt := some (state.firstMoveAt.getD timestamp) }

def moveEvent (state : GameState) (symbol : PlayerSymbol) (row col : BoardIndex) (nextTurn : Option PlayerSymbol) :
    MoveMade where
  gameId := state.gameId
  symbol := symbol
  row := row
  col := col
  sequenceInGame := state.moveHistory.length + 1
  board := applyMarkToBoard state.board row col symbol
  nextTurn := nextTurn

def buildEndResult (outcome : GameOutcome) (reason : GameEndReason) (winner : Option PlayerSymbol)
    (winningLine : Option WinningLine) (timestamp : Millis) : GameResult :=
  ⟨outcome, winner, winningLine, reason, timestamp⟩

def buildFinishedState (state : GameState) (result : GameResult) (timestamp : Millis) : GameState :=
  { state with status := .finished, result := some result, endedAt := some timestamp }

def buildEndEvent (gameId : GameId) (result : GameResult) (finalBoard : BoardSnapshot)
    (moveHistory : List MoveRecord) : GameEnded :=
  ⟨gameId, result, finalBoard, moveHistory⟩

/-- A move that ends the game: the turn does not advance. -/
def finishMove (state : GameState) (symbol : PlayerSymbol) (row col : BoardIndex) (timestamp : Millis)
    (result : GameResult) : MakeMoveResult :=
  let placed := placeMark state symbol row col timestamp symbol
  .accepted (buildFinishedState placed result timestamp)
    [.moveMade (moveEvent state symbol row col none),
     .gameEnded (buildEndEvent state.gameId result placed.board placed.moveHistory)]

/-- A legal move: a win of the mover is looked for first, then a draw. -/
def acceptMove (state : GameState) (symbol : PlayerSymbol) (row col : BoardIndex) (timestamp : Millis) :
    MakeMoveResult :=
  let newBoard := applyMarkToBoard state.board row col symbol
  match detectWin newBoard symbol with
  | some winLine =>
    finishMove state symbol row col timestamp
      (buildEndResult .win .threeInARow (some symbol) (some winLine) timestamp)
  | none =>
    if isBoardFull newBoard then
      finishMove state symbol row col timestamp (buildEndResult .draw .boardFull none none timestamp)
    else
      .accepted (placeMark state symbol row col timestamp (opponent symbol))
        [.moveMade (moveEvent state symbol row col (some (opponent symbol)))]

def applyMove (state : GameState) (command : MakeMoveCommand) : MakeMoveResult :=
  if state.status ≠ .active then reject state .gameNotActive
  else match resolveSymbol state command.playerId with
    -- The session layer is expected to stop unknown players before the engine.
    | none => reject state .gameNotActive
    | some movingSymbol =>
      if movingSymbol ≠ state.currentTurn then reject state .notYourTurn
      else if !isValidPosition command.row command.col then reject state .outOfBounds
      else if boardAt state.board ⟨toBoardIndex command.row, toBoardIndex command.col⟩ ≠ .empty then
        reject state .cellOccupied
      else acceptMove state movingSymbol (toBoardIndex command.row) (toBoardIndex command.col) command.timestamp

/-- `forfeit` and `abandon` end the game alike; the other player wins when the player is known. -/
def endGame (state : GameState) (outcome : GameOutcome) (reason : GameEndReason) (playerId : PlayerId)
    (timestamp : Millis) : EndResult :=
  let winner := (resolveSymbol state playerId).map opponent
  let result := buildEndResult outcome reason winner none timestamp
  let finishedState := buildFinishedState state result timestamp
  ⟨finishedState, buildEndEvent state.gameId result finishedState.board finishedState.moveHistory⟩

def forfeit (state : GameState) (command : ForfeitCommand) : EndResult :=
  endGame state .forfeit .playerForfeited command.playerId command.timestamp

def abandon (state : GameState) (command : AbandonCommand) : EndResult :=
  endGame state .abandoned .playerAbandoned command.playerId command.timestamp

/-- A new game between the same players; the other symbol moves first. -/
def createRematch (previousState : GameState) (newGameId : GameId) (timestamp : Millis) : StartGameResult :=
  startGame {
    gameId := newGameId
    roomId := previousState.roomId
    playerX := previousState.playerX
    playerO := previousState.playerO
    firstTurn := opponent previousState.firstTurn
    timestamp := timestamp }

/-! ### Replay -/

/-- What a replay of moves ends with: the last state, or the first rejection. -/
inductive ReplayResult where
  | completed (finalState : GameState) (events : List EngineEvent)
  | failed (finalState : GameState) (failedAtIndex : Nat) (failureReason : MoveRejectionReason)
      (events : List EngineEvent)
  deriving DecidableEq

/-- The loop of `replayMoves` from index `i` on. -/
def replayFrom (state : GameState) (allEvents : List EngineEvent) (i : Nat) : List MakeMoveCommand → ReplayResult
  | [] => .completed state allEvents
  | cmd :: commands =>
    match applyMove state cmd with
    | .rejected _ rejectionReason => .failed state i rejectionReason allEvents
    | .accepted newState events => replayFrom newState (allEvents ++ events) (i + 1) commands

/-- Apply moves in order; the first rejected one stops the replay. -/
def replayMoves (initialState : GameState) (commands : List MakeMoveCommand) : ReplayResult :=
  replayFrom initialState [] 0 commands

/-! ### Invariant verifier -/

structure InvariantViolation where
  invariant : String
  detail : String
  deriving DecidableEq

def PlayerSymbol.text : PlayerSymbol → String
  | .X => "X"
  | .O => "O"

def CellValue.text : CellValue → String
  | .empty => ""
  | .mark symbol => symbol.text

/-- `cell || 'empty'`. -/
def CellValue.textOrEmpty : CellValue → String
  | .empty => "empty"
  | .mark symbol => symbol.text

def GameOutcome.text : GameOutcome → String
  | .win => "WIN"
  | .draw => "DRAW"
  | .forfeit => "FORFEIT"
  | .abandoned => "ABANDONED"

def winnerText : Option PlayerSymbol → String
  | none => "null"
  | some symbol => symbol.text

/-- The violation `invariant` when `bad` holds. -/
def violationIf (bad : Prop) [Decidable bad] (invariant detail : String) : List InvariantViolation :=
  if bad then [⟨invariant, detail⟩] else []

/-- The player whose move has index `i` in the history. -/
def expectedSymbol (firstTurn : PlayerSymbol) (i : Nat) : PlayerSymbol :=
  if i % 2 = 0 then firstTurn else opponent firstTurn

def markCount (board : BoardSnapshot) : Nat := ((List.finRange 9).filter fun i => board i ≠ .empty).length

/-- 1. No cell contains an illegal value. -/
def cellViolations (state : GameState) : List InvariantViolation :=
  (List.finRange 9).flatMap fun i =>
    violationIf (state.board i ≠ .empty ∧ state.board i ≠ .mark .X ∧ state.board i ≠ .mark .O)
      "NO_INVALID_CELL_VALUE" s!"Cell {i} contains illegal value \"{(state.board i).text}\""

/-- 2. History length equals board mark count. -/
def historyLengthViolations (state : GameState) : List InvariantViolation :=
  violationIf (markCount state.board ≠ state.moveHistory.length) "HISTORY_LENGTH_MATCHES_BOARD"
    s!"Board has {markCount state.board} marks but history has {state.moveHistory.length} entries"

/-- 3 and 9. History symbols alternate, `sequenceInGame` is 1-based and increasing. -/
def historyViolations (state : GameState) : List InvariantViolation :=
  state.moveHistory.zipIdx.flatMap fun (record, i) =>
    violationIf (record.sequenceInGame ≠ i + 1) "SEQUENCE_IN_GAME_MONOTONE"
      s!"Move at index {i} has sequenceInGame={record.sequenceInGame}, expected {i + 1}" ++
    violationIf (record.symbol ≠ expectedSymbol state.firstTurn i) "TURNS_ALTERNATE"
      s!"Move {i + 1}: expected {(expectedSymbol state.firstTurn i).text} but got {record.symbol.text}"

/-- 4. `currentTurn` is correct. -/
def turnViolations (state : GameState) : List InvariantViolation :=
  let expectedTurn := expectedSymbol state.firstTurn state.moveHistory.length
  violationIf (state.status = .active ∧ state.currentTurn ≠ expectedTurn) "CURRENT_TURN_CORRECT"
    s!"Expected currentTurn={expectedTurn.text} after {state.moveHistory.length} moves, got {state.currentTurn.text}"

/-- 5. Board derivable from history. -/
def boardViolations (state : GameState) : List InvariantViolation :=
  let derivedBoard := boardFromHistory state.moveHistory
  (List.finRange 9).flatMap fun i =>
    violationIf (derivedBoard i ≠ state.board i) "BOARD_DERIVABLE_FROM_HISTORY"
      s!"Cell {i}: board={(state.board i).textOrEmpty} but history derives {(derivedBoard i).textOrEmpty}"

/-- 13. All cells of the winning line match the winner. -/
def winningLineViolations (state : GameState) (winningLine : WinningLine) (winner : PlayerSymbol) :
    List InvariantViolation :=
  winningLine.cells.flatMap fun pos =>
    let cell := boardAt state.board pos
    violationIf (cell ≠ .mark winner) "WINNING_LINE_CELLS_MATCH_WINNER"
      s!"Cell ({pos.row},{pos.col}) on winning line is \"{cell.textOrEmpty}\", expected \"{winner.text}\""

/-- 6–8, 12 and 13. Consistency of the result of a finished game. -/
def finishedResultViolations (state : GameState) (result : GameResult) : List InvariantViolation :=
  violationIf (result.outcome = .win ∧ result.winningLine = none) "WIN_HAS_WINNING_LINE"
    "Game outcome is WIN but winningLine is null" ++
  violationIf (result.outcome = .draw ∧ result.winner ≠ none) "NON_WIN_HAS_NO_WINNER"
    s!"Game outcome is {result.outcome.text} but winner is {winnerText result.winner}" ++
  violationIf ((result.outcome = .forfeit ∨ result.outcome = .abandoned) ∧ result.winner = none)
    "TERMINAL_FORFEIT_HAS_WINNER" s!"Game outcome is {result.outcome.text} but winner is null" ++
  violationIf (result.outcome = .win ∧ result.winner = none) "WIN_HAS_WINNER"
    "Game outcome is WIN but winner is null" ++
  violationIf (result.outcome = .draw ∧ isBoardFull state.board = false) "DRAW_REQUIRES_FULL_BOARD"
    "Game outcome is DRAW but board is not full" ++
  match result.outcome, result.winningLine, result.winner with
  | .win, some winningLine, some winner => winningLineViolations state winningLine winner
  | _, _, _ => []

def resultViolations (state : GameState) : List InvariantViolation :=
  match state.status, state.result with
  | .finished, some result => finishedResultViolations state result
  | _, _ => []

/-- 10. `firstMoveAt` is set exactly when there are moves. -/
def firstMoveViolations (state : GameState) : List InvariantViolation :=
  violationIf (state.moveHistory.length = 0 ∧ state.firstMoveAt ≠ none) "FIRST_MOVE_AT_NULL_WHEN_NO_MOVES"
    "firstMoveAt is non-null but there are no moves" ++
  violationIf (0 < state.moveHistory.length ∧ state.firstMoveAt = none) "FIRST_MOVE_AT_SET_WHEN_MOVES_EXIST"
    "firstMoveAt is null but there are moves"

/-- 11. `endedAt` is set exactly when the game is finished. -/
def endedAtViolations (state : GameState) : List InvariantViolation :=
  violationIf (state.status = .finished ∧ state.endedAt = none) "ENDED_AT_SET_WHEN_FINISHED"
    "status is FINISHED but endedAt is null" ++
  violationIf (state.status ≠ .finished ∧ state.endedAt ≠ none) "ENDED_AT_NULL_WHEN_NOT_FINISHED"
    "endedAt is non-null but game is not FINISHED"

/-- All violations; an empty list means the state is valid. -/
def verifyInvariants (state : GameState) : List InvariantViolation :=
  cellViolations state ++ historyLengthViolations state ++ historyViolations state ++ turnViolations state ++
    boardViolations state ++ resultViolations state ++ firstMoveViolations state ++ endedAtViolations state

end TicTacToe
