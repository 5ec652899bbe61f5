import TicTacToe.Theorems.EngineDecided

/-! # The move history is a log of the game

A state of a run is a function of the first state and of the accepted moves, and the history has all that `applyMove`
uses of these. -/

namespace TicTacToe
variable {s t : GameState} {symbol : PlayerSymbol} {row col : BoardIndex}

/-- The player who holds a symbol. -/
def GameState.holder (s : GameState) : PlayerSymbol → PlayerId
  | .X => s.playerX
  | .O => s.playerO

/-- The move that a record tells of, under some id. -/
def MoveRecord.command (s : GameState) (commandId : MoveRecord → CommandId) (record : MoveRecord) : MakeMoveCommand where
  playerId := s.holder record.symbol
  row := .ofNat record.position.row
  col := .ofNat record.position.col
  commandId := commandId record
  timestamp := record.appliedAt

/-- The events of the accepted moves of a sequence. -/
def runEvents (s : GameState) : List MakeMoveCommand → List EngineEvent
  | [] => []
  | c :: moves => (applyMove s c).events ++ runEvents (applyMove s c).newState moves

/-! ### What an accepted move is a function of -/

theorem resolveSymbol_holder (hne : s.playerX ≠ s.playerO) (symbol : PlayerSymbol) :
    resolveSymbol s (s.holder symbol) = some symbol := by
  cases symbol with
  | X => simp [resolveSymbol, GameState.holder]
  | O => simp [resolveSymbol, GameState.holder, hne.symm]

@[simp] theorem toBoardIndex_ofNat (i : BoardIndex) : toBoardIndex (.ofNat i) = i := by
  revert i
  decide

@[simp] theorem isValidPosition_ofNat (row col : BoardIndex) : isValidPosition (.ofNat row) (.ofNat col) = true := by
  revert row col
  decide

/-- A legal move of the holder of a symbol is accepted. -/
theorem applyMove_of_legal {c : MakeMoveCommand} (hp : resolveSymbol s c.playerId = some symbol)
    (hv : isValidPosition c.row c.col = true) (hl : LegalMove s symbol (toBoardIndex c.row) (toBoardIndex c.col)) :
    applyMove s c = acceptMove s symbol (toBoardIndex c.row) (toBoardIndex c.col) c.timestamp := by
  simp [applyMove, hl.active, hp, hl.turn, hv, hl.cell]

/-- The players of a game never change. -/
theorem acceptMove_players (s : GameState) (symbol : PlayerSymbol) (row col : BoardIndex) (ts : Millis) :
    (acceptMove s symbol row col ts).newState.playerX = s.playerX ∧
      (acceptMove s symbol row col ts).newState.playerO = s.playerO := by
  rcases acceptMove_cases s symbol row col ts with ⟨line, -, he⟩ | ⟨-, -, he⟩ | ⟨-, -, he⟩ <;> rw [he] <;> exact ⟨rfl, rfl⟩

/-- A legal move adds its record to the history. -/
theorem acceptMove_history (s : GameState) (symbol : PlayerSymbol) (row col : BoardIndex) (ts : Millis) :
    (acceptMove s symbol row col ts).newState.moveHistory = s.moveHistory ++ [nextMoveRecord s symbol row col ts] := by
  rcases acceptMove_cases s symbol row col ts with ⟨line, -, he⟩ | ⟨-, -, he⟩ | ⟨-, -, he⟩ <;> rw [he] <;> rfl

theorem acceptMove_accepted (s : GameState) (symbol : PlayerSymbol) (row col : BoardIndex) (ts : Millis) :
    acceptMove s symbol row col ts =
      .accepted (acceptMove s symbol row col ts).newState (acceptMove s symbol row col ts).events := by
  rcases acceptMove_cases s symbol row col ts with ⟨line, -, he⟩ | ⟨-, -, he⟩ | ⟨-, -, he⟩ <;> rw [he] <;> rfl

/-! ### Replay -/

/-- A replay that completes goes on with further moves. -/
theorem replayFrom_append {state : GameState} {allEvents events : List EngineEvent} {i : Nat}
    {commands : List MakeMoveCommand} (h : replayFrom state allEvents i commands = .completed t events)
    (more : List MakeMoveCommand) :
    replayFrom state allEvents i (commands ++ more) = replayFrom t events (i + commands.length) more := by
  induction commands generalizing state allEvents i with
  | nil =>
    obtain ⟨rfl, rfl⟩ := ReplayResult.completed.inj h
    rfl
  | cons c commands ih =>
    rw [List.cons_append, replayFrom]
    rw [replayFrom] at h
    cases hc : applyMove state c with
    | rejected _ reason =>
      rw [hc] at h
      cases h
    | accepted next es =>
      rw [hc] at h
      calc replayFrom next (allEvents ++ es) (i + 1) (commands ++ more)
          = replayFrom t events (i + 1 + commands.length) more := ih h
        _ = replayFrom t events (i + (c :: commands).length) more := by
          rw [List.length_cons, Nat.add_right_comm, Nat.add_assoc]

/-- The log of a state: its history replays from the first state to the state, with these events. -/
structure Logs (first : GameState) (commandId : MoveRecord → CommandId) (events : List EngineEvent) (s : GameState) :
    Prop where
  players : s.playerX = first.playerX ∧ s.playerO = first.playerO
  replay : replayMoves first (s.moveHistory.map (MoveRecord.command first commandId)) = .completed s events

namespace Logs
variable {first : GameState} {commandId : MoveRecord → CommandId} {events : List EngineEvent}

theorem start (c : StartGameCommand) (commandId : MoveRecord → CommandId) :
    Logs (startGame c).newState commandId [] (startGame c).newState := ⟨⟨rfl, rfl⟩, rfl⟩

/-- One more accepted move: replaying its record makes the same move again. -/
theorem accept (h : Logs first commandId events s) (hne : first.playerX ≠ first.playerO)
    (hl : LegalMove s symbol row col) (ts : Millis) :
    Logs first commandId (events ++ (acceptMove s symbol row col ts).events) (acceptMove s symbol row col ts).newState := by
  obtain ⟨hX, hO⟩ := h.players
  obtain ⟨hX', hO'⟩ := acceptMove_players s symbol row col ts
  refine ⟨⟨hX'.trans hX, hO'.trans hO⟩, ?_⟩
  have hholder : first.holder symbol = s.holder symbol := by
    cases symbol with
    | X => exact hX.symm
    | O => exact hO.symm
  have hmover : resolveSymbol s (first.holder symbol) = some symbol := by
    rw [hholder]
    exact resolveSymbol_holder (by rwa [hX, hO]) symbol
  have hagain : applyMove s (MoveRecord.command first commandId (nextMoveRecord s symbol row col ts)) =
      acceptMove s symbol row col ts := by
    have hlegal : LegalMove s symbol (toBoardIndex (.ofNat row)) (toBoardIndex (.ofNat col)) := by
      rwa [toBoardIndex_ofNat, toBoardIndex_ofNat]
    have hmade := applyMove_of_legal
      (c := MoveRecord.command first commandId (nextMoveRecord s symbol row col ts)) hmover
      (isValidPosition_ofNat row col) hlegal
    rw [hmade]
    simp [MoveRecord.command, nextMoveRecord]
  rw [acceptMove_history, List.map_append, replayMoves, replayFrom_append h.replay]
  simp only [List.map_cons, List.map_nil, replayFrom, hagain]
  rw [acceptMove_accepted]
  rfl

/-- A rejected move is not in the log, an accepted one is. -/
theorem apply (h : Logs first commandId events s) (hne : first.playerX ≠ first.playerO) (c : MakeMoveCommand) :
    Logs first commandId (events ++ (applyMove s c).events) (applyMove s c).newState := by
  rcases applyMove_cases s c with ⟨reason, he⟩ | ⟨symbol, -, -, hl, he⟩
  · rw [he, MakeMoveResult.events, List.append_nil]
    exact h
  · rw [he]
    exact h.accept hne hl c.timestamp

theorem run (h : Logs first commandId events s) (hne : first.playerX ≠ first.playerO) (moves : List MakeMoveCommand) :
    Logs first commandId (events ++ runEvents s moves) (runMoves s moves) := by
  induction moves generalizing s events with
  | nil => simpa [runEvents, runMoves] using h
  | cons c moves ih =>
    rw [runEvents, ← List.append_assoc]
    exact ih (h.apply hne c)

end Logs

/-- Whatever moves are tried, the history of the game replays to its state, with the events of the accepted moves. -/
theorem history_replays (c : StartGameCommand) (hne : c.playerX ≠ c.playerO) (moves : List MakeMoveCommand)
    (commandId : MoveRecord → CommandId) :
    let s₀ := (startGame c).newState
    replayMoves s₀ ((runMoves s₀ moves).moveHistory.map (MoveRecord.command s₀ commandId)) =
      .completed (runMoves s₀ moves) (runEvents s₀ moves) := by
  intro s₀
  have hlog := (Logs.start c commandId).run hne moves
  simpa using hlog.replay

/-- Of three moves the second is out of turn. -/
theorem history_replays_opening :
    let s₀ := (startGame ⟨"g", "r", "p", "q", .X, 1⟩).newState
    let moves : List MakeMoveCommand :=
      [⟨"p", .ofNat 1, .ofNat 1, "c", 2⟩, ⟨"p", .ofNat 0, .ofNat 0, "d", 3⟩, ⟨"q", .ofNat 2, .ofNat 0, "e", 4⟩]
    (runMoves s₀ moves).moveHistory.length = 2 ∧
      replayMoves s₀ ((runMoves s₀ moves).moveHistory.map (MoveRecord.command s₀ fun _ => "f")) =
        .completed (runMoves s₀ moves) (runEvents s₀ moves) :=
  ⟨by decide, history_replays _ (by decide) _ _⟩

end TicTacToe
