import TicTacToe.Theorems.EngineInv

/-! # A game ends exactly when it is decided

`applyMove` looks for a line of the mover on the new board only. Along a run this is enough: a running
game has no line of either symbol, and a mark completes lines of its own symbol through its own cell
only. -/

namespace TicTacToe
variable {s t : GameState} {board : BoardSnapshot} {symbol other : PlayerSymbol} {row col : BoardIndex}

/-- `symbol` occupies all three cells of `line`. -/
def OccupiesLine (board : BoardSnapshot) (symbol : PlayerSymbol) (line : WinningLine) : Prop :=
  ∀ p ∈ line.cells, boardAt board p = .mark symbol

/-- `symbol` has a complete line. -/
def HasLine (board : BoardSnapshot) (symbol : PlayerSymbol) : Prop :=
  ∃ line ∈ ALL_WINNING_LINES, OccupiesLine board symbol line

/-- A finished game that the player of the last move has won with that move. -/
structure WonByLastMove (s : GameState) (r : GameResult) (move : MoveRecord) (line : WinningLine) : Prop where
  outcome : r.outcome = .win
  winner : r.winner = some move.symbol
  winningLine : r.winningLine = some line
  last : s.moveHistory.getLast? = some move
  isLine : line ∈ ALL_WINNING_LINES
  occupied : OccupiesLine s.board move.symbol line
  through : move.position ∈ line.cells
  otherSymbol : ¬ HasLine s.board (opponent move.symbol)

/-- A finished game that nobody has won. -/
structure Drawn (s : GameState) (r : GameResult) : Prop where
  outcome : r.outcome = .draw
  full : ∀ i, s.board i ≠ .empty
  noLine : ∀ symbol, ¬ HasLine s.board symbol

/-- The invariant of a run of moves. -/
structure Decided (s : GameState) : Prop where
  started : s.status = .active ∨ s.status = .finished
  active : s.status = .active → (∀ symbol, ¬ HasLine s.board symbol) ∧ ∃ i, s.board i = .empty
  finished : s.status = .finished → ∃ r, s.result = some r ∧
    ((∃ move line, WonByLastMove s r move line) ∨ Drawn s r)

/-! ### Lines -/

theorem detectWin_eq_none : detectWin board symbol = none ↔ ¬ HasLine board symbol := by
  simp only [detectWin, List.find?_eq_none, List.all_eq_true, decide_eq_true_eq, HasLine, OccupiesLine]
  exact ⟨fun h ⟨line, hl, hc⟩ => h line hl hc, fun h line hl hc => h ⟨line, hl, hc⟩⟩

/-- A line of the new board that avoids the new mark was there before. -/
theorem OccupiesLine.of_applyMark {line : WinningLine}
    (h : OccupiesLine (applyMarkToBoard board row col symbol) other line)
    (havoid : ∀ p ∈ line.cells, positionToIndex p.row p.col ≠ positionToIndex row col) :
    OccupiesLine board other line := fun p hp => by
  have hnew := h p hp
  rwa [boardAt, applyMarkToBoard_of_ne (havoid p hp)] at hnew

/-- A mark completes no line of the other symbol. -/
theorem not_hasLine_applyMark (h : ¬ HasLine board other) (hne : other ≠ symbol) :
    ¬ HasLine (applyMarkToBoard board row col symbol) other := by
  rintro ⟨line, hl, hc⟩
  refine h ⟨line, hl, hc.of_applyMark fun p hp hi => ?_⟩
  have hnew := hc p hp
  rw [boardAt, hi, applyMarkToBoard_self, CellValue.mark.injEq] at hnew
  exact hne hnew.symm

theorem positionToIndex_inj {p q : BoardPosition}
    (h : positionToIndex p.row p.col = positionToIndex q.row q.col) : p = q := by
  obtain ⟨r, c⟩ := p
  obtain ⟨r', c'⟩ := q
  simp only [positionToIndex, Fin.mk.injEq] at h
  have hr : r = r' := Fin.ext (by omega)
  have hc : c = c' := Fin.ext (by omega)
  rw [hr, hc]

/-- A line that the mark completes passes through its cell. -/
theorem mem_cells_of_completed {line : WinningLine} (hno : ¬ HasLine board symbol) (hl : line ∈ ALL_WINNING_LINES)
    (h : OccupiesLine (applyMarkToBoard board row col symbol) symbol line) : ⟨row, col⟩ ∈ line.cells := by
  by_contra hnot
  refine hno ⟨line, hl, h.of_applyMark fun p hp hi => hnot ?_⟩
  rwa [← positionToIndex_inj (q := ⟨row, col⟩) hi]

theorem opponent_ne (symbol : PlayerSymbol) : opponent symbol ≠ symbol := by cases symbol <;> decide

theorem eq_opponent_of_ne (h : other ≠ symbol) : other = opponent symbol := by
  cases other <;> cases symbol <;> first | rfl | exact absurd rfl h

/-! ### Runs of moves -/

theorem startGame_decided (c : StartGameCommand) : Decided (startGame c).newState where
  started := Or.inl rfl
  active _ := by
    refine ⟨fun symbol ⟨line, hl, hc⟩ => ?_, 0, rfl⟩
    have hfirst := hc line.positions.1 (by simp [WinningLine.cells])
    simp [boardAt, startGame, EMPTY_BOARD] at hfirst
  finished h := by simp [startGame] at h

theorem acceptMove_decided (h : Decided s) (hl : LegalMove s symbol row col) (ts : Millis) :
    Decided (acceptMove s symbol row col ts).newState := by
  obtain ⟨hno, -⟩ := h.active hl.active
  have hother : ¬ HasLine (applyMarkToBoard s.board row col symbol) (opponent symbol) :=
    not_hasLine_applyMark (hno _) (opponent_ne symbol)
  have hnone (hw : detectWin (applyMarkToBoard s.board row col symbol) symbol = none) :
      ∀ x, ¬ HasLine (applyMarkToBoard s.board row col symbol) x := fun x => by
    by_cases hx : x = symbol
    · rw [hx]
      exact detectWin_eq_none.mp hw
    · rw [eq_opponent_of_ne hx]
      exact hother
  rcases acceptMove_cases s symbol row col ts with ⟨line, hw, he⟩ | ⟨hw, hf, he⟩ | ⟨hw, hf, he⟩
  · obtain ⟨hline, hocc⟩ := detectWin_some hw
    rw [he]
    refine ⟨Or.inr rfl, fun hs => (by cases hs), fun _ => ⟨_, rfl, Or.inl ⟨nextMoveRecord s symbol row col ts, line, ?_⟩⟩⟩
    exact {
      outcome := rfl
      winner := rfl
      winningLine := rfl
      last := by simp [finishMove, MakeMoveResult.newState, buildFinishedState, placeMark]
      isLine := hline
      occupied := hocc
      through := mem_cells_of_completed (hno symbol) hline hocc
      otherSymbol := hother }
  · rw [he]
    exact ⟨Or.inr rfl, fun hs => (by cases hs), fun _ => ⟨_, rfl, Or.inr ⟨rfl, isBoardFull_iff.mp hf, hnone hw⟩⟩⟩
  · rw [he]
    have hactive : (placeMark s symbol row col ts (opponent symbol)).status = .active := hl.active
    have hempty : ∃ i, applyMarkToBoard s.board row col symbol i = .empty := by
      by_contra hall
      exact absurd (isBoardFull_iff.mpr fun i hi => hall ⟨i, hi⟩) (by simp [hf])
    exact ⟨Or.inl hactive, fun _ => ⟨hnone hw, hempty⟩, fun hs => absurd (hactive.symm.trans hs) (by decide)⟩

theorem applyMove_decided (h : Decided s) (c : MakeMoveCommand) : Decided (applyMove s c).newState := by
  rcases applyMove_cases s c with ⟨reason, he⟩ | ⟨symbol, -, -, hl, he⟩
  · rw [he]
    exact h
  · rw [he]
    exact acceptMove_decided h hl c.timestamp

/-- The state after a sequence of moves, each accepted or rejected. -/
def runMoves (s : GameState) : List MakeMoveCommand → GameState
  | [] => s
  | c :: moves => runMoves (applyMove s c).newState moves

/-- How many moves of the sequence are accepted. -/
def acceptedMoves (s : GameState) : List MakeMoveCommand → Nat
  | [] => 0
  | c :: moves => (if (applyMove s c).isAccepted then 1 else 0) + acceptedMoves (applyMove s c).newState moves

theorem runMoves_decided (h : Decided s) (moves : List MakeMoveCommand) : Decided (runMoves s moves) := by
  induction moves generalizing s with
  | nil => exact h
  | cons c moves ih => exact ih (applyMove_decided h c)

theorem runMoves_consistent (h : Consistent s) (moves : List MakeMoveCommand) : Consistent (runMoves s moves) := by
  induction moves generalizing s with
  | nil => exact h
  | cons c moves ih => exact ih (applyMove_consistent h c)

theorem applyMove_history_length (s : GameState) (c : MakeMoveCommand) :
    (applyMove s c).newState.moveHistory.length =
      s.moveHistory.length + if (applyMove s c).isAccepted then 1 else 0 := by
  rcases applyMove_cases s c with ⟨reason, he⟩ | ⟨symbol, -, -, -, he⟩
  · simp [he, MakeMoveResult.newState, MakeMoveResult.isAccepted]
  · rcases acceptMove_cases s symbol (toBoardIndex c.row) (toBoardIndex c.col) c.timestamp with
      ⟨line, -, ha⟩ | ⟨-, -, ha⟩ | ⟨-, -, ha⟩ <;>
    simp [he, ha, MakeMoveResult.newState, MakeMoveResult.isAccepted, finishMove, buildFinishedState, placeMark]

theorem runMoves_history_length (s : GameState) (moves : List MakeMoveCommand) :
    (runMoves s moves).moveHistory.length = s.moveHistory.length + acceptedMoves s moves := by
  induction moves generalizing s with
  | nil => rfl
  | cons c moves ih => rw [runMoves, ih, applyMove_history_length, acceptedMoves, Nat.add_assoc]

/-- A game is `ACTIVE` while nobody has a line and a cell is left; it is finished by the winning move or
as a draw of a full board, after nine moves at the latest. -/
theorem engine_ends_when_decided (c : StartGameCommand) (moves : List MakeMoveCommand) :
    let s := runMoves (startGame c).newState moves
    (s.status = .active ↔ (∀ symbol, ¬ HasLine s.board symbol) ∧ ∃ i, s.board i = .empty) ∧
    (s.status = .finished → ∃ r, s.result = some r ∧ ((∃ move line, WonByLastMove s r move line) ∨ Drawn s r)) ∧
    acceptedMoves (startGame c).newState moves ≤ 9 := by
  intro s
  have hd : Decided s := runMoves_decided (startGame_decided c) moves
  have hc : Consistent s := runMoves_consistent (startGame_consistent c) moves
  refine ⟨⟨hd.active, fun ⟨hno, i, hi⟩ => ?_⟩, hd.finished, ?_⟩
  · rcases hd.started with hs | hs
    · exact hs
    · obtain ⟨r, -, ⟨move, line, hw⟩ | hdraw⟩ := hd.finished hs
      · exact absurd ⟨line, hw.isLine, hw.occupied⟩ (hno move.symbol)
      · exact absurd hi (hdraw.full i)
  · have hlength : s.moveHistory.length = 0 + acceptedMoves (startGame c).newState moves :=
      runMoves_history_length (startGame c).newState moves
    calc acceptedMoves (startGame c).newState moves
        = s.moveHistory.length := by omega
      _ = markCount s.board := hc.marks.symm
      _ ≤ 9 := markCount_le s.board

end TicTacToe
