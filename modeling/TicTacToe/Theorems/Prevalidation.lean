import TicTacToe.Theorems.MoveLog
import TicTacToe.Client.OptimisticEngine

/-! # The client's check of a move is the server's

`prevalidateMove` and `applyMove` are written separately. They make the same checks in the same order, for a player of
the game. -/

namespace TicTacToe
namespace Client
variable {s : GameState} {row col : JsNumber}

/-- Both accept with the same board, which the event of the move has too, or both reject for the same reason. -/
def Agree : PrevalidateResult → MakeMoveResult → Prop
  | .valid predictedBoard, .accepted newState events =>
    predictedBoard = newState.board ∧ ∃ e, events.filterMap EngineEvent.asMoveMade = [e] ∧ e.board = predictedBoard
  | .invalid reason, .rejected _ rejectionReason => reason = rejectionReason
  | .valid _, .rejected .. => False
  | .invalid _, .accepted .. => False

/-- On numbers other than `NaN` the two comparisons are opposite. -/
theorem lt_eq_not_le {a b : JsNumber} (ha : a.isInteger = true) (hb : b.isInteger = true) : a.lt b = !b.le a := by
  cases a with
  | finite p =>
    cases b with
    | finite q => simp [JsNumber.lt, JsNumber.le, ← not_le]
    | infinite | nan => cases hb
  | infinite | nan => cases ha

/-- A position is out of bounds for the client exactly when it is not valid for the server. -/
theorem isOutOfBounds_eq (row col : JsNumber) : isOutOfBounds row col = !isValidPosition row col := by
  unfold isOutOfBounds isValidPosition
  cases hrow : row.isInteger with
  | false => simp
  | true =>
    cases hcol : col.isInteger with
    | false => simp
    | true =>
      rw [lt_eq_not_le hrow (JsNumber.isInteger_nat 0), lt_eq_not_le (JsNumber.isInteger_nat 2) hrow,
        lt_eq_not_le hcol (JsNumber.isInteger_nat 0), lt_eq_not_le (JsNumber.isInteger_nat 2) hcol]
      simp

theorem update_eq_applyMarkToBoard (board : BoardSnapshot) (row col : BoardIndex) (symbol : PlayerSymbol) :
    Function.update board (positionToIndex row col) (.mark symbol) = applyMarkToBoard board row col symbol := by
  funext i
  simp [Function.update_apply, applyMarkToBoard]

/-- The board of an accepted move is in its state and in its event. -/
theorem acceptMove_agrees (s : GameState) (symbol : PlayerSymbol) (row col : BoardIndex) (ts : Millis) :
    Agree (.valid (applyMarkToBoard s.board row col symbol)) (acceptMove s symbol row col ts) := by
  rcases acceptMove_cases s symbol row col ts with ⟨line, -, he⟩ | ⟨-, -, he⟩ | ⟨-, -, he⟩
  · rw [he]
    exact ⟨rfl, _, rfl, rfl⟩
  · rw [he]
    exact ⟨rfl, _, rfl, rfl⟩
  · rw [he]
    exact ⟨rfl, _, rfl, rfl⟩

/-- The check on the client's side agrees with the engine, in every state and for all numbers. -/
theorem prevalidateMove_agrees (s : GameState) (hne : s.playerX ≠ s.playerO) (symbol : PlayerSymbol) (row col : JsNumber)
    (commandId : CommandId) (ts : Millis) :
    Agree (prevalidateMove s.board s.currentTurn (s.status = .active) symbol row col)
      (applyMove s ⟨s.holder symbol, row, col, commandId, ts⟩) := by
  unfold prevalidateMove applyMove
  by_cases hs : s.status = .active
  swap
  · simp [hs, Agree, reject]
  by_cases hturn : symbol = s.currentTurn
  swap
  · simp [hs, resolveSymbol_holder hne, hturn, Ne.symm hturn, Agree, reject]
  subst hturn
  cases hvalid : isValidPosition row col with
  | false => simp [hs, resolveSymbol_holder hne, isOutOfBounds_eq, hvalid, Agree, reject]
  | true =>
    by_cases hcell : boardAt s.board ⟨toBoardIndex row, toBoardIndex col⟩ = .empty
    · have hempty : s.board (positionToIndex (toBoardIndex row) (toBoardIndex col)) = .empty := hcell
      simp only [hs, resolveSymbol_holder hne, isOutOfBounds_eq, hvalid, hcell, hempty, update_eq_applyMarkToBoard,
        ne_eq, not_true_eq_false, ↓reduceIte, decide_true, Bool.not_true, Bool.false_eq_true]
      exact acceptMove_agrees s s.currentTurn _ _ ts
    · have hmarked : s.board (positionToIndex (toBoardIndex row) (toBoardIndex col)) ≠ .empty := hcell
      simp [hs, resolveSymbol_holder hne, isOutOfBounds_eq, hvalid, hcell, hmarked, Agree, reject]

/-- A click beside the board. -/
theorem prevalidateMove_agrees_nan :
    let s := (startGame ⟨"g", "r", "p", "q", .X, 1⟩).newState
    Agree (prevalidateMove s.board s.currentTurn (s.status = .active) .X .nan (.ofNat 1))
      (applyMove s ⟨s.holder .X, .nan, .ofNat 1, "c", 2⟩) :=
  prevalidateMove_agrees _ (by decide) _ _ _ _ _

end Client
end TicTacToe
