import TicTacToe.Game.Engine

/-! # Local validation of moves

`prevalidateMove` of `src/client/lib/optimisticEngine.ts`: whether a click is shown at once, and the board that it
predicts. -/

namespace TicTacToe
namespace Client

inductive PrevalidateResult where
  | valid (predictedBoard : BoardSnapshot)
  | invalid (reason : MoveRejectionReason)
  deriving DecidableEq

def isOutOfBounds (row col : JsNumber) : Bool :=
  !row.isInteger || !col.isInteger || row.lt (.ofNat 0) || (JsNumber.ofNat 2).lt row || col.lt (.ofNat 0) ||
    (JsNumber.ofNat 2).lt col

/-- Locally validate a proposed move, with the predicted board if it is valid. -/
def prevalidateMove (confirmedBoard : BoardSnapshot) (confirmedTurn : PlayerSymbol) (gameActive : Bool)
    (mySymbol : PlayerSymbol) (row col : JsNumber) : PrevalidateResult :=
  if !gameActive then .invalid .gameNotActive
  else if confirmedTurn ≠ mySymbol then .invalid .notYourTurn
  else if isOutOfBounds row col then .invalid .outOfBounds
  else
    let idx := positionToIndex (toBoardIndex row) (toBoardIndex col)
    if confirmedBoard idx ≠ .empty then .invalid .cellOccupied
    else .valid (Function.update confirmedBoard idx (.mark mySymbol))

end Client
end TicTacToe
