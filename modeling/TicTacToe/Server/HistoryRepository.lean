import TicTacToe.Lib.JsMap
import TicTacToe.Protocol.Types

/-! # The history repository

Completed games by room (`src/server/app/historyRepository.ts`). The file behind the repository appears
only as the possibility that a flush to disk throws, after the in-memory map has changed. -/

namespace TicTacToe

structure CompletedGameRecord extends GameSummary where
  finalBoard : BoardSnapshot
  result : GameResult
  moveHistory : List MoveRecord
  deriving DecidableEq

structure HistoryRepository where
  history : JsMap RoomId (List CompletedGameRecord)

namespace HistoryRepository

def empty : HistoryRepository := ⟨.empty⟩

def loadCompletedGames (repository : HistoryRepository) (roomId : RoomId) : List CompletedGameRecord :=
  (repository.history.get roomId).getD []

/-- The repository after the call, and whether the call threw. -/
def saveCompletedGame (repository : HistoryRepository) (roomId : RoomId) (game : CompletedGameRecord)
    (diskFails : Bool) : HistoryRepository × Bool :=
  let games := repository.loadCompletedGames roomId
  if games.any fun existing => existing.gameId = game.gameId then (repository, false)
  else (⟨repository.history.set roomId (game :: games)⟩, diskFails)

theorem loadCompletedGames_save (repository : HistoryRepository) (roomId r : RoomId) (game : CompletedGameRecord)
    (diskFails : Bool) :
    (repository.saveCompletedGame roomId game diskFails).1.loadCompletedGames r =
      if roomId = r ∧ game.gameId ∉ (repository.loadCompletedGames roomId).map (·.gameId) then
        game :: repository.loadCompletedGames roomId
      else repository.loadCompletedGames r := by
  unfold saveCompletedGame
  have hany : ((repository.loadCompletedGames roomId).any fun existing => existing.gameId = game.gameId) = true ↔
      game.gameId ∈ (repository.loadCompletedGames roomId).map (·.gameId) := by
    simp [List.any_eq_true, List.mem_map]
  by_cases hdup : game.gameId ∈ (repository.loadCompletedGames roomId).map (·.gameId)
  · simp only [hany.mpr hdup, ↓reduceIte, hdup, not_true_eq_false, and_false]
  · simp only [mt hany.mp hdup, hdup, not_false_eq_true, and_true]
    by_cases hr : roomId = r <;> simp [loadCompletedGames, JsMap.get_set, hr]

end HistoryRepository
end TicTacToe
