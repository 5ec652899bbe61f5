import TicTacToe.Protocol.Guards
import TicTacToe.Server.State

/-! # The pages of a room

The answers of `src/server/http/roomsRouter.ts` to `GET /api/rooms/:id` and to `GET /api/rooms/:id/history`. The lookup of
the room is an input of the server, `httpGetRoom`. -/

namespace TicTacToe

/-- A refusal: its status and the text of its `error`. -/
structure HttpRefusal where
  status : Nat
  error : String
  deriving DecidableEq, Repr

/-- The game on the page of a room. -/
structure CurrentGamePage where
  gameId : GameId
  status : GameStatus
  moveCount : Nat
  currentTurn : PlayerSymbol
  deriving DecidableEq

structure RoomPage where
  roomId : RoomId
  status : RoomStatus
  playerCount : Nat
  createdAt : Millis
  currentGame : Option CurrentGamePage
  deriving DecidableEq

structure HistoryPage where
  roomId : RoomId
  games : List CompletedGameRecord
  deriving DecidableEq

namespace Server

/-- What both requests check; the answer is made of the room and of its session, if there is one. -/
def ofLiveRoom {α : Type} (s : Server) (id : RoomId) (page : RoomRecord → Option GameSession → α) :
    Except HttpRefusal α :=
  if !isRoomCode (utf16 id) then .error ⟨400, "INVALID_ROOM_ID"⟩
  else match s.getRoom id with
    | none => .error ⟨404, "ROOM_NOT_FOUND"⟩
    | some room => .ok (page room (s.gameSessions.get room.roomId))

/-- `GET /rooms/:id`. -/
def roomPage (s : Server) (id : RoomId) : Except HttpRefusal RoomPage :=
  s.ofLiveRoom id fun room gs => {
    roomId := room.roomId
    status := roomStatus room
    playerCount := playerCount room
    createdAt := room.createdAt
    currentGame := (gs.bind GameSession.gameState).map fun state =>
      ⟨state.gameId, state.status, state.moveHistory.length, state.currentTurn⟩ }

/-- `GET /rooms/:id/history`. -/
def historyPage (s : Server) (id : RoomId) : Except HttpRefusal HistoryPage :=
  s.ofLiveRoom id fun room gs => ⟨room.roomId, (gs.map GameSession.completedGames).getD []⟩

end Server
end TicTacToe
