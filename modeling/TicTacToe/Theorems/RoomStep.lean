import TicTacToe.Theorems.SessionMethods
import TicTacToe.Theorems.ServerFrame

/-! # The room machine

What the server keeps about one room (its record, its game session and its completed games) and the ways
in which that can change in one step. -/

namespace TicTacToe

/-- The server's state about one room. -/
structure RoomView where
  /-- The room object, whether or not the store still has it. -/
  room : Option RoomRecord
  game : Option GameSession
  records : List CompletedGameRecord

namespace RoomView

def state (v : RoomView) : Option GameState := v.game.bind GameSession.gameState

/-- The session that `ensureGameSession` leaves. -/
def gameOrNew (v : RoomView) (r : RoomId) : GameSession :=
  v.game.getD ⟨r, none, 0, none, v.records, [], .empty⟩

end RoomView

/-- The session after `k` calls of `allocateSequence`. -/
def GameSession.bump (gs : GameSession) (k : Nat) : GameSession := { gs with sessionSeq := gs.sessionSeq + k }

/-- What has happened to a room, with the player who has caused it. -/
inductive RoomAction where
  | idle
  | created
  | rejoined (playerId : PlayerId)
  | entered (playerId : PlayerId)
  | left (playerId : PlayerId)
  /-- A leave that has failed to save the game it has ended. -/
  | leaveThrew (playerId : PlayerId)
  | readied (playerId : PlayerId)
  | moved (playerId : PlayerId) (commandId : CommandId) (gameId : GameId) (position : RawPosition)
  /-- A move that has failed to save the game it has ended. -/
  | moveThrew (playerId : PlayerId) (commandId : CommandId) (gameId : GameId) (position : RawPosition)
  | rematchRequested (playerId : PlayerId) (gameId : GameId)
  | rematchAccepted (playerId : PlayerId) (gameId : GameId)
  | rematchDeclined (playerId : PlayerId) (gameId : GameId)
  | reconnected (playerId : PlayerId)
  | disconnected (playerId : PlayerId)
  | windowFired (playerId : PlayerId)
  | rematchFired

/-- The action needs a room that is live. -/
def RoomAction.onLive : RoomAction → Bool
  | .idle => false
  | .created => false
  | .windowFired _ => false
  | .rematchFired => false
  | _ => true

/-- One step of room `r` at time `now`: the view before and after, and the calls of the room's `SendFn`. New
rooms and games take the id of a draw between `lo` and `hi`. -/
inductive RoomStep (G : IdSource) (now : Millis) (r : RoomId) (lo hi : Nat) (v : RoomView) :
    RoomAction → List SendCall → RoomView → Prop
  | idle : RoomStep G now r lo hi v .idle [] v
  | created {n : Nat} (hr : r = G.roomId n) (hlo : lo ≤ n) (hhi : n < hi) :
    RoomStep G now r lo hi v .created [] { v with room := some (.fresh r now) }
  | rejoined {p : PlayerId} {room : RoomRecord} (hroom : v.room = some room)
    (hslot : getSlotByPlayerId room p ≠ none) :
    RoomStep G now r lo hi v (.rejoined p) [] { v with game := v.game.map (·.bump 1) }
  | entered {p : PlayerId} {room room' : RoomRecord} {name : Option PlayerName} {symbol : PlayerSymbol} {k : Nat}
    (hroom : v.room = some room) (hslot : getSlotByPlayerId room p = none)
    (hadd : room.addPlayer now p name = some (symbol, room')) :
    RoomStep G now r lo hi v (.entered p) []
      ⟨some (room'.touch now), some ((v.gameOrNew r).bump k), v.records⟩
  | leftIdleRoom {p : PlayerId} {room : RoomRecord} (hroom : v.room = some room)
    (hslot : getSlotByPlayerId room p ≠ none) (hgame : v.game = none) :
    RoomStep G now r lo hi v (.left p) [] { v with room := some (room.removePlayer now p) }
  | left {p : PlayerId} {room : RoomRecord} {gs : GameSession} {repository : HistoryRepository} {diskFails : Bool}
    (hroom : v.room = some room) (hslot : getSlotByPlayerId room p ≠ none) (hgame : v.game = some gs)
    (hload : repository.loadCompletedGames r = v.records)
    (hthrew : (gs.handleForfeit now repository diskFails p).threw = false) :
    RoomStep G now r lo hi v (.left p) (gs.handleForfeit now repository diskFails p).sends
      ⟨some (room.removePlayer now p), some ((gs.handleForfeit now repository diskFails p).session.bump 2),
        (gs.handleForfeit now repository diskFails p).historyRepository.loadCompletedGames r⟩
  | leaveThrew {p : PlayerId} {room : RoomRecord} {gs : GameSession} {repository : HistoryRepository}
    (hroom : v.room = some room) (hslot : getSlotByPlayerId room p ≠ none) (hgame : v.game = some gs)
    (hload : repository.loadCompletedGames r = v.records)
    (hthrew : (gs.handleForfeit now repository true p).threw = true) :
    RoomStep G now r lo hi v (.leaveThrew p) (gs.handleForfeit now repository true p).sends
      ⟨v.room, some (gs.handleForfeit now repository true p).session,
        (gs.handleForfeit now repository true p).historyRepository.loadCompletedGames r⟩
  | readiedAgain {p : PlayerId} {room : RoomRecord} {symbol : PlayerSymbol} (hroom : v.room = some room)
    (hsymbol : getSymbolForPlayer room p = some symbol) (hready : symbol ∈ room.readySymbols) :
    RoomStep G now r lo hi v (.readied p) [] { v with game := some (v.gameOrNew r) }
  | readied {p : PlayerId} {room : RoomRecord} {symbol : PlayerSymbol} {k : Nat} (hroom : v.room = some room)
    (hsymbol : getSymbolForPlayer room p = some symbol) (hready : symbol ∉ room.readySymbols)
    (hboth : (room.markReady symbol).bothReady = false) :
    RoomStep G now r lo hi v (.readied p) []
      ⟨some (room.markReady symbol), some ((v.gameOrNew r).bump k), v.records⟩
  | startedReady {p : PlayerId} {room : RoomRecord} {symbol : PlayerSymbol} {k n : Nat} (hroom : v.room = some room)
    (hcount : 2 ≤ playerCount room) (hsymbol : getSymbolForPlayer room p = some symbol)
    (hready : symbol ∉ room.readySymbols) (hboth : (room.markReady symbol).bothReady = true)
    (hlo : lo ≤ n) (hhi : n < hi) :
    RoomStep G now r lo hi v (.readied p)
      (((v.gameOrNew r).bump k).startGame now (G.gameId n) (room.markReady symbol).resetReady
        (Server.readyFirstTurn v.state)).sends
      ⟨some (room.markReady symbol).resetReady,
        some (((v.gameOrNew r).bump k).startGame now (G.gameId n) (room.markReady symbol).resetReady
          (Server.readyFirstTurn v.state)).session, v.records⟩
  | moved {p : PlayerId} {room : RoomRecord} {gs : GameSession} {repository : HistoryRepository} {diskFails : Bool}
    {commandId : CommandId} {gameId : GameId} {position : RawPosition} (hroom : v.room = some room)
    (hgame : v.game = some gs) (hload : repository.loadCompletedGames r = v.records)
    (hthrew : (gs.handleMove now repository diskFails p gameId position commandId).threw = false) :
    RoomStep G now r lo hi v (.moved p commandId gameId position)
      (gs.handleMove now repository diskFails p gameId position commandId).sends
      ⟨v.room, some (gs.handleMove now repository diskFails p gameId position commandId).session,
        (gs.handleMove now repository diskFails p gameId position commandId).historyRepository.loadCompletedGames r⟩
  | moveThrew {p : PlayerId} {room : RoomRecord} {gs : GameSession} {repository : HistoryRepository}
    {commandId : CommandId} {gameId : GameId} {position : RawPosition} (hroom : v.room = some room)
    (hgame : v.game = some gs) (hload : repository.loadCompletedGames r = v.records)
    (hthrew : (gs.handleMove now repository true p gameId position commandId).threw = true) :
    RoomStep G now r lo hi v (.moveThrew p commandId gameId position)
      (gs.handleMove now repository true p gameId position commandId).sends
      ⟨v.room, some (gs.handleMove now repository true p gameId position commandId).session,
        (gs.handleMove now repository true p gameId position commandId).historyRepository.loadCompletedGames r⟩
  | rematchRequested {p : PlayerId} {room : RoomRecord} {gs : GameSession} {gameId : GameId}
    (hroom : v.room = some room) (hgame : v.game = some gs) :
    RoomStep G now r lo hi v (.rematchRequested p gameId) (gs.handleRematchRequest now room p gameId).sends
      ⟨some (gs.handleRematchRequest now room p gameId).room,
        some (gs.handleRematchRequest now room p gameId).session, v.records⟩
  | rematchAccepted {p : PlayerId} {room : RoomRecord} {gs : GameSession} {gameId unused : GameId} {n : Nat}
    (hroom : v.room = some room) (hgame : v.game = some gs) (hlo : lo ≤ n) (hhi : n < hi) :
    RoomStep G now r lo hi v (.rematchAccepted p gameId)
      (gs.handleRematchAccept now (unused, G.gameId n) room p gameId).sends
      ⟨some (gs.handleRematchAccept now (unused, G.gameId n) room p gameId).room,
        some (gs.handleRematchAccept now (unused, G.gameId n) room p gameId).session, v.records⟩
  | rematchDeclined {p : PlayerId} {room : RoomRecord} {gs : GameSession} {gameId : GameId}
    (hroom : v.room = some room) (hgame : v.game = some gs) :
    RoomStep G now r lo hi v (.rematchDeclined p gameId) (gs.handleRematchDecline room p gameId).sends
      ⟨some (gs.handleRematchDecline room p gameId).room, some (gs.handleRematchDecline room p gameId).session,
        v.records⟩
  | reconnectedIdle {p : PlayerId} {room : RoomRecord} (hroom : v.room = some room)
    (hslot : getSlotByPlayerId room p ≠ none) (hgame : v.game = none) :
    RoomStep G now r lo hi v (.reconnected p) [] { v with room := some (room.setConnected now p true) }
  | reconnected {p : PlayerId} {room : RoomRecord} {gs : GameSession} (hroom : v.room = some room)
    (hslot : getSlotByPlayerId room p ≠ none) (hgame : v.game = some gs) :
    RoomStep G now r lo hi v (.reconnected p)
      ((gs.clearReconnectWindow p).notifyOpponentReconnected (room.setConnected now p true) p).sends
      ⟨some (room.setConnected now p true),
        some (((gs.clearReconnectWindow p).notifyOpponentReconnected (room.setConnected now p true) p).session.bump 1),
        v.records⟩
  | disconnected {p : PlayerId} {room : RoomRecord} (hroom : v.room = some room)
    (hgame : ∀ gs, v.game = some gs → gs.isActive = false) :
    RoomStep G now r lo hi v (.disconnected p) [] { v with room := some (room.setConnected now p false) }
  | windowArmed {p : PlayerId} {room : RoomRecord} {gs : GameSession} (hroom : v.room = some room)
    (hgame : v.game = some gs) (hactive : gs.isActive = true) :
    RoomStep G now r lo hi v (.disconnected p) (gs.startReconnectWindow now (room.setConnected now p false) p).sends
      ⟨some (room.setConnected now p false),
        some (gs.startReconnectWindow now (room.setConnected now p false) p).session, v.records⟩
  | windowFired {p : PlayerId} {gs : GameSession} {timer : ReconnectTimer} {repository : HistoryRepository}
    {diskFails : Bool} {room' : Option RoomRecord} (hgame : v.game = some gs)
    (htimer : gs.reconnectTimers.get p = some timer) (hdue : timer.deadline ≤ now)
    (hload : repository.loadCompletedGames r = v.records)
    (hroom : room' = v.room ∨ ∃ room, v.room = some room ∧ room' = some (room.removePlayer now p))
    (hthrew : (gs.expireReconnectWindow now repository diskFails p timer.symbol).threw = false) :
    RoomStep G now r lo hi v (.windowFired p)
      (gs.expireReconnectWindow now repository diskFails p timer.symbol).sends
      ⟨room', some (gs.expireReconnectWindow now repository diskFails p timer.symbol).session,
        (gs.expireReconnectWindow now repository diskFails p timer.symbol).historyRepository.loadCompletedGames r⟩
  | rematchFired {gs : GameSession} {room : RoomRecord} {proposal : RematchProposal} (hroom : v.room = some room)
    (hgame : v.game = some gs) (hproposal : gs.rematch = some proposal) (hdue : proposal.expiresAt ≤ now) :
    RoomStep G now r lo hi v .rematchFired (gs.expireRematch room proposal.gameId).sends
      { v with game := some (gs.expireRematch room proposal.gameId).session }

theorem RoomStep.mono {G : IdSource} {now : Millis} {r : RoomId} {lo hi lo' hi' : Nat} {v v' : RoomView}
    {a : RoomAction} {sends : List SendCall} (h : RoomStep G now r lo hi v a sends v') (hlo : lo' ≤ lo)
    (hhi : hi ≤ hi') : RoomStep G now r lo' hi' v a sends v' := by
  cases h with
  | startedReady hroom hcount hsymbol hready hboth hl hh =>
    exact .startedReady hroom hcount hsymbol hready hboth (hlo.trans hl) (Nat.lt_of_lt_of_le hh hhi)
  | rematchAccepted hroom hgame hl hh =>
    exact .rematchAccepted hroom hgame (hlo.trans hl) (Nat.lt_of_lt_of_le hh hhi)
  | idle => exact .idle
  | created hr hl hh => exact .created hr (hlo.trans hl) (Nat.lt_of_lt_of_le hh hhi)
  | rejoined hroom hslot => exact .rejoined hroom hslot
  | entered hroom hslot hadd => exact .entered hroom hslot hadd
  | leftIdleRoom hroom hslot hgame => exact .leftIdleRoom hroom hslot hgame
  | left hroom hslot hgame hload hthrew => exact .left hroom hslot hgame hload hthrew
  | leaveThrew hroom hslot hgame hload hthrew => exact .leaveThrew hroom hslot hgame hload hthrew
  | readiedAgain hroom hsymbol hready => exact .readiedAgain hroom hsymbol hready
  | readied hroom hsymbol hready hboth => exact .readied hroom hsymbol hready hboth
  | moved hroom hgame hload hthrew => exact .moved hroom hgame hload hthrew
  | moveThrew hroom hgame hload hthrew => exact .moveThrew hroom hgame hload hthrew
  | rematchRequested hroom hgame => exact .rematchRequested hroom hgame
  | rematchDeclined hroom hgame => exact .rematchDeclined hroom hgame
  | reconnectedIdle hroom hslot hgame => exact .reconnectedIdle hroom hslot hgame
  | reconnected hroom hslot hgame => exact .reconnected hroom hslot hgame
  | disconnected hroom hgame => exact .disconnected hroom hgame
  | windowArmed hroom hgame hactive => exact .windowArmed hroom hgame hactive
  | windowFired hgame htimer hdue hload hroom hthrew => exact .windowFired hgame htimer hdue hload hroom hthrew
  | rematchFired hroom hgame hproposal hdue => exact .rematchFired hroom hgame hproposal hdue

end TicTacToe
