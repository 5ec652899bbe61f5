import TicTacToe.Theorems.RoomStep

/-! # What a step does to the game

Every step of the room machine leaves the room's game as it is, starts a new one, plays a move or ends the
game that runs; an ended game is announced and recorded. -/

namespace TicTacToe

namespace RoomView

/-- The completed games as the session lists them, or would list them. -/
def completed (v : RoomView) : List CompletedGameRecord := (v.game.map GameSession.completedGames).getD v.records

end RoomView

/-- The game whose end a call announces to the room. -/
def SendCall.finished (call : SendCall) : Option GameId :=
  match call.target, call.event with
  | .broadcast, .room ⟨_, _, _, .gameFinished gameId _ _ _ _⟩ => some gameId
  | _, _ => none

/-- The games whose end the calls announce. -/
def finishedGames (sends : List SendCall) : List GameId := sends.filterMap SendCall.finished

/-- The ways in which an action ends the running game `state`. -/
inductive EndsBy (now : Millis) (v : RoomView) (state : GameState) (a : RoomAction) : GameState → Prop
  | move {p : PlayerId} {commandId : CommandId} {gameId : GameId} {position : RawPosition} {t : GameState}
    {made : MoveMade} {ended : GameEnded} (ha : a = .moved p commandId gameId position ∨
      a = .moveThrew p commandId gameId position) (hid : state.gameId = gameId)
    (hmove : AcceptedMove state ⟨p, position.row, position.col, commandId, now⟩ t made (some ended)) :
    EndsBy now v state a t
  | forfeit {p : PlayerId} {room : RoomRecord} (ha : a = .left p ∨ a = .leaveThrew p) (hroom : v.room = some room)
    (hslot : getSlotByPlayerId room p ≠ none) : EndsBy now v state a (forfeit state ⟨p, now⟩).newState
  | abandon {p : PlayerId} {gs : GameSession} {timer : ReconnectTimer} (ha : a = .windowFired p)
    (hgame : v.game = some gs) (htimer : gs.reconnectTimers.get p = some timer) :
    EndsBy now v state a (abandon state ⟨p, now⟩).newState

/-- Game `t` has ended with `result`: its end is announced once, and it is recorded unless the session has
recorded it before. -/
structure Recorded (r : RoomId) (v : RoomView) (t : GameState) (result : GameResult) (sends : List SendCall)
    (v' : RoomView) : Prop where
  announced : ∃ p seq, ⟨.broadcast, p, .room (GameSession.finishedEvent r t result seq)⟩ ∈ sends
  once : finishedGames sends = [t.gameId]
  records : (t.gameId ∈ v.completed.map (·.gameId) ∧ v'.completed = v.completed ∧ v'.records = v.records) ∨
    (t.gameId ∉ v.completed.map (·.gameId) ∧ v'.completed = GameSession.recordOf t result :: v.completed ∧
      v'.records = if t.gameId ∈ v.records.map (·.gameId) then v.records
        else GameSession.recordOf t result :: v.records)

/-- The player's ready mark is the one that is missing for the next game. -/
def RoomRecord.lastReady (room : RoomRecord) (p : PlayerId) : Bool :=
  2 ≤ playerCount room && (getSymbolForPlayer room p).any fun symbol =>
    symbol ∉ room.readySymbols && (room.markReady symbol).bothReady

/-- What action `a` does to the game of room `r`. -/
inductive GameStep (G : IdSource) (now : Millis) (r : RoomId) (lo hi : Nat) (v : RoomView) (a : RoomAction)
    (sends : List SendCall) (v' : RoomView) : Prop
  | same (hstate : v'.state = v.state) (hcompleted : v'.completed = v.completed) (hrecords : v'.records = v.records)
    (hsends : finishedGames sends = [])
  | started {gs : GameSession} {n : Nat} {room : RoomRecord} {playerX playerO : PlayerSlot} {firstTurn : PlayerSymbol}
    (hcause : (∃ p room, a = .readied p ∧ v.room = some room ∧ room.lastReady p = true) ∨
      (∃ p gameId, a = .rematchAccepted p gameId) ∧ ∃ state, v.state = some state ∧ state.status = .finished)
    (hlo : lo ≤ n) (hhi : n < hi) (hroom : v'.room = some room) (hX : room.playerX = some playerX)
    (hO : room.playerO = some playerO)
    (hstate : v'.state = some (gs.openingState now (G.gameId n) playerX playerO firstTurn))
    (hcompleted : v'.completed = v.completed) (hrecords : v'.records = v.records) (hsends : finishedGames sends = [])
  | moved {p : PlayerId} {commandId : CommandId} {position : RawPosition} {state t : GameState} {made : MoveMade}
    (ha : a = .moved p commandId state.gameId position) (hstate : v.state = some state)
    (hmove : AcceptedMove state ⟨p, position.row, position.col, commandId, now⟩ t made none)
    (hstate' : v'.state = some t) (hcompleted : v'.completed = v.completed) (hrecords : v'.records = v.records)
    (hsends : finishedGames sends = [])
  | ended {state t : GameState} {result : GameResult} (hend : EndsBy now v state a t) (hstate : v.state = some state)
    (hactive : state.status = .active) (hstate' : v'.state = some t) (hresult : t.result = some result)
    (hrecorded : Recorded r v t result sends v')
  | failed {state t : GameState} (hend : EndsBy now v state a t) (hstate : v.state = some state)
    (hactive : state.status = .active) (hstate' : v'.state = some t)
    (ha : (∃ p, a = .leaveThrew p) ∨ ∃ p id gameId position, a = .moveThrew p id gameId position)

/-- The state after the end of a game. -/
theorem EndsBy.fields {now : Millis} {v : RoomView} {state t : GameState} {a : RoomAction}
    (h : EndsBy now v state a t) : t.gameId = state.gameId ∧ t.playerX = state.playerX ∧ t.playerO = state.playerO ∧
      t.status = .finished ∧ ∃ result, t.result = some result := by
  cases h with
  | move ha hid hmove =>
    rcases hmove.outcome with ⟨-, -, -, h⟩ | ⟨result, hfinished, hresult, -, -, -, -⟩
    · cases h
    · exact ⟨hmove.gameId, hmove.playerX, hmove.playerO, hfinished, result, hresult⟩
  | forfeit => exact ⟨rfl, rfl, rfl, rfl, _, rfl⟩
  | abandon => exact ⟨rfl, rfl, rfl, rfl, _, rfl⟩

namespace GameStep
variable {G : IdSource} {now : Millis} {r : RoomId} {lo hi : Nat} {v v' : RoomView} {a : RoomAction}
  {sends : List SendCall}

/-- A session that differs from the room's in nothing that concerns the game. -/
theorem of_same {gs gs' : GameSession} (hgame : v.game = some gs) (hgame' : v'.game = some gs')
    (hstate : gs'.gameState = gs.gameState) (hcompleted : gs'.completedGames = gs.completedGames)
    (hrecords : v'.records = v.records) (hsends : finishedGames sends = []) : GameStep G now r lo hi v a sends v' := by
  refine .same ?_ ?_ hrecords hsends
  · simp [RoomView.state, hgame, hgame', hstate]
  · simp [RoomView.completed, hgame, hgame', hcompleted]

end GameStep

/-! ### Calls that announce no end -/

namespace GameSession
variable {gs : GameSession} {now : Millis} {repository : HistoryRepository} {diskFails : Bool} {p : PlayerId}

theorem tellOpponent_finished (gs : GameSession) (room : RoomRecord) (p : PlayerId)
    (makeEvent : PlayerSymbol → Nat → RoomEvent) : finishedGames (gs.tellOpponent room p makeEvent).sends = [] := by
  rcases tellOpponent_cases gs room p makeEvent with h | ⟨_, _, -, -, -, h⟩ <;> rw [h] <;> rfl

theorem startGame_finished (gs : GameSession) (now : Millis) (gameId : GameId) (room : RoomRecord)
    (firstTurn : PlayerSymbol) : finishedGames (gs.startGame now gameId room firstTurn).sends = [] := by
  rcases startGame_cases gs now gameId room firstTurn with h | ⟨_, _, -, -, h⟩ <;> rw [h] <;> rfl

theorem Ending.records {r : RoomId} {v v' : RoomView} {t : GameState} {result : GameResult} {e : GameEffect}
    (h : Ending gs repository diskFails p t result e) (hthrew : e.threw = false) (hid : gs.roomId = r)
    (hcompleted : gs.completedGames = v.completed) (hload : repository.loadCompletedGames r = v.records)
    (hcompleted' : v'.completed = e.session.completedGames)
    (hrecords' : v'.records = e.historyRepository.loadCompletedGames r) :
    (t.gameId ∈ v.completed.map (·.gameId) ∧ v'.completed = v.completed ∧ v'.records = v.records) ∨
    (t.gameId ∉ v.completed.map (·.gameId) ∧ v'.completed = recordOf t result :: v.completed ∧
      v'.records = if t.gameId ∈ v.records.map (·.gameId) then v.records else recordOf t result :: v.records) := by
  subst hid
  cases h with
  | known hmem => exact Or.inl ⟨hcompleted ▸ hmem, hcompleted'.trans hcompleted, hrecords'.trans hload⟩
  | failed => cases hthrew
  | recorded hnew =>
    refine Or.inr ⟨hcompleted ▸ hnew, hcompleted'.trans (hcompleted ▸ rfl), ?_⟩
    rw [hrecords', HistoryRepository.loadCompletedGames_save, hload]
    have hrec : (recordOf t result).gameId = t.gameId := rfl
    by_cases hmem : t.gameId ∈ v.records.map (·.gameId) <;> simp [hrec, hmem]

theorem Ending.sends {t : GameState} {result : GameResult} {e : GameEffect}
    (h : Ending gs repository diskFails p t result e) (hthrew : e.threw = false) :
    e.sends = [⟨.broadcast, p, .room (finishedEvent gs.roomId t result (gs.sessionSeq + 1))⟩] := by
  cases h with
  | known => rfl
  | failed => cases hthrew
  | recorded => rfl

end GameSession

/-! ### Every step is a step of the game -/

namespace RoomView
variable {v : RoomView} {r : RoomId} {k : Nat}

theorem bump_gameState (v : RoomView) (r : RoomId) (k : Nat) : ((v.gameOrNew r).bump k).gameState = v.state := by
  unfold gameOrNew state GameSession.bump
  cases v.game <;> rfl

theorem bump_completedGames (v : RoomView) (r : RoomId) (k : Nat) :
    ((v.gameOrNew r).bump k).completedGames = v.completed := by
  unfold gameOrNew completed GameSession.bump
  cases v.game <;> rfl

theorem completed_of_game {gs : GameSession} (h : v.game = some gs) : v.completed = gs.completedGames := by
  simp [completed, h]

theorem state_of_game {gs : GameSession} (h : v.game = some gs) : v.state = gs.gameState := by
  simp [state, h]

end RoomView

namespace GameStep
variable {G : IdSource} {now : Millis} {r : RoomId} {lo hi : Nat} {v v' : RoomView} {a : RoomAction}
  {sends : List SendCall}

/-- Only the numbering or the reconnect timers of the session change. -/
theorem of_sameGame {gs gs' : GameSession} (hgame : v.game = some gs) (hgame' : v'.game = some gs')
    (h : GameSession.SameGame gs gs') (hrecords : v'.records = v.records) (hsends : finishedGames sends = []) :
    GameStep G now r lo hi v a sends v' := .of_same hgame hgame' h.gameState h.completedGames hrecords hsends

theorem of_start {gs : GameSession} {n : Nat} {room : RoomRecord} {firstTurn : PlayerSymbol}
    (hcause : (∃ p room, a = .readied p ∧ v.room = some room ∧ room.lastReady p = true) ∨
      (∃ p gameId, a = .rematchAccepted p gameId) ∧ ∃ state, v.state = some state ∧ state.status = .finished)
    (hlo : lo ≤ n) (hhi : n < hi) (hstate : gs.gameState = v.state) (hcompleted : gs.completedGames = v.completed)
    (hroom : v'.room = some room) (hgame' : v'.game = some (gs.startGame now (G.gameId n) room firstTurn).session)
    (hrecords : v'.records = v.records) :
    GameStep G now r lo hi v a (gs.startGame now (G.gameId n) room firstTurn).sends v' := by
  have hsends := GameSession.startGame_finished gs now (G.gameId n) room firstTurn
  rcases GameSession.startGame_cases gs now (G.gameId n) room firstTurn with h | ⟨playerX, playerO, hX, hO, h⟩
  · rw [h] at hgame' hsends ⊢
    refine .same ?_ ?_ hrecords hsends
    · rw [RoomView.state_of_game hgame', hstate]
    · rw [RoomView.completed_of_game hgame', hcompleted]
  · rw [h] at hgame' hsends ⊢
    have hstate' : v'.state = some (gs.openingState now (G.gameId n) playerX playerO firstTurn) := by
      rw [RoomView.state_of_game hgame', (GameSession.emit_same _ _ _ _).gameState]
    refine .started hcause hlo hhi hroom hX hO hstate' ?_ hrecords hsends
    rw [RoomView.completed_of_game hgame', (GameSession.emit_same _ _ _ _).completedGames]
    exact hcompleted

/-- A session method that ends a running game: forfeit and abandonment. -/
theorem of_end {gs : GameSession} {repository : HistoryRepository} {diskFails : Bool} {p : PlayerId}
    {outcome : GameOutcome} {reason : GameEndReason} {post : List SendCall} {gs' : GameSession}
    (hk : gs.roomId = r) (hgame : v.game = some gs) (hload : repository.loadCompletedGames r = v.records)
    (hend : ∀ state, EndsBy now v state a (endGame state outcome reason p now).newState)
    (hthrew : (gs.handleEnd repository diskFails p fun state => endGame state outcome reason p now).threw = false)
    (hgame' : v'.game = some gs')
    (hsame : gs'.gameState =
        (gs.handleEnd repository diskFails p fun state => endGame state outcome reason p now).session.gameState ∧
      gs'.completedGames =
        (gs.handleEnd repository diskFails p fun state => endGame state outcome reason p now).session.completedGames)
    (hrecords : v'.records = (gs.handleEnd repository diskFails p fun state =>
      endGame state outcome reason p now).historyRepository.loadCompletedGames r)
    (hsends : sends = (gs.handleEnd repository diskFails p fun state =>
      endGame state outcome reason p now).sends ++ post) (hpost : finishedGames post = []) :
    GameStep G now r lo hi v a sends v' := by
  subst hsends
  rcases GameSession.handleEnd_cases gs repository diskFails p outcome reason now with
    ⟨-, he⟩ | ⟨state, result, hstate, hactive, hresult, he⟩
  · rw [he] at hsame hrecords ⊢
    exact .of_same hgame hgame' hsame.1 hsame.2 (hrecords.trans hload) hpost
  · have hstate' : v'.state = some (endGame state outcome reason p now).newState := by
      rw [RoomView.state_of_game hgame', hsame.1, he.fields.2.1]
    refine .ended (hend state) ((RoomView.state_of_game hgame).trans hstate) hactive hstate' hresult ⟨?_, ?_, ?_⟩
    · rw [he.sends hthrew]
      exact ⟨p, gs.sessionSeq + 1, by simp [hk]⟩
    · rw [he.sends hthrew]
      simp only [finishedGames, List.filterMap_append] at hpost ⊢
      rw [hpost]
      rfl
    · exact he.records hthrew hk (RoomView.completed_of_game hgame).symm hload
        ((RoomView.completed_of_game hgame').trans hsame.2) hrecords

theorem of_move {gs : GameSession} {repository : HistoryRepository} {diskFails : Bool} {p : PlayerId}
    {commandId : CommandId} {gameId : GameId} {position : RawPosition} (hk : gs.roomId = r) (hgame : v.game = some gs)
    (hload : repository.loadCompletedGames r = v.records)
    (ha : a = .moved p commandId gameId position ∧
        (gs.handleMove now repository diskFails p gameId position commandId).threw = false ∨
      a = .moveThrew p commandId gameId position ∧
        (gs.handleMove now repository diskFails p gameId position commandId).threw = true)
    (hgame' : v'.game = some (gs.handleMove now repository diskFails p gameId position commandId).session)
    (hrecords : v'.records = (gs.handleMove now repository diskFails p gameId position
      commandId).historyRepository.loadCompletedGames r) :
    GameStep G now r lo hi v a (gs.handleMove now repository diskFails p gameId position commandId).sends v' := by
  have hm := GameSession.handleMove_moving gs now repository diskFails p gameId position commandId
  generalize gs.handleMove now repository diskFails p gameId position commandId = o at hm ha hgame' hrecords ⊢
  have hstate : v.state = gs.gameState := RoomView.state_of_game hgame
  cases hm with
  | refused code detail h => exact .of_same hgame hgame' rfl rfl (hrecords.trans hload) rfl
  | rejected hgs hid hactive happly =>
    exact .of_sameGame hgame hgame' ((GameSession.nextSeq_same gs).trans (GameSession.emit_same _ _ _ _))
      (hrecords.trans hload) rfl
  | @continued state t made hgs hid hmove =>
    have h := GameSession.announced_same { gs with gameState := some t } p gameId position commandId made
    obtain ⟨rfl, -⟩ : a = .moved p commandId gameId position ∧ _ := ha.resolve_right fun h => nomatch h.2
    subst hid
    refine .moved rfl (hstate.trans hgs) hmove ?_ ?_ (hrecords.trans hload) rfl
    · rw [RoomView.state_of_game hgame', h.gameState]
    · rw [RoomView.completed_of_game hgame', RoomView.completed_of_game hgame, h.completedGames]
  | @finished state t made ended result e hgs hid hmove hresult he =>
    have h := GameSession.announced_same { gs with gameState := some t } p gameId position commandId made
    have hstate' : v'.state = some t := by rw [RoomView.state_of_game hgame', he.fields.2.1, h.gameState]
    rcases ha with ⟨rfl, hthrew⟩ | ⟨rfl, hthrew⟩
    · refine .ended (.move (Or.inl rfl) hid hmove) (hstate.trans hgs) hmove.active hstate' hresult ⟨?_, ?_, ?_⟩
      · rw [he.sends hthrew]
        exact ⟨p, _, List.mem_append_right _ (List.mem_singleton.mpr (by rw [h.roomId, hk]))⟩
      · rw [he.sends hthrew]
        rfl
      · exact he.records hthrew (h.roomId.trans hk)
          (h.completedGames.trans (RoomView.completed_of_game hgame).symm) hload (RoomView.completed_of_game hgame')
          hrecords
    · exact .failed (.move (Or.inr rfl) hid hmove) (hstate.trans hgs) hmove.active hstate' (Or.inr ⟨p, _, _, _, rfl⟩)

end GameStep

theorem RoomStep.gameStep {G : IdSource} {now : Millis} {r : RoomId} {lo hi : Nat} {v v' : RoomView} {a : RoomAction}
    {sends : List SendCall} (hk : ∀ gs, v.game = some gs → gs.roomId = r) (h : RoomStep G now r lo hi v a sends v') :
    GameStep G now r lo hi v a sends v' := by
  cases h with
  | idle => exact .same rfl rfl rfl rfl
  | created hr hlo hhi => exact .same rfl rfl rfl rfl
  | rejoined hroom hslot =>
    cases hg : v.game with
    | none => exact .same (by simp [RoomView.state, hg]) (by simp [RoomView.completed, hg]) rfl rfl
    | some gs => exact .of_same hg rfl rfl rfl rfl rfl
  | entered hroom hslot hadd =>
    exact .same (RoomView.bump_gameState v r _) (RoomView.bump_completedGames v r _) rfl rfl
  | leftIdleRoom hroom hslot hgame => exact .same rfl rfl rfl rfl
  | left hroom hslot hgame hload hthrew =>
    exact .of_end (hk _ hgame) hgame hload (fun state => .forfeit (Or.inl rfl) hroom hslot) hthrew rfl ⟨rfl, rfl⟩ rfl
      (List.append_nil _).symm rfl
  | @leaveThrew p room gs repository hroom hslot hgame hload hthrew =>
    rcases GameSession.handleEnd_cases gs repository true p .forfeit .playerForfeited now with
      ⟨-, he⟩ | ⟨state, result, hstate, hactive, hresult, he⟩
    · rw [GameSession.handleForfeit] at hthrew
      exact nomatch (congrArg GameEffect.threw he).symm.trans hthrew
    · exact .failed (.forfeit (Or.inr rfl) hroom hslot) ((RoomView.state_of_game hgame).trans hstate) hactive
        he.fields.2.1 (Or.inl ⟨p, rfl⟩)
  | readiedAgain hroom hsymbol hready =>
    exact .same (RoomView.bump_gameState v r 0) (RoomView.bump_completedGames v r 0) rfl rfl
  | readied hroom hsymbol hready hboth =>
    exact .same (RoomView.bump_gameState v r _) (RoomView.bump_completedGames v r _) rfl rfl
  | startedReady hroom hcount hsymbol hready hboth hlo hhi =>
    exact .of_start (Or.inl ⟨_, _, rfl, hroom, by simp [RoomRecord.lastReady, hcount, hsymbol, hready, hboth]⟩) hlo hhi
      (RoomView.bump_gameState v r _) (RoomView.bump_completedGames v r _) rfl
      rfl rfl
  | moved hroom hgame hload hthrew => exact .of_move (hk _ hgame) hgame hload (Or.inl ⟨rfl, hthrew⟩) rfl rfl
  | moveThrew hroom hgame hload hthrew => exact .of_move (hk _ hgame) hgame hload (Or.inr ⟨rfl, hthrew⟩) rfl rfl
  | @rematchRequested p room gs gameId hroom hgame =>
    rcases GameSession.handleRematchRequest_cases gs now room p gameId with h | ⟨symbol, -, -, -, h⟩
    · rw [h]
      exact .of_same hgame rfl rfl rfl rfl rfl
    · rw [h]
      exact .of_same hgame rfl rfl rfl rfl rfl
  | @rematchAccepted p room gs gameId unused n hroom hgame hlo hhi =>
    rcases GameSession.handleRematchAccept_cases gs now (unused, G.gameId n) room p gameId with
      h | ⟨state, proposal, symbol, hstate, hfinished, -, -, -, ⟨-, h⟩ | ⟨-, h⟩⟩
    · rw [h]
      exact .of_same hgame rfl rfl rfl rfl rfl
    · rw [h]
      exact .of_same hgame rfl rfl rfl rfl rfl
    · rw [h]
      exact .of_start (Or.inr ⟨⟨_, _, rfl⟩, state, (RoomView.state_of_game hgame).trans hstate, hfinished⟩) hlo hhi
        (RoomView.state_of_game hgame).symm (RoomView.completed_of_game hgame).symm rfl rfl rfl
  | @rematchDeclined p room gs gameId hroom hgame =>
    rcases GameSession.handleRematchDecline_cases gs room p gameId with h | ⟨symbol, -, -, h⟩
    · rw [h]
      exact .of_same hgame rfl rfl rfl rfl rfl
    · rw [h]
      exact .of_same hgame rfl rfl rfl rfl rfl
  | reconnectedIdle hroom hslot hgame => exact .same rfl rfl rfl rfl
  | @reconnected p room gs hroom hslot hgame =>
    have h := GameSession.tellOpponent_same (gs.clearReconnectWindow p) (room.setConnected now p true) p
      fun symbol seq => makeOpponentReconnected gs.roomId symbol seq
    exact .of_same hgame rfl h.gameState h.completedGames rfl (GameSession.tellOpponent_finished _ _ _ _)
  | disconnected hroom hgame => exact .same rfl rfl rfl rfl
  | @windowArmed p room gs hroom hgame hactive =>
    obtain ⟨-, hstate, -, hcompleted, -⟩ :=
      GameSession.startReconnectWindow_fields gs now (room.setConnected now p false) p
    exact .of_same hgame rfl hstate hcompleted rfl (GameSession.tellOpponent_finished _ _ _ _)
  | @windowFired p gs timer repository diskFails room' hgame htimer hdue hload hroom hthrew =>
    rcases GameSession.expireReconnectWindow_cases gs now repository diskFails p timer.symbol with
      ⟨ht, he⟩ | ⟨ht, -, he⟩ | ⟨x, ht, -, he⟩
    · exact nomatch (he ▸ hthrew : _ = false).symm.trans ht
    · rw [he]
      exact .of_end (hk _ hgame) hgame hload (fun state => .abandon rfl hgame htimer) ht rfl ⟨rfl, rfl⟩ rfl
        (List.append_nil _).symm rfl
    · rw [he]
      exact .of_end (hk _ hgame) hgame hload (fun state => .abandon rfl hgame htimer) ht rfl ⟨rfl, rfl⟩ rfl rfl rfl
  | @rematchFired gs room proposal hroom hgame hproposal hdue =>
    rcases GameSession.expireRematch_cases gs room proposal.gameId with h | h | ⟨anyPlayer, h⟩
    · rw [h]
      exact .of_same hgame rfl rfl rfl rfl rfl
    · rw [h]
      exact .of_same hgame rfl rfl rfl rfl rfl
    · rw [h]
      exact .of_same hgame rfl rfl rfl rfl rfl

end TicTacToe
