import TicTacToe.Theorems.EngineInv
import TicTacToe.Server.GameSession

/-! # What the methods of a game session do

One lemma for each method of `GameSession`: the cases it distinguishes, with the session, the calls of the
`SendFn` and the repository after it. -/

namespace TicTacToe

/-! ### The engine's answer to a move -/

/-- An accepted move on `s`: the new state with its `MOVE_MADE` and `GAME_ENDED` events. -/
structure AcceptedMove (s : GameState) (c : MakeMoveCommand) (t : GameState) (made : MoveMade)
    (ended : Option GameEnded) : Prop where
  active : s.status = .active
  state : t = (applyMove s c).newState
  gameId : t.gameId = s.gameId
  playerX : t.playerX = s.playerX
  playerO : t.playerO = s.playerO
  firstTurn : t.firstTurn = s.firstTurn
  mover : resolveSymbol s c.playerId = some made.symbol
  free : s.board (positionToIndex (toBoardIndex c.row) (toBoardIndex c.col)) = .empty
  cell : t.board (positionToIndex (toBoardIndex c.row) (toBoardIndex c.col)) ≠ .empty
  board : made.board = t.board
  /-- The game goes on, or it has been finished by this move. -/
  outcome : (t.status = .active ∧ t.result = s.result ∧ made.nextTurn = some t.currentTurn ∧ ended = none) ∨
    ∃ result, t.status = .finished ∧ t.result = some result ∧ t.currentTurn = s.currentTurn ∧
      result.endedAt = c.timestamp ∧ made.nextTurn = none ∧ ended = some ⟨t.gameId, result, t.board, t.moveHistory⟩

theorem finishMove_accepted {s : GameState} {c : MakeMoveCommand} {symbol : PlayerSymbol} {result : GameResult}
    (hp : resolveSymbol s c.playerId = some symbol)
    (hl : LegalMove s symbol (toBoardIndex c.row) (toBoardIndex c.col)) (hend : result.endedAt = c.timestamp)
    (he : applyMove s c = finishMove s symbol (toBoardIndex c.row) (toBoardIndex c.col) c.timestamp result) :
    ∃ t made ended events, applyMove s c = .accepted t events ∧ events.findSome? EngineEvent.asMoveMade = some made ∧
      events.findSome? EngineEvent.asGameEnded = ended ∧ AcceptedMove s c t made ended := by
  refine ⟨_, _, _, _, he, rfl, rfl, ?_⟩
  exact {
    active := hl.active
    state := by rw [he]; rfl
    gameId := rfl
    playerX := rfl
    playerO := rfl
    firstTurn := rfl
    mover := hp
    free := hl.cell
    cell := by simp [buildFinishedState, placeMark]
    board := rfl
    outcome := Or.inr ⟨result, rfl, rfl, hl.turn, hend, rfl, rfl⟩ }

theorem applyMove_accepted_cases (s : GameState) (c : MakeMoveCommand) :
    (∃ reason, applyMove s c = .rejected s reason) ∨
    ∃ t made ended events, applyMove s c = .accepted t events ∧ events.findSome? EngineEvent.asMoveMade = some made ∧
      events.findSome? EngineEvent.asGameEnded = ended ∧ AcceptedMove s c t made ended := by
  rcases applyMove_cases s c with h | ⟨symbol, hp, -, hl, he⟩
  · exact Or.inl h
  · right
    rcases acceptMove_cases s symbol (toBoardIndex c.row) (toBoardIndex c.col) c.timestamp with
      ⟨line, -, ha⟩ | ⟨-, -, ha⟩ | ⟨-, -, ha⟩
    · exact finishMove_accepted hp hl rfl (he.trans ha)
    · exact finishMove_accepted hp hl rfl (he.trans ha)
    · refine ⟨_, _, _, _, he.trans ha, rfl, rfl, ?_⟩
      exact {
        active := hl.active
        state := by rw [he, ha]; rfl
        gameId := rfl
        playerX := rfl
        playerO := rfl
        firstTurn := rfl
        mover := hp
        free := hl.cell
        cell := by simp [placeMark]
        board := rfl
        outcome := Or.inl ⟨hl.active, rfl, rfl, rfl⟩ }

namespace GameSession
variable {gs t u : GameSession} {now : Millis} {room : RoomRecord} {p : PlayerId}
  {repository : HistoryRepository} {diskFails : Bool}

/-! ### Numbering and buffering -/

/-- `t` differs from `gs` in the sequence number and the replay buffer only. -/
structure SameGame (gs t : GameSession) : Prop where
  roomId : t.roomId = gs.roomId
  gameState : t.gameState = gs.gameState
  rematch : t.rematch = gs.rematch
  completedGames : t.completedGames = gs.completedGames
  reconnectTimers : t.reconnectTimers = gs.reconnectTimers

theorem SameGame.refl (gs : GameSession) : SameGame gs gs := ⟨rfl, rfl, rfl, rfl, rfl⟩

theorem SameGame.trans (h₁ : SameGame gs t) (h₂ : SameGame t u) : SameGame gs u :=
  ⟨h₂.roomId.trans h₁.roomId, h₂.gameState.trans h₁.gameState, h₂.rematch.trans h₁.rematch,
    h₂.completedGames.trans h₁.completedGames, h₂.reconnectTimers.trans h₁.reconnectTimers⟩

theorem nextSeq_same (gs : GameSession) : SameGame gs gs.nextSeq := ⟨rfl, rfl, rfl, rfl, rfl⟩

theorem emit_same (gs : GameSession) (target : SendTarget) (p : PlayerId) (event : RoomEvent) :
    SameGame gs (gs.emit target p event).session := by
  constructor <;> simp only [emit, push]

@[simp] theorem emit_sends (gs : GameSession) (target : SendTarget) (p : PlayerId) (event : RoomEvent) :
    (gs.emit target p event).sends = [⟨target, p, .room event⟩] := rfl

theorem tellOpponent_cases (gs : GameSession) (room : RoomRecord) (p : PlayerId)
    (makeEvent : PlayerSymbol → Nat → RoomEvent) :
    gs.tellOpponent room p makeEvent = ⟨gs, []⟩ ∨
    ∃ symbol opponent, getSymbolForPlayer room p = some symbol ∧ getOpponentSlot room p = some opponent ∧
      opponent.connected = true ∧ gs.tellOpponent room p makeEvent =
        gs.nextSeq.emit .player opponent.playerId (makeEvent symbol gs.nextSeq.sessionSeq) := by
  unfold tellOpponent
  split
  · rename_i symbol opponent hs ho
    by_cases hc : opponent.connected = true
    · exact Or.inr ⟨symbol, opponent, hs, ho, hc, if_pos hc⟩
    · exact Or.inl (if_neg hc)
  · exact Or.inl rfl

theorem tellOpponent_same (gs : GameSession) (room : RoomRecord) (p : PlayerId)
    (makeEvent : PlayerSymbol → Nat → RoomEvent) : SameGame gs (gs.tellOpponent room p makeEvent).session := by
  rcases tellOpponent_cases gs room p makeEvent with h | ⟨_, _, -, -, -, h⟩ <;> rw [h]
  · exact .refl gs
  · exact (nextSeq_same gs).trans (emit_same _ _ _ _)

/-! ### Starting a game -/

/-- The first state of a game between the holders of two slots. -/
def openingState (gs : GameSession) (now : Millis) (gameId : GameId) (playerX playerO : PlayerSlot)
    (firstTurn : PlayerSymbol) : GameState :=
  (TicTacToe.startGame ⟨gameId, gs.roomId, playerX.playerId, playerO.playerId, firstTurn, now⟩).newState

/-- The `GAME_STARTED` event of a new game. -/
def startedEvent (gs : GameSession) (now : Millis) (gameId : GameId) (playerX playerO : PlayerSlot)
    (firstTurn : PlayerSymbol) : RoomEvent :=
  makeGameStarted gs.roomId gameId EMPTY_BOARD firstTurn ⟨slotInfo playerX, slotInfo playerO⟩ now 1

/-- Without two players nothing happens; otherwise the game is replaced and announced. -/
theorem startGame_cases (gs : GameSession) (now : Millis) (gameId : GameId) (room : RoomRecord)
    (firstTurn : PlayerSymbol) :
    gs.startGame now gameId room firstTurn = ⟨gs, []⟩ ∨
    ∃ playerX playerO, room.playerX = some playerX ∧ room.playerO = some playerO ∧
      gs.startGame now gameId room firstTurn =
        ({ gs with
            gameState := some (gs.openingState now gameId playerX playerO firstTurn)
            sessionSeq := 1
            replayBuffer := [] } : GameSession).emit .broadcast playerX.playerId
          (gs.startedEvent now gameId playerX playerO firstTurn) := by
  unfold startGame
  split
  · rename_i playerX playerO hX hO
    exact Or.inr ⟨playerX, playerO, hX, hO, rfl⟩
  · exact Or.inl rfl

/-! ### Ending a game -/

/-- The `GAME_FINISHED` event of a finished game. -/
def finishedEvent (roomId : RoomId) (state : GameState) (result : GameResult) (seq : Nat) : RoomEvent :=
  makeGameFinished roomId state.gameId result state.board state.moveHistory
    ⟨state.moveHistory.length, gameDuration state, state.firstMoveAt⟩ seq

/-- The record of a finished game. -/
def recordOf (state : GameState) (result : GameResult) : CompletedGameRecord :=
  completedRecord state result state.board state.moveHistory

/-- Ending a game whose state is `state`: it is recorded unless it has been recorded before, and announced
unless the save throws. -/
inductive Ending (gs : GameSession) (repository : HistoryRepository) (diskFails : Bool) (p : PlayerId)
    (state : GameState) (result : GameResult) : GameEffect → Prop
  | known (h : state.gameId ∈ gs.completedGames.map (·.gameId)) :
    Ending gs repository diskFails p state result
      ⟨gs.nextSeq.emit .broadcast p (finishedEvent gs.roomId state result (gs.sessionSeq + 1)), repository, false⟩
  | failed (h : state.gameId ∉ gs.completedGames.map (·.gameId))
    (hthrew : (repository.saveCompletedGame gs.roomId (recordOf state result) diskFails).2 = true) :
    Ending gs repository diskFails p state result
      ⟨⟨{ gs.nextSeq with completedGames := recordOf state result :: gs.completedGames }, []⟩,
        (repository.saveCompletedGame gs.roomId (recordOf state result) diskFails).1, true⟩
  | recorded (h : state.gameId ∉ gs.completedGames.map (·.gameId))
    (hthrew : (repository.saveCompletedGame gs.roomId (recordOf state result) diskFails).2 = false) :
    Ending gs repository diskFails p state result
      ⟨({ gs.nextSeq with completedGames := recordOf state result :: gs.completedGames } : GameSession).emit .broadcast p
          (finishedEvent gs.roomId state result (gs.sessionSeq + 1)),
        (repository.saveCompletedGame gs.roomId (recordOf state result) diskFails).1, false⟩

theorem emitGameFinished_ending {state : GameState} (h : gs.gameState = some state) (result : GameResult) :
    Ending gs repository diskFails p state result
      (gs.emitGameFinished repository diskFails result state.board state.moveHistory p) := by
  have hany : (gs.completedGames.any fun game => game.gameId = state.gameId) = true ↔
      state.gameId ∈ gs.completedGames.map (·.gameId) := by
    simp [List.any_eq_true, List.mem_map]
  unfold emitGameFinished
  simp only [h]
  split
  · rename_i hk
    exact .known (hany.mp hk)
  · rename_i hk
    split
    · rename_i hthrew
      exact .failed (mt hany.mpr hk) hthrew
    · rename_i hthrew
      exact .recorded (mt hany.mpr hk) (Bool.eq_false_iff.mpr hthrew)

theorem Ending.fields {state : GameState} {result : GameResult} {e : GameEffect}
    (h : Ending gs repository diskFails p state result e) :
    e.session.roomId = gs.roomId ∧ e.session.gameState = gs.gameState ∧ e.session.rematch = gs.rematch ∧
      e.session.reconnectTimers = gs.reconnectTimers := by
  cases h <;> refine ⟨?_, ?_, ?_, ?_⟩ <;> simp only [emit, push, nextSeq]

theorem Ending.load_other {state : GameState} {result : GameResult} {e : GameEffect}
    (h : Ending gs repository diskFails p state result e) {r : RoomId} (hr : gs.roomId ≠ r) :
    e.historyRepository.loadCompletedGames r = repository.loadCompletedGames r := by
  cases h <;> simp [HistoryRepository.loadCompletedGames_save, hr]

/-- A save only throws when the disk fails. -/
theorem Ending.threw_false {state : GameState} {result : GameResult} {e : GameEffect}
    (h : Ending gs repository false p state result e) : e.threw = false := by
  cases h with
  | known => rfl
  | failed _ hthrew =>
    unfold HistoryRepository.saveCompletedGame at hthrew
    dsimp only at hthrew
    split at hthrew <;> cases hthrew
  | recorded => rfl

/-- `handleForfeit` and `handleAbandon` do nothing unless the game runs. -/
theorem handleEnd_cases (gs : GameSession) (repository : HistoryRepository) (diskFails : Bool) (p : PlayerId)
    (outcome : GameOutcome) (reason : GameEndReason) (now : Millis) :
    let e := gs.handleEnd repository diskFails p fun state => endGame state outcome reason p now
    (gs.isActive = false ∧ e = ⟨⟨gs, []⟩, repository, false⟩) ∨
    ∃ state result, gs.gameState = some state ∧ state.status = .active ∧
      (endGame state outcome reason p now).newState.result = some result ∧
      Ending { gs with gameState := some (endGame state outcome reason p now).newState } repository diskFails p
        (endGame state outcome reason p now).newState result e := by
  unfold handleEnd
  cases hs : gs.gameState with
  | none => exact Or.inl ⟨by simp [isActive, hs], rfl⟩
  | some state =>
    by_cases ha : state.status = .active
    · refine Or.inr ⟨state, _, rfl, ha, rfl, ?_⟩
      simp only [ha, ne_eq, not_true_eq_false, ↓reduceIte]
      exact emitGameFinished_ending rfl _
    · exact Or.inl ⟨by simp [isActive, hs, ha], by simp [ha]⟩

theorem handleEnd_threw_false (outcome : GameOutcome) (reason : GameEndReason) :
    (gs.handleEnd repository false p fun state => endGame state outcome reason p now).threw = false := by
  rcases handleEnd_cases gs repository false p outcome reason now with ⟨-, he⟩ | ⟨state, result, -, -, -, he⟩
  · rw [he]
  · exact he.threw_false

theorem handleForfeit_threw_false : (gs.handleForfeit now repository false p).threw = false :=
  handleEnd_threw_false _ _

/-! ### Moves -/

/-- The response to a move that the engine has accepted. -/
def ackEvent (gs : GameSession) (gameId : GameId) (position : RawPosition) (commandId : CommandId) (made : MoveMade) :
    RoomEvent :=
  makeMoveAck gs.roomId gameId position made.symbol made.sequenceInGame made.board made.nextTurn (gs.sessionSeq + 1)
    commandId

/-- What the other player is told about it. -/
def broadcastEvent (gs : GameSession) (p : PlayerId) (gameId : GameId) (position : RawPosition) (made : MoveMade) :
    RoomEvent :=
  makeMoveBroadcast gs.roomId gameId position made.symbol p made.sequenceInGame made.board made.nextTurn
    (gs.sessionSeq + 2)

/-- The response to a move that the engine has rejected. -/
def rejectedEvent (gs : GameSession) (state : GameState) (position : RawPosition) (commandId : CommandId)
    (reason : MoveRejectionReason) : RoomEvent :=
  makeMoveRejected gs.roomId state.gameId position reason state.board state.currentTurn (gs.sessionSeq + 1) commandId

/-- The session has sent `MOVE_ACK` and `MOVE_BROADCAST` for an accepted move. -/
def announced (gs : GameSession) (p : PlayerId) (gameId : GameId) (position : RawPosition) (commandId : CommandId)
    (made : MoveMade) : Emitted :=
  let ack := gs.nextSeq.emit .player p (gs.ackEvent gameId position commandId made)
  let told := ack.session.nextSeq.emit .others p (gs.broadcastEvent p gameId position made)
  ⟨told.session, ack.sends ++ told.sends⟩

theorem announced_same (gs : GameSession) (p : PlayerId) (gameId : GameId) (position : RawPosition)
    (commandId : CommandId) (made : MoveMade) : SameGame gs (gs.announced p gameId position commandId made).session :=
  ((nextSeq_same gs).trans (emit_same _ _ _ _)).trans ((nextSeq_same _).trans (emit_same _ _ _ _))

/-- The cases of `handleMove`. -/
inductive Moving (gs : GameSession) (now : Millis) (repository : HistoryRepository) (diskFails : Bool) (p : PlayerId)
    (gameId : GameId) (position : RawPosition) (commandId : CommandId) : MoveOutcome → Prop
  | refused (code : ErrorCode) (detail : String)
    (h : ∀ state, gs.gameState = some state → state.gameId = gameId → state.status ≠ .active) :
    Moving gs now repository diskFails p gameId position commandId
      ⟨⟨gs.sendError p code detail commandId, repository, false⟩, none⟩
  | rejected {state : GameState} {reason : MoveRejectionReason} (hstate : gs.gameState = some state)
    (hid : state.gameId = gameId) (hactive : state.status = .active)
    (happly : applyMove state ⟨p, position.row, position.col, commandId, now⟩ = .rejected state reason) :
    Moving gs now repository diskFails p gameId position commandId
      ⟨⟨gs.nextSeq.emit .player p (gs.rejectedEvent state position commandId reason), repository, false⟩,
        some (.room (gs.rejectedEvent state position commandId reason))⟩
  | continued {state t : GameState} {made : MoveMade} (hstate : gs.gameState = some state) (hid : state.gameId = gameId)
    (hmove : AcceptedMove state ⟨p, position.row, position.col, commandId, now⟩ t made none) :
    Moving gs now repository diskFails p gameId position commandId
      ⟨⟨{ gs with gameState := some t }.announced p gameId position commandId made, repository, false⟩,
        some (.room (gs.ackEvent gameId position commandId made))⟩
  | finished {state t : GameState} {made : MoveMade} {ended : GameEnded} {result : GameResult} {e : GameEffect}
    (hstate : gs.gameState = some state) (hid : state.gameId = gameId)
    (hmove : AcceptedMove state ⟨p, position.row, position.col, commandId, now⟩ t made (some ended))
    (hresult : t.result = some result)
    (he : Ending ({ gs with gameState := some t }.announced p gameId position commandId made).session repository diskFails
      p t result e) :
    Moving gs now repository diskFails p gameId position commandId
      ⟨⟨⟨e.session, ({ gs with gameState := some t }.announced p gameId position commandId made).sends ++ e.sends⟩,
        e.historyRepository, e.threw⟩, if e.threw then none else some (.room (gs.ackEvent gameId position commandId made))⟩

theorem handleMove_moving (gs : GameSession) (now : Millis) (repository : HistoryRepository) (diskFails : Bool)
    (p : PlayerId) (gameId : GameId) (position : RawPosition) (commandId : CommandId) :
    Moving gs now repository diskFails p gameId position commandId
      (gs.handleMove now repository diskFails p gameId position commandId) := by
  unfold handleMove
  cases hs : gs.gameState with
  | none => exact .refused _ _ fun state h => by simp [hs] at h
  | some state =>
    have huniq : ∀ st, gs.gameState = some st → st = state := fun st h => Option.some.inj (h.symm.trans hs)
    by_cases hid : state.gameId = gameId
    · subst hid
      by_cases ha : state.status = .active
      · simp only [ne_eq, not_true_eq_false, ↓reduceIte, ha]
        rcases applyMove_accepted_cases state ⟨p, position.row, position.col, commandId, now⟩ with
          ⟨reason, happly⟩ | ⟨t, made, ended, events, happly, hmade, hended, hmove⟩
        · rw [happly]
          exact .rejected hs rfl ha happly
        · rw [happly]
          simp only [hmade, hended]
          rcases hmove.outcome with ⟨-, -, -, rfl⟩ | ⟨result, -, hresult, -, -, -, rfl⟩
          · exact .continued hs rfl hmove
          · exact .finished hs rfl hmove hresult
              (emitGameFinished_ending (announced_same _ _ _ _ _ _).gameState result)
      · simp only [ne_eq, not_true_eq_false, ↓reduceIte, ha, not_false_eq_true]
        exact .refused _ _ fun st h _ => huniq st h ▸ ha
    · simp only [ne_eq, hid, not_false_eq_true, ↓reduceIte]
      exact .refused _ _ fun st h hst => absurd (huniq st h ▸ hst) hid

/-- The mover is the first to be told: the response that is then recorded, with no snapshot in it, or an error. -/
theorem handleMove_told {gameId : GameId} {position : RawPosition} {commandId : CommandId}
    (hthrew : (gs.handleMove now repository diskFails p gameId position commandId).threw = false) :
    ∃ e rest, (gs.handleMove now repository diskFails p gameId position commandId).sends = ⟨.player, p, e⟩ :: rest ∧
      ((gs.handleMove now repository diskFails p gameId position commandId).response = none ∧
          (WireEvent.event e).isError = true ∨
        ∃ event, e = .room event ∧ event.payload.roomState = none ∧
          (gs.handleMove now repository diskFails p gameId position commandId).response = some (.room event)) := by
  have hm := handleMove_moving gs now repository diskFails p gameId position commandId
  generalize gs.handleMove now repository diskFails p gameId position commandId = o at hm hthrew ⊢
  cases hm with
  | refused code detail => exact ⟨_, [], rfl, Or.inl ⟨rfl, rfl⟩⟩
  | rejected => exact ⟨_, [], rfl, Or.inr ⟨_, rfl, rfl, rfl⟩⟩
  | continued => exact ⟨_, _, rfl, Or.inr ⟨_, rfl, rfl, rfl⟩⟩
  | finished => exact ⟨_, _, rfl, Or.inr ⟨_, rfl, rfl, if_neg (by simpa using hthrew)⟩⟩

theorem handleMove_threw_false {gameId : GameId} {position : RawPosition} {commandId : CommandId} :
    (gs.handleMove now repository false p gameId position commandId).threw = false := by
  have hm := handleMove_moving gs now repository false p gameId position commandId
  generalize gs.handleMove now repository false p gameId position commandId = o at hm
  cases hm with
  | refused => rfl
  | rejected => rfl
  | continued => rfl
  | finished hstate hid hmove hresult he => exact he.threw_false

/-! ### Rematch -/

theorem handleRematchRequest_cases (gs : GameSession) (now : Millis) (room : RoomRecord) (p : PlayerId)
    (gameId : GameId) :
    gs.handleRematchRequest now room p gameId = gs.notTaken room ∨
    ∃ symbol, gs.hasFinished gameId = true ∧ gs.rematch = none ∧ getSymbolForPlayer room p = some symbol ∧
      gs.handleRematchRequest now room p gameId =
        ⟨({ gs with rematch := some ⟨symbol, now, now + REMATCH_TIMEOUT_MS, [symbol], gameId⟩ } : GameSession).nextSeq.emit
          .broadcast p (makeRematchRequested gs.roomId gameId symbol (now + REMATCH_TIMEOUT_MS) (gs.sessionSeq + 1)),
          true, room⟩ := by
  unfold handleRematchRequest
  split
  · exact Or.inl rfl
  · rename_i hf
    split
    · exact Or.inl rfl
    · rename_i hr
      cases hs : getSymbolForPlayer room p with
      | none => exact Or.inl rfl
      | some symbol => exact Or.inr ⟨symbol, by simpa using hf, by simpa using hr, rfl, rfl⟩

/-- An accept is not taken, is noted, or completes the proposal and starts the next game. -/
theorem handleRematchAccept_cases (gs : GameSession) (now : Millis) (gameIds : GameId × GameId) (room : RoomRecord)
    (p : PlayerId) (gameId : GameId) :
    gs.handleRematchAccept now gameIds room p gameId = gs.notTaken room ∨
    ∃ state proposal symbol, gs.gameState = some state ∧ state.status = .finished ∧ state.gameId = gameId ∧
      gs.rematch = some proposal ∧ getSymbolForPlayer room p = some symbol ∧
      ((JsSet.add proposal.acceptedBy symbol).length ≠ 2 ∧ gs.handleRematchAccept now gameIds room p gameId =
          ⟨⟨{ gs with rematch := some { proposal with acceptedBy := JsSet.add proposal.acceptedBy symbol } }, []⟩,
            true, room⟩ ∨
        (JsSet.add proposal.acceptedBy symbol).length = 2 ∧ gs.handleRematchAccept now gameIds room p gameId =
          ⟨({ gs with rematch := none } : GameSession).startGame now gameIds.2 room.resetReady (opponent state.firstTurn),
            true, room.resetReady⟩) := by
  unfold handleRematchAccept
  split
  · rename_i state proposal hstate hproposal
    split
    · exact Or.inl rfl
    · rename_i hguard
      obtain ⟨hf, hid⟩ : state.status = .finished ∧ state.gameId = gameId := by simpa using hguard
      cases hs : getSymbolForPlayer room p with
      | none => exact Or.inl rfl
      | some symbol =>
        refine Or.inr ⟨state, proposal, symbol, hstate, hf, hid, hproposal, rfl, ?_⟩
        dsimp only
        split
        · rename_i hlength
          exact Or.inr ⟨hlength, rfl⟩
        · rename_i hlength
          exact Or.inl ⟨hlength, rfl⟩
  · exact Or.inl rfl

theorem handleRematchDecline_cases (gs : GameSession) (room : RoomRecord) (p : PlayerId) (gameId : GameId) :
    gs.handleRematchDecline room p gameId = gs.notTaken room ∨
    ∃ symbol, gs.rematch ≠ none ∧ getSymbolForPlayer room p = some symbol ∧
      gs.handleRematchDecline room p gameId =
        ⟨⟨({ gs with rematch := none } : GameSession).nextSeq,
          [⟨.broadcast, p, .room (makeRematchDeclined gs.roomId gameId symbol (gs.sessionSeq + 1))⟩]⟩, true, room⟩ := by
  unfold handleRematchDecline
  split
  · exact Or.inl rfl
  · rename_i hr
    cases hs : getSymbolForPlayer room p with
    | none => exact Or.inl rfl
    | some symbol => exact Or.inr ⟨symbol, by simpa using hr, rfl, rfl⟩

/-- A rematch method that does not take its command leaves the session. -/
theorem handleRematchRequest_notTaken {gameId : GameId}
    (h : (gs.handleRematchRequest now room p gameId).taken = false) :
    (gs.handleRematchRequest now room p gameId).session = gs := by
  rcases handleRematchRequest_cases gs now room p gameId with he | ⟨_, -, -, -, he⟩
  · rw [he]
    rfl
  · rw [he] at h
    cases h

theorem handleRematchAccept_notTaken {gameIds : GameId × GameId} {gameId : GameId}
    (h : (gs.handleRematchAccept now gameIds room p gameId).taken = false) :
    (gs.handleRematchAccept now gameIds room p gameId).session = gs := by
  rcases handleRematchAccept_cases gs now gameIds room p gameId with he | ⟨_, _, _, -, -, -, -, -, ⟨-, he⟩ | ⟨-, he⟩⟩
  · rw [he]
    rfl
  · rw [he] at h
    cases h
  · rw [he] at h
    cases h

theorem handleRematchDecline_notTaken {gameId : GameId} (h : (gs.handleRematchDecline room p gameId).taken = false) :
    (gs.handleRematchDecline room p gameId).session = gs := by
  rcases handleRematchDecline_cases gs room p gameId with he | ⟨_, -, -, he⟩
  · rw [he]
    rfl
  · rw [he] at h
    cases h

theorem expireRematch_cases (gs : GameSession) (room : RoomRecord) (gameId : GameId) :
    gs.expireRematch room gameId = ⟨gs, []⟩ ∨
    gs.expireRematch room gameId = ⟨{ gs with rematch := none }, []⟩ ∨
    ∃ anyPlayer, gs.expireRematch room gameId =
      ({ gs with rematch := none } : GameSession).nextSeq.emit .broadcast anyPlayer
        (makeRematchExpired gs.roomId gameId (gs.sessionSeq + 1)) := by
  unfold expireRematch
  split
  · exact Or.inl rfl
  · right
    cases h : (room.playerX.or room.playerO).map PlayerSlot.playerId with
    | none => exact Or.inl rfl
    | some anyPlayer => exact Or.inr ⟨anyPlayer, rfl⟩

theorem handleRematchRequest_broadcasts (gs : GameSession) (now : Millis) (room : RoomRecord) (p : PlayerId)
    (gameId : GameId) : ∀ call ∈ (gs.handleRematchRequest now room p gameId).sends, call.target = .broadcast := by
  rcases handleRematchRequest_cases gs now room p gameId with h | ⟨symbol, -, -, -, h⟩ <;> rw [h] <;> simp [notTaken]

theorem startGame_broadcasts (gs : GameSession) (now : Millis) (gameId : GameId) (room : RoomRecord)
    (firstTurn : PlayerSymbol) : ∀ call ∈ (gs.startGame now gameId room firstTurn).sends, call.target = .broadcast := by
  rcases startGame_cases gs now gameId room firstTurn with h | ⟨_, _, -, -, h⟩ <;> rw [h] <;> simp

theorem handleRematchAccept_broadcasts (gs : GameSession) (now : Millis) (gameIds : GameId × GameId)
    (room : RoomRecord) (p : PlayerId) (gameId : GameId) :
    ∀ call ∈ (gs.handleRematchAccept now gameIds room p gameId).sends, call.target = .broadcast := by
  rcases handleRematchAccept_cases gs now gameIds room p gameId with
    h | ⟨_, _, _, -, -, -, -, -, ⟨-, h⟩ | ⟨-, h⟩⟩ <;> rw [h]
  · simp [notTaken]
  · simp
  · exact startGame_broadcasts _ _ _ _ _

theorem handleRematchDecline_broadcasts (gs : GameSession) (room : RoomRecord) (p : PlayerId) (gameId : GameId) :
    ∀ call ∈ (gs.handleRematchDecline room p gameId).sends, call.target = .broadcast := by
  rcases handleRematchDecline_cases gs room p gameId with h | ⟨symbol, -, -, h⟩ <;> rw [h] <;> simp [notTaken]

/-! ### Reconnect windows -/

theorem clearReconnectWindow_get (gs : GameSession) (p q : PlayerId) :
    (gs.clearReconnectWindow p).reconnectTimers.get q = if p = q then none else gs.reconnectTimers.get q :=
  JsMap.get_delete _ _ _

/-- Arming a window tells a connected opponent; only the player's own timer changes. -/
theorem startReconnectWindow_fields (gs : GameSession) (now : Millis) (room : RoomRecord) (p : PlayerId) :
    let e := gs.startReconnectWindow now room p
    e.session.roomId = gs.roomId ∧ e.session.gameState = gs.gameState ∧ e.session.rematch = gs.rematch ∧
      e.session.completedGames = gs.completedGames ∧
      ∀ q, e.session.reconnectTimers.get q =
        if p = q then some ⟨getSymbolForPlayer room p, now + RECONNECT_WINDOW_MS⟩ else gs.reconnectTimers.get q := by
  have h := tellOpponent_same (gs.clearReconnectWindow p) room p fun symbol seq =>
    makeOpponentDisconnected gs.roomId symbol (now + RECONNECT_WINDOW_MS) seq
  refine ⟨h.roomId, h.gameState, h.rematch, h.completedGames, fun q => ?_⟩
  simp only [startReconnectWindow, JsMap.get_set]
  by_cases hq : p = q
  · simp [hq]
  · have ht : ∀ m : JsMap PlayerId ReconnectTimer, m = (gs.clearReconnectWindow p).reconnectTimers →
        m.get q = gs.reconnectTimers.get q := by
      rintro m rfl
      rw [clearReconnectWindow_get, if_neg hq]
    simp only [hq, ↓reduceIte]
    exact ht _ h.reconnectTimers

/-- The callback of a window: the game is abandoned if it runs, then `PLAYER_LEFT` is broadcast. -/
theorem expireReconnectWindow_cases (gs : GameSession) (now : Millis) (repository : HistoryRepository)
    (diskFails : Bool) (p : PlayerId) (symbol : Option PlayerSymbol) :
    let abandoned := gs.handleAbandon now repository diskFails p
    let e := gs.expireReconnectWindow now repository diskFails p symbol
    (abandoned.threw = true ∧ e = abandoned) ∨
    (abandoned.threw = false ∧ symbol = none ∧
      e = { abandoned with session := abandoned.session.clearReconnectWindow p }) ∨
    ∃ x, abandoned.threw = false ∧ symbol = some x ∧ e = { abandoned with
      session := (abandoned.session.nextSeq.emit .broadcast p (makePlayerLeft abandoned.session.roomId p x
        .disconnectTimeout (abandoned.session.sessionSeq + 1))).session.clearReconnectWindow p
      sends := abandoned.sends ++ [⟨.broadcast, p, .room (makePlayerLeft abandoned.session.roomId p x .disconnectTimeout
        (abandoned.session.sessionSeq + 1))⟩] } := by
  dsimp only
  unfold expireReconnectWindow
  cases ht : (gs.handleAbandon now repository diskFails p).threw with
  | true => exact Or.inl ⟨rfl, by simp [ht]⟩
  | false =>
    cases symbol with
    | none => exact Or.inr (Or.inl ⟨rfl, rfl, by simp [ht]⟩)
    | some x => exact Or.inr (Or.inr ⟨x, rfl, rfl, by simp only [ht, Bool.false_eq_true, ↓reduceIte]; rfl⟩)

/-! ### Other rooms' histories -/

theorem handleEnd_load_other (outcome : GameOutcome) (reason : GameEndReason) {r : RoomId} (hr : gs.roomId ≠ r) :
    (gs.handleEnd repository diskFails p fun state => endGame state outcome reason p
      now).historyRepository.loadCompletedGames r = repository.loadCompletedGames r := by
  rcases handleEnd_cases gs repository diskFails p outcome reason now with ⟨-, he⟩ | ⟨state, result, -, -, -, he⟩
  · rw [he]
  · exact he.load_other hr

theorem handleMove_load_other {gameId : GameId} {position : RawPosition} {commandId : CommandId} {r : RoomId}
    (hr : gs.roomId ≠ r) :
    (gs.handleMove now repository diskFails p gameId position commandId).historyRepository.loadCompletedGames r =
      repository.loadCompletedGames r := by
  have hm := handleMove_moving gs now repository diskFails p gameId position commandId
  generalize gs.handleMove now repository diskFails p gameId position commandId = o at hm
  cases hm with
  | refused => rfl
  | rejected => rfl
  | continued => rfl
  | finished hstate hid hmove hresult he => exact he.load_other (by rwa [(announced_same _ _ _ _ _ _).roomId])

theorem expireReconnectWindow_load_other {symbol : Option PlayerSymbol} {r : RoomId} (hr : gs.roomId ≠ r) :
    (gs.expireReconnectWindow now repository diskFails p symbol).historyRepository.loadCompletedGames r =
      repository.loadCompletedGames r := by
  have ha : (gs.handleAbandon now repository diskFails p).historyRepository.loadCompletedGames r =
      repository.loadCompletedGames r := handleEnd_load_other _ _ hr
  rcases expireReconnectWindow_cases gs now repository diskFails p symbol with ⟨-, he⟩ | ⟨-, -, he⟩ | ⟨x, -, -, he⟩ <;>
    rw [he] <;> exact ha

end GameSession
end TicTacToe
