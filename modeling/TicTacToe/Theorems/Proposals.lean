import TicTacToe.Theorems.Emissions
import TicTacToe.Theorems.Processing

/-! # Rematch proposals

A proposal is made for a finished game. It goes by the accept that completes it, a decline or its timer; a
game that starts because both players are ready leaves it pending. -/

namespace TicTacToe

/-- The pending rematch proposal of a room. -/
def RoomView.proposal (v : RoomView) : Option RematchProposal := v.game.bind GameSession.rematch

theorem RoomView.proposal_of_game {v : RoomView} {gs : GameSession} (h : v.game = some gs) : v.proposal = gs.rematch := by
  simp [proposal, h]

/-- `g` is the room's game, and it is finished. -/
def RoomView.Finished (v : RoomView) (g : GameId) : Prop :=
  ∃ state, v.state = some state ∧ state.status = .finished ∧ state.gameId = g

/-- What action `a` does to the proposal. -/
inductive ProposalStep (now : Millis) (v : RoomView) (a : RoomAction) (v' : RoomView) : Prop
  | same (h : v'.proposal = v.proposal) (haccept : (∃ p g, a = .rematchAccepted p g) → v' = v)
  | requested {p : PlayerId} {g : GameId} {x : PlayerSymbol} {room : RoomRecord} (ha : a = .rematchRequested p g)
    (hroom : v.room = some room) (hx : getSymbolForPlayer room p = some x) (hnone : v.proposal = none)
    (hfinished : v.Finished g) (hstate : v'.state = v.state)
    (h : v'.proposal = some ⟨x, now, now + REMATCH_TIMEOUT_MS, [x], g⟩)
  | noted {p : PlayerId} {g : GameId} {x : PlayerSymbol} {room : RoomRecord} {proposal : RematchProposal}
    (ha : a = .rematchAccepted p g) (hroom : v.room = some room) (hx : getSymbolForPlayer room p = some x)
    (hproposal : v.proposal = some proposal) (hfinished : v.Finished g) (hstate : v'.state = v.state)
    (h : v'.proposal = some { proposal with acceptedBy := JsSet.add proposal.acceptedBy x })
  | accepted {p : PlayerId} {g : GameId} {x : PlayerSymbol} {room : RoomRecord} {proposal : RematchProposal}
    (ha : a = .rematchAccepted p g) (hroom : v.room = some room) (hx : getSymbolForPlayer room p = some x)
    (hproposal : v.proposal = some proposal) (hfinished : v.Finished g)
    (hboth : (JsSet.add proposal.acceptedBy x).length = 2) (h : v'.proposal = none)
  | declined {p : PlayerId} {g : GameId} {x : PlayerSymbol} {room : RoomRecord} (ha : a = .rematchDeclined p g)
    (hroom : v.room = some room) (hx : getSymbolForPlayer room p = some x) (hsome : v.proposal ≠ none)
    (h : v'.proposal = none)
  | expired (ha : a = .rematchFired) (hsome : v.proposal ≠ none) (h : v'.proposal = none)

/-! ### Methods that leave the proposal -/

namespace GameSession
variable {gs : GameSession} {now : Millis} {repository : HistoryRepository} {diskFails : Bool} {p : PlayerId}

theorem startGame_rematch (gs : GameSession) (now : Millis) (gameId : GameId) (room : RoomRecord)
    (firstTurn : PlayerSymbol) : (gs.startGame now gameId room firstTurn).session.rematch = gs.rematch := by
  rcases startGame_cases gs now gameId room firstTurn with h | ⟨_, _, -, -, h⟩ <;> rw [h]
  exact (emit_same _ _ _ _).rematch

theorem handleEnd_rematch (outcome : GameOutcome) (reason : GameEndReason) :
    (gs.handleEnd repository diskFails p fun state => endGame state outcome reason p now).session.rematch =
      gs.rematch := by
  rcases handleEnd_cases gs repository diskFails p outcome reason now with ⟨-, h⟩ | ⟨_, _, -, -, -, h⟩
  · rw [h]
  · exact h.fields.2.2.1

theorem handleMove_rematch (gameId : GameId) (position : RawPosition) (commandId : CommandId) :
    (gs.handleMove now repository diskFails p gameId position commandId).session.rematch = gs.rematch := by
  have hm := handleMove_moving gs now repository diskFails p gameId position commandId
  generalize gs.handleMove now repository diskFails p gameId position commandId = o at hm
  cases hm with
  | refused => rfl
  | rejected => exact (emit_same _ _ _ _).rematch
  | continued => exact (announced_same _ _ _ _ _ _).rematch
  | finished hstate hid hmove hresult he => exact he.fields.2.2.1.trans (announced_same _ _ _ _ _ _).rematch

theorem expireReconnectWindow_rematch (symbol : Option PlayerSymbol) :
    (gs.expireReconnectWindow now repository diskFails p symbol).session.rematch = gs.rematch := by
  have ha : (gs.handleAbandon now repository diskFails p).session.rematch = gs.rematch := handleEnd_rematch _ _
  rcases expireReconnectWindow_cases gs now repository diskFails p symbol with ⟨-, he⟩ | ⟨-, -, he⟩ | ⟨x, -, -, he⟩
  · rw [he]
    exact ha
  · rw [he]
    exact ha
  · rw [he]
    exact ha

end GameSession

namespace RoomView
variable {v : RoomView}

theorem bump_rematch (v : RoomView) (r : RoomId) (k : Nat) : ((v.gameOrNew r).bump k).rematch = v.proposal := by
  unfold gameOrNew proposal GameSession.bump
  cases v.game <;> rfl

theorem Finished.of_session {gs : GameSession} {state : GameState} (hgame : v.game = some gs)
    (hstate : gs.gameState = some state) (hfinished : state.status = .finished) : v.Finished state.gameId :=
  ⟨state, (state_of_game hgame).trans hstate, hfinished, rfl⟩

end RoomView

/-! ### Steps -/

theorem ProposalStep.of_rematch {now : Millis} {v v' : RoomView} {a : RoomAction} {gs gs' : GameSession}
    (haccept : ∀ p g, a ≠ .rematchAccepted p g) (hgame : v.game = some gs) (hgame' : v'.game = some gs')
    (h : gs'.rematch = gs.rematch) : ProposalStep now v a v' := by
  refine .same ?_ fun ⟨p, g, ha⟩ => absurd ha (haccept p g)
  rw [RoomView.proposal_of_game hgame, RoomView.proposal_of_game hgame', h]

theorem RoomStep.proposals {G : IdSource} {now : Millis} {r : RoomId} {lo hi : Nat} {v v' : RoomView} {a : RoomAction}
    {sends : List SendCall} (h : RoomStep G now r lo hi v a sends v') : ProposalStep now v a v' := by
  have hsame : (∀ p g, a ≠ .rematchAccepted p g) → v'.proposal = v.proposal → ProposalStep now v a v' :=
    fun ha hproposal => .same hproposal fun ⟨p, g, haccept⟩ => absurd haccept (ha p g)
  cases h with
  | idle | created | leftIdleRoom | reconnectedIdle | disconnected => exact hsame (by simp) rfl
  | rejoined =>
    refine hsame (by simp) ?_
    cases hg : v.game <;> simp [RoomView.proposal, hg, GameSession.bump]
  | entered | readied => exact hsame (by simp) (RoomView.bump_rematch v r _)
  | readiedAgain => exact hsame (by simp) (RoomView.bump_rematch v r 0)
  | startedReady =>
    refine hsame (by simp) ?_
    rw [RoomView.proposal_of_game rfl, GameSession.startGame_rematch]
    exact RoomView.bump_rematch v r _
  | left hroom hslot hgame | leaveThrew hroom hslot hgame =>
    exact .of_rematch (by simp) hgame rfl (GameSession.handleEnd_rematch _ _)
  | moved hroom hgame | moveThrew hroom hgame =>
    exact .of_rematch (by simp) hgame rfl (GameSession.handleMove_rematch _ _ _)
  | @rematchRequested p room gs gameId hroom hgame =>
    rcases GameSession.handleRematchRequest_cases gs now room p gameId with h | ⟨x, hfinished, hnone, hx, h⟩
    · rw [h]
      exact .of_rematch (by simp) hgame rfl rfl
    · rw [h]
      obtain ⟨state, hstate, hmatch⟩ := (Option.any_eq_true _ _).mp hfinished
      obtain ⟨hstatus, rfl⟩ : state.status = .finished ∧ state.gameId = gameId := by simpa using hmatch
      exact .requested rfl hroom hx ((RoomView.proposal_of_game hgame).trans hnone) (.of_session hgame hstate hstatus)
        (RoomView.state_of_game hgame).symm rfl
  | @rematchAccepted p room gs gameId unused n hroom hgame hlo hhi =>
    rcases GameSession.handleRematchAccept_cases gs now (unused, G.gameId n) room p gameId with
      h | ⟨state, proposal, x, hstate, hstatus, rfl, hproposal, hx, ⟨-, h⟩ | ⟨hboth, h⟩⟩
    · rw [h]
      obtain ⟨vroom, vgame, records⟩ := v
      obtain rfl : vroom = some room := hroom
      obtain rfl : vgame = some gs := hgame
      exact .same rfl fun _ => rfl
    · rw [h]
      exact .noted rfl hroom hx ((RoomView.proposal_of_game hgame).trans hproposal) (.of_session hgame hstate hstatus)
        (RoomView.state_of_game hgame).symm rfl
    · rw [h]
      refine .accepted rfl hroom hx ((RoomView.proposal_of_game hgame).trans hproposal)
        (.of_session hgame hstate hstatus) hboth ?_
      exact (RoomView.proposal_of_game rfl).trans (GameSession.startGame_rematch _ _ _ _ _)
  | @rematchDeclined p room gs gameId hroom hgame =>
    rcases GameSession.handleRematchDecline_cases gs room p gameId with h | ⟨x, hsome, hx, h⟩
    · rw [h]
      exact .of_rematch (by simp) hgame rfl rfl
    · rw [h]
      exact .declined rfl hroom hx (RoomView.proposal_of_game hgame ▸ hsome) rfl
  | @reconnected p room gs hroom hslot hgame =>
    exact .of_rematch (by simp) hgame rfl (GameSession.tellOpponent_same (gs.clearReconnectWindow p) _ _ _).rematch
  | @windowArmed p room gs hroom hgame hactive =>
    exact .of_rematch (by simp) hgame rfl
      (GameSession.startReconnectWindow_fields gs now (room.setConnected now p false) p).2.2.1
  | windowFired hgame => exact .of_rematch (by simp) hgame rfl (GameSession.expireReconnectWindow_rematch _)
  | @rematchFired gs room proposal hroom hgame hproposal hdue =>
    have hsome : v.proposal ≠ none := by simp [RoomView.proposal_of_game hgame, hproposal]
    rcases GameSession.expireRematch_cases gs room proposal.gameId with h | h | ⟨anyPlayer, h⟩
    · rw [h]
      exact .of_rematch (by simp) hgame rfl rfl
    · rw [h]
      exact .expired rfl hsome rfl
    · rw [h]
      exact .expired rfl hsome rfl

/-- The pending proposal of a room belongs to its game session. -/
theorem Server.proposal_of_session {s t : Server} {r : RoomId} (h : t.gameSessions.get r = s.gameSessions.get r) :
    (t.view r).proposal = (s.view r).proposal := congrArg (fun game => game.bind GameSession.rematch) h

end TicTacToe
