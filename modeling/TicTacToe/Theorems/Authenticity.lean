import TicTacToe.Theorems.EngineDecided
import TicTacToe.Theorems.MoveLog
import TicTacToe.Theorems.Processing
import TicTacToe.Theorems.Seats
import TicTacToe.Theorems.Starts

/-! # Who has done what

Every record of a game's history comes from a processed `MAKE_MOVE` of the player who holds its symbol, and every end
of a game from such a move, from a `LEAVE_ROOM` of the loser or from a reconnect window. -/

namespace TicTacToe

/-! ### What an accepted move leaves behind -/

/-- The player who resolves to a symbol holds it. -/
theorem GameState.holder_of_resolve {state : GameState} {p : PlayerId} {x : PlayerSymbol}
    (h : resolveSymbol state p = some x) : state.holder x = p := by
  unfold resolveSymbol at h
  split at h
  · rename_i hp
    obtain rfl := Option.some.inj h
    exact hp.symm
  · split at h
    · rename_i hp
      obtain rfl := Option.some.inj h
      exact hp.symm
    · cases h

namespace AcceptedMove
variable {s t : GameState} {c : MakeMoveCommand} {made : MoveMade} {ended : Option GameEnded}

/-- The position is one of the board, and the mark of the mover is set there. -/
theorem accepts (h : AcceptedMove s c t made ended) : isValidPosition c.row c.col = true ∧
    t = (acceptMove s made.symbol (toBoardIndex c.row) (toBoardIndex c.col) c.timestamp).newState := by
  rcases applyMove_cases s c with ⟨reason, hreject⟩ | ⟨symbol, hsymbol, hvalid, -, haccept⟩
  · have hsame : t = s := by rw [h.state, hreject]; rfl
    exact absurd h.free (hsame ▸ h.cell)
  · obtain rfl := Option.some.inj (h.mover.symm.trans hsymbol)
    exact ⟨hvalid, by rw [h.state, haccept]⟩

theorem history (h : AcceptedMove s c t made ended) : t.moveHistory = s.moveHistory ++
    [nextMoveRecord s made.symbol (toBoardIndex c.row) (toBoardIndex c.col) c.timestamp] := by
  rw [h.accepts.2, acceptMove_history]

/-- A move that ends the game wins it for the mover, or fills the board. -/
theorem decides (h : AcceptedMove s c t made ended) (hfinished : t.status = .finished) : ∃ result,
    t.result = some result ∧ result.endedAt = c.timestamp ∧ (result.outcome = .win ∧ result.winner = some made.symbol ∨
      result.outcome = .draw ∧ result.winner = none) := by
  have ht := h.accepts.2
  rcases acceptMove_cases s made.symbol (toBoardIndex c.row) (toBoardIndex c.col) c.timestamp with
    ⟨line, -, he⟩ | ⟨-, -, he⟩ | ⟨-, -, he⟩
  · rw [he] at ht
    subst ht
    exact ⟨_, rfl, rfl, Or.inl ⟨rfl, rfl⟩⟩
  · rw [he] at ht
    subst ht
    exact ⟨_, rfl, rfl, Or.inr ⟨rfl, rfl⟩⟩
  · rw [he] at ht
    subst ht
    have hactive : s.status = .finished := hfinished
    rw [h.active] at hactive
    cases hactive

end AcceptedMove

/-! ### Steps of a room -/

/-- The game `state` is the room's game, and `record` is in its history. -/
def RoomView.HasMove (v : RoomView) (game : GameStart) (record : MoveRecord) : Prop :=
  ∃ state, v.state = some state ∧ state.asStart = game ∧ record ∈ state.moveHistory

/-- A move of player `p` in the game `state`, with its record. -/
structure Plays (now : Millis) (state : GameState) (p : PlayerId) (position : RawPosition) (record : MoveRecord) :
    Prop where
  player : resolveSymbol state p = some record.symbol
  valid : isValidPosition position.row position.col = true
  cell : record.position = ⟨toBoardIndex position.row, toBoardIndex position.col⟩
  time : record.appliedAt = now

theorem AcceptedMove.plays {now : Millis} {s t : GameState} {p : PlayerId} {id : CommandId} {position : RawPosition}
    {made : MoveMade} {ended : Option GameEnded}
    (h : AcceptedMove s ⟨p, position.row, position.col, id, now⟩ t made ended) : ∃ record,
      t.moveHistory = s.moveHistory ++ [record] ∧ record.symbol = made.symbol ∧ Plays now s p position record :=
  ⟨_, h.history, rfl, h.mover, h.accepts.1, rfl, rfl⟩

section Steps
variable {G : IdSource} {now : Millis} {r : RoomId} {lo hi : Nat} {v v' : RoomView} {a : RoomAction}
  {sends : List SendCall} {game : GameStart} {record : MoveRecord}

/-- Who an action makes a move for. -/
def RoomAction.Moves (a : RoomAction) (p : PlayerId) (id : CommandId) (g : GameId) (position : RawPosition) : Prop :=
  a = .moved p id g position ∨ a = .moveThrew p id g position

/-- A record that is new in the history is that of the action's move. -/
theorem RoomView.HasMove.played {state t : GameState} {p : PlayerId} {id : CommandId} {g : GameId}
    {position : RawPosition} {made : MoveMade} {ended : Option GameEnded} (ha : a.Moves p id g position)
    (hid : state.gameId = g) (hmove : AcceptedMove state ⟨p, position.row, position.col, id, now⟩ t made ended)
    (hstate : v.state = some state) (hstate' : v'.state = some t) (hold : ¬v.HasMove game record)
    (hnew : v'.HasMove game record) : ∃ p id position, a.Moves p id game.gameId position ∧
      v.state = some state ∧ state.asStart = game ∧ Plays now state p position record := by
  obtain ⟨u, hu, rfl, hrecord⟩ := hnew
  obtain rfl := Option.some.inj (hstate'.symm.trans hu)
  have hgame : state.asStart = t.asStart := by
    simp only [GameState.asStart, hmove.gameId, hmove.firstTurn, hmove.playerX, hmove.playerO]
  obtain ⟨last, hhistory, -, hplays⟩ := hmove.plays
  rw [hhistory, List.mem_append, List.mem_singleton] at hrecord
  rcases hrecord with hrecord | rfl
  · exact absurd ⟨state, hstate, hgame, hrecord⟩ hold
  · exact ⟨p, id, position, by rwa [GameState.asStart, hmove.gameId, hid], hstate, hgame, hplays⟩

theorem GameStep.played (h : GameStep G now r lo hi v a sends v') (hold : ¬v.HasMove game record)
    (hnew : v'.HasMove game record) : ∃ state p id position, a.Moves p id game.gameId position ∧
      v.state = some state ∧ state.asStart = game ∧ Plays now state p position record := by
  have hends : ∀ {state t : GameState}, EndsBy now v state a t → v.state = some state → v'.state = some t →
      ∃ state p id position, a.Moves p id game.gameId position ∧ v.state = some state ∧ state.asStart = game ∧
        Plays now state p position record := by
    intro state t hend hstate hstate'
    cases hend with
    | move ha hid hmove => exact ⟨state, hnew.played ha hid hmove hstate hstate' hold⟩
    | forfeit | abandon =>
      obtain ⟨u, hu, rfl, hrecord⟩ := hnew
      obtain rfl := Option.some.inj (hstate'.symm.trans hu)
      exact absurd ⟨state, hstate, rfl, hrecord⟩ hold
  cases h with
  | same hsame =>
    obtain ⟨state, hstate, hgame, hrecord⟩ := hnew
    exact absurd ⟨state, hsame ▸ hstate, hgame, hrecord⟩ hold
  | started hcause hlo hhi hroom hX hO hstate =>
    obtain ⟨state, hstate', -, hrecord⟩ := hnew
    obtain rfl := Option.some.inj (hstate.symm.trans hstate')
    cases hrecord
  | moved ha hstate hmove hstate' => exact ⟨_, hnew.played (Or.inl ha) rfl hmove hstate hstate' hold⟩
  | ended hend hstate hactive hstate' => exact hends hend hstate hstate'
  | failed hend hstate hactive hstate' => exact hends hend hstate hstate'

/-- A game that is finished after a step and was not before has been ended by the step. -/
theorem GameStep.finishes {t : GameState} (h : GameStep G now r lo hi v a sends v') (hnew : v'.state = some t)
    (ht : t.status = .finished) (hold : v.state ≠ some t) :
    ∃ state, v.state = some state ∧ state.status = .active ∧ EndsBy now v state a t := by
  cases h with
  | same hsame => exact absurd (hsame ▸ hnew) hold
  | started hcause hlo hhi hroom hX hO hstate =>
    obtain rfl := Option.some.inj (hstate.symm.trans hnew)
    cases ht
  | moved ha hstate hmove hstate' =>
    obtain rfl := Option.some.inj (hstate'.symm.trans hnew)
    rcases hmove.outcome with ⟨hactive, -⟩ | ⟨result, -, -, -, -, -, hended⟩
    · rw [hactive] at ht
      cases ht
    · cases hended
  | ended hend hstate hactive hstate' | failed hend hstate hactive hstate' =>
    obtain rfl := Option.some.inj (hstate'.symm.trans hnew)
    exact ⟨_, hstate, hactive, hend⟩

/-- A window fires when it is due. -/
theorem RoomStep.window_due {p : PlayerId} (h : RoomStep G now r lo hi v (.windowFired p) sends v') :
    ∃ timer, v.pending p = some timer ∧ timer.deadline ≤ now := by
  cases h with
  | windowFired hgame htimer hdue => exact ⟨_, (RoomView.pending_of_game hgame p).trans htimer, hdue⟩

end Steps

/-! ### Runs of the server -/

namespace Server
variable {s t : Server} {G : IdSource} {i : Input} {r : RoomId} {a : RoomAction}

/-- A move is caused by a processed `MAKE_MOVE`. -/
theorem Cause.moves {p : PlayerId} {id : CommandId} {g : GameId} {position : RawPosition} (hcause : s.Cause i r a)
    (ha : a.Moves p id g position) : s.Handles i ⟨id, .makeMove r g position⟩ p := by
  rcases ha with rfl | rfl
  · exact hcause
  · exact hcause.2

/-- What input `i` has ended the game `t` of room `r` with `result`: its player's last move, a leave of the loser, or the
window of a player. -/
inductive EndedBy (s : Server) (i : Input) (r : RoomId) (t : GameState) (result : GameResult) : Prop
  | move {id : CommandId} {position : RawPosition} {record : MoveRecord}
    (hmove : s.Handles i ⟨id, .makeMove r t.gameId position⟩ (t.holder record.symbol))
    (hlast : t.moveHistory.getLast? = some record)
    (hresult : result.outcome = .win ∧ result.winner = some record.symbol ∨
      result.outcome = .draw ∧ result.winner = none)
  | leave {id : CommandId} {x : PlayerSymbol} (hleave : s.Handles i ⟨id, .leaveRoom r⟩ (t.holder x))
    (hresult : result.outcome = .forfeit ∧ result.winner = some (opponent x))
  | window {p : PlayerId} {diskFails : Bool} {timer : ReconnectTimer} (hi : i = .reconnectWindow r p diskFails)
    (htimer : s.window r p = some timer) (hdue : timer.deadline ≤ s.now)
    (hresult : result.outcome = .abandoned ∧ result.winner = (resolveSymbol t p).map opponent)

theorem Acts.endedBy {state u : GameState} (hs : s.Seats G) (hacts : Acts G s t r a) (hcause : s.Cause i r a)
    (hstate : (s.view r).state = some state) (hactive : state.status = .active) (hend : EndsBy s.now (s.view r) state a u) :
    ∃ result, u.result = some result ∧ result.endedAt = s.now ∧ s.EndedBy i r u result := by
  cases hend with
  | @move p id g position u made ended ha hid hmove =>
    have hfinished : u.status = .finished := by
      rcases hmove.outcome with ⟨-, -, -, hnone⟩ | ⟨result, hfinished, -⟩
      · cases hnone
      · exact hfinished
    obtain ⟨result, hresult, hended, hdecides⟩ := hmove.decides hfinished
    obtain ⟨record, hhistory, hsymbol, hplays⟩ := hmove.plays
    have hholder : u.holder record.symbol = p := by
      rw [← GameState.holder_of_resolve hplays.player]
      cases record.symbol
      · exact hmove.playerX
      · exact hmove.playerO
    have hhandles : s.Handles i ⟨id, .makeMove r u.gameId position⟩ (u.holder record.symbol) := by
      rw [hholder, hmove.gameId, hid]
      exact hcause.moves ha
    have hlast : u.moveHistory.getLast? = some record := by rw [hhistory, List.getLast?_concat]
    rw [← hsymbol] at hdecides
    exact ⟨result, hresult, hended, .move hhandles hlast hdecides⟩
  | @forfeit p room ha hroom hslot =>
    refine ⟨_, rfl, rfl, ?_⟩
    have hholds : (s.view r).Holds p := by
      rw [RoomView.holds_iff, RoomView.slotOf_of_room hroom]
      exact hslot
    obtain ⟨x, hx⟩ : ∃ x, resolveSymbol state p = some x := by
      rcases (hs.seated r).player hstate hactive hholds with rfl | rfl
      · exact ⟨.X, by simp [resolveSymbol]⟩
      · by_cases heq : state.playerO = state.playerX
        · exact ⟨.X, by simp [resolveSymbol, heq]⟩
        · exact ⟨.O, by simp [resolveSymbol, heq]⟩
    obtain ⟨id, hleave⟩ : ∃ id, s.Handles i ⟨id, .leaveRoom r⟩ p := by
      rcases ha with rfl | rfl
      · exact hcause
      · exact hcause.2
    have hholder : (TicTacToe.forfeit state ⟨p, s.now⟩).newState.holder x = p := by
      rw [← GameState.holder_of_resolve hx]
      cases x <;> rfl
    exact .leave (hholder.symm ▸ hleave) ⟨rfl, congrArg (Option.map opponent) hx⟩
  | abandon ha =>
    subst ha
    obtain ⟨diskFails, rfl⟩ := hcause
    obtain ⟨sends, hstep, -⟩ := hacts.step
    obtain ⟨timer, htimer, hdue⟩ := hstep.window_due
    exact ⟨_, rfl, rfl, .window rfl htimer hdue ⟨rfl, rfl⟩⟩

end Server

open Server

/-- Every record in the history of a room's game is that of a valid position in a `MAKE_MOVE` for this game, processed at
the time of the record with a session of the player who holds its symbol. -/
theorem moves_authentic {G : IdSource} {C : Server → Input → Prop} {now : Millis} {version : String}
    {repository : HistoryRepository} {s : Server} {r : RoomId} {state : GameState} {record : MoveRecord}
    (hrun : Runs G C (start now version repository) s) (hstate : s.gameState r = some state)
    (hrecord : record ∈ state.moveHistory) :
    ∃ u i t id position, Runs G C (start now version repository) u ∧ C u i ∧ u.step G i = some t ∧ Runs G C t s ∧
      u.Handles i ⟨id, .makeMove r state.gameId position⟩ (state.holder record.symbol) ∧
      isValidPosition position.row position.col = true ∧
      record.position = ⟨toBoardIndex position.row, toBoardIndex position.col⟩ ∧ record.appliedAt = u.now := by
  obtain ⟨u, i, t, hu, hc, hstep, ht, hold, hnew⟩ :=
    hrun.brought_about (P := fun s => (s.view r).HasMove state.asStart record) (by rintro ⟨state, hstate, -⟩; cases hstate)
      ⟨state, hstate, rfl, hrecord⟩
  have hk := runs_keyed (start_keyed now version repository) hu
  rcases step_game hk hstep r with hview | ⟨a, sends, hacts, hcause, -, hgame⟩
  · rw [hview] at hnew
    exact absurd hnew hold
  · obtain ⟨before, p, id, position, ha, hbefore, hsame, hplays⟩ := hgame.played hold hnew
    have hholder : state.holder record.symbol = p := by
      rw [← GameState.holder_of_resolve hplays.player]
      simp only [GameState.asStart, GameStart.mk.injEq] at hsame
      cases record.symbol
      · exact hsame.2.2.1.symm
      · exact hsame.2.2.2.symm
    exact ⟨u, i, t, id, position, hu, hc, hstep, ht.mono fun _ _ h => h.1, hholder ▸ hcause.moves ha, hplays.valid,
      hplays.cell, hplays.time⟩

/-- The moves of the game that player 1 has won. -/
theorem moves_authentic_won : ∃ s state record, Runs tallies (fun _ _ => True) fresh s ∧
    s.gameState (tally 'r' 4) = some state ∧ record ∈ state.moveHistory ∧ ∃ u i id position,
      Server.Handles u i ⟨id, .makeMove (tally 'r' 4) state.gameId position⟩ (state.holder record.symbol) ∧
      record.appliedAt = u.now := by
  have hcheck : (Transition.run (step tallies) (fun _ _ => true) fresh won).any (fun s =>
      (s.gameState (tally 'r' 4)).any fun state => !state.moveHistory.isEmpty) = true := by decide +kernel
  obtain ⟨s, hrun, hs⟩ := Transition.exists_run (C := fun _ _ => True) (fun _ _ _ => trivial) hcheck
  obtain ⟨state, hstate, hmoves⟩ := (Option.any_eq_true _ _).mp hs
  cases hhistory : state.moveHistory with
  | nil =>
    rw [hhistory] at hmoves
    cases hmoves
  | cons record history =>
    have hrecord : record ∈ state.moveHistory := by simp [hhistory]
    obtain ⟨u, i, t, id, position, -, -, -, -, hmove, -, -, htime⟩ := moves_authentic hrun hstate hrecord
    exact ⟨s, state, record, hrun, hstate, hrecord, u, i, id, position, hmove, htime⟩

/-- Every finished game has been ended at the time in its result by the last move of its history, made by its player, by
a `LEAVE_ROOM` of the player who loses it, or by a reconnect window that was due. -/
theorem results_authentic {G : IdSource} (hn : G.NeverRepeats) {C : Server → Input → Prop} {now : Millis}
    {version : String} {repository : HistoryRepository} {s : Server} {r : RoomId} {state : GameState}
    (hrun : Runs G C (start now version repository) s) (hstate : s.gameState r = some state)
    (hfinished : state.status = .finished) :
    ∃ result u i t, state.result = some result ∧ Runs G C (start now version repository) u ∧ C u i ∧
      u.step G i = some t ∧ Runs G C t s ∧ result.endedAt = u.now ∧ u.EndedBy i r state result := by
  obtain ⟨u, i, t, hu, hc, hstep, ht, hold, hnew⟩ :=
    hrun.brought_about (P := fun s => (s.view r).state = some state) (by simp [view, RoomView.state, start]) hstate
  have hs := runs_seats hn hu
  rcases step_game hs.keyed hstep r with hview | ⟨a, sends, hacts, hcause, -, hgame⟩
  · rw [hview] at hnew
    exact absurd hnew hold
  · obtain ⟨before, hbefore, hactive, hend⟩ := hgame.finishes hnew hfinished hold
    obtain ⟨result, hresult, hended, hendedBy⟩ := hacts.endedBy hs hcause hbefore hactive hend
    exact ⟨result, u, i, t, hresult, hu, hc, hstep, ht.mono fun _ _ h => h.1, hended, hendedBy⟩

/-- The end of the game that player 1 has won. -/
theorem results_authentic_won : ∃ s state result, Runs tallies (fun _ _ => True) fresh s ∧
    s.gameState (tally 'r' 4) = some state ∧ state.result = some result ∧
    ∃ u i, Server.EndedBy u i (tally 'r' 4) state result := by
  have hcheck : (Transition.run (step tallies) (fun _ _ => true) fresh won).any (fun s =>
      (s.gameState (tally 'r' 4)).any fun state => state.status = .finished) = true := by decide +kernel
  obtain ⟨s, hrun, hs⟩ := Transition.exists_run (C := fun _ _ => True) (fun _ _ _ => trivial) hcheck
  obtain ⟨state, hstate, hfinished⟩ := (Option.any_eq_true _ _).mp hs
  obtain ⟨result, u, i, t, hresult, -, -, -, -, -, hended⟩ :=
    results_authentic tallies_neverRepeats hrun hstate (of_decide_eq_true hfinished)
  exact ⟨s, state, result, hrun, hstate, hresult, u, i, hended⟩

end TicTacToe
