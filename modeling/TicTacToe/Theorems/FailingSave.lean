import TicTacToe.Theorems.GameStep
import TicTacToe.Theorems.Processing

/-! # A save that fails

A game that ends is saved before its end is announced. When the save throws, the state is finished, and nothing that
comes after the save in the code takes place. -/

namespace TicTacToe

namespace GameSession
variable {gs : GameSession} {now : Millis} {repository : HistoryRepository} {diskFails : Bool} {p : PlayerId}

/-- The effect of a method whose save has thrown: the game has ended, and its end is not announced. -/
structure Unannounced (e : GameEffect) : Prop where
  finished : e.session.gameState.any (·.status = .finished) = true
  silent : finishedGames e.sends = []

theorem Ending.unannounced {t : GameState} {result : GameResult} {e : GameEffect}
    (h : Ending gs repository diskFails p t result e) (hthrew : e.threw = true) (hstate : gs.gameState = some t)
    (hfinished : t.status = .finished) : Unannounced e := by
  refine ⟨?_, ?_⟩
  · rw [h.fields.2.1, hstate]
    simp [hfinished]
  · cases h with
    | known | recorded => cases hthrew
    | failed => rfl

theorem handleEnd_unannounced (outcome : GameOutcome) (reason : GameEndReason)
    (hthrew : (gs.handleEnd repository diskFails p fun state => endGame state outcome reason p now).threw = true) :
    Unannounced (gs.handleEnd repository diskFails p fun state => endGame state outcome reason p now) := by
  rcases handleEnd_cases gs repository diskFails p outcome reason now with ⟨-, he⟩ | ⟨state, result, -, -, -, he⟩
  · rw [he] at hthrew
    cases hthrew
  · exact he.unannounced hthrew rfl rfl

theorem handleMove_unannounced {gameId : GameId} {position : RawPosition} {commandId : CommandId}
    (hthrew : (gs.handleMove now repository diskFails p gameId position commandId).threw = true) :
    Unannounced (gs.handleMove now repository diskFails p gameId position commandId).toGameEffect := by
  have hm := handleMove_moving gs now repository diskFails p gameId position commandId
  generalize gs.handleMove now repository diskFails p gameId position commandId = o at hm hthrew
  cases hm with
  | refused | rejected | continued => cases hthrew
  | @finished state t made ended result e hstate hid hmove hresult he =>
    have hfinished : t.status = .finished := by
      rcases hmove.outcome with ⟨-, -, -, h⟩ | ⟨_, h, -⟩
      · cases h
      · exact h
    have h := he.unannounced hthrew (announced_same _ _ _ _ _ _).gameState hfinished
    refine ⟨h.finished, ?_⟩
    rw [finishedGames, List.filterMap_append]
    exact h.silent

theorem expireReconnectWindow_unannounced
    (hthrew : (gs.handleAbandon now repository diskFails p).threw = true) (symbol : Option PlayerSymbol) :
    (gs.expireReconnectWindow now repository diskFails p symbol).threw = true ∧
      Unannounced (gs.expireReconnectWindow now repository diskFails p symbol) := by
  rcases expireReconnectWindow_cases gs now repository diskFails p symbol with ⟨-, he⟩ | ⟨h, -, -⟩ | ⟨_, h, -, -⟩
  · rw [he]
    exact ⟨hthrew, handleEnd_unannounced _ _ hthrew⟩
  · rw [hthrew] at h
    cases h
  · rw [hthrew] at h
    cases h

end GameSession

namespace Server
variable {s t x : Server} {G : IdSource} {r : RoomId}

/-- The steps that end the running game of room `r` while the save of the completed game throws, with the player
whose slot is to be freed and the command that is to be answered. -/
inductive FailingEnd (G : IdSource) (s t : Server) (r : RoomId) : Option PlayerId → Option CommandId → Prop
  | move {i : Input} {p : PlayerId} {id : CommandId} {gameId : GameId} {position : RawPosition} {room : RoomRecord}
    {gs : GameSession} (h : s.Handles i ⟨id, .makeMove r gameId position⟩ p) (hroom : s.getRoom r = some room)
    (hgame : s.gameSessions.get r = some gs)
    (hthrew : (gs.handleMove s.now s.historyRepository i.diskFails p gameId position id).threw = true)
    (hstep : s.step G i = some t) : FailingEnd G s t r none (some id)
  | leave {i : Input} {p : PlayerId} {id : CommandId} {room : RoomRecord} {gs : GameSession}
    (h : s.Handles i ⟨id, .leaveRoom r⟩ p) (hroom : s.getRoom r = some room)
    (hslot : getSlotByPlayerId room p ≠ none) (hgame : s.gameSessions.get r = some gs)
    (hthrew : (gs.handleForfeit s.now s.historyRepository i.diskFails p).threw = true)
    (hstep : s.step G i = some t) : FailingEnd G s t r (some p) (some id)
  /-- The callback of a timer runs outside the exception boundary: the process ends in `t`. -/
  | window {p : PlayerId} {gs : GameSession} {timer : ReconnectTimer} {diskFails : Bool}
    (hgame : s.gameSessions.get r = some gs) (htimer : gs.reconnectTimers.get p = some timer)
    (hdue : timer.deadline ≤ s.now)
    (hthrew : (gs.handleAbandon s.now s.historyRepository diskFails p).threw = true)
    (ht : t = (s.fireReconnectWindow r gs p timer diskFails).1) : FailingEnd G s t r (some p) none

/-- The game of room `r` is in the given status. -/
def inStatus (s : Server) (r : RoomId) (status : GameStatus) : Bool := (s.gameState r).any (·.status = status)

/-- The step from `s` to `t` has announced the end of a game to room `r`. -/
def AnnouncesEnd (s t : Server) (r : RoomId) : Prop :=
  ∃ calls, t.sendLog = s.sendLog ++ calls.map (r, ·) ∧ finishedGames calls ≠ []

/-- The end of the game is not swallowed: the game still runs, or its end has been announced, the slot of the player who
goes is free and the command has its response. -/
def EndSurvives (s t : Server) (r : RoomId) (leaver : Option PlayerId) (command : Option CommandId) : Prop :=
  t.inStatus r .active = true ∨
    t.inStatus r .finished = true ∧ AnnouncesEnd s t r ∧
      (∀ p room, leaver = some p → t.getRoom r = some room → getSlotByPlayerId room p = none) ∧
      ∀ id, command = some id → t.cached id ≠ none

/-- The end of the game is swallowed: the game is finished, and all the rest is as if nothing had happened. -/
structure EndSwallowed (s t : Server) (r : RoomId) (command : Option CommandId) : Prop where
  finished : t.inStatus r .finished = true
  silent : ∃ calls, t.sendLog = s.sendLog ++ calls.map (r, ·) ∧ finishedGames calls = []
  slots : t.getRoom r = s.getRoom r
  unanswered : ∀ id, command = some id → t.cached id = none

theorem EndSwallowed.not_survives {leaver : Option PlayerId} {command : Option CommandId}
    (h : EndSwallowed s t r command) : ¬EndSurvives s t r leaver command := by
  rintro (hactive | ⟨-, ⟨calls, hlog, hannounced⟩, -, -⟩)
  · obtain ⟨state, hstate, hfinished⟩ := (Option.any_eq_true _ _).mp h.finished
    obtain ⟨state', hstate', hactive⟩ := (Option.any_eq_true _ _).mp hactive
    obtain rfl := Option.some.inj (hstate.symm.trans hstate')
    simp only [decide_eq_true_eq] at hfinished hactive
    rw [hfinished] at hactive
    cases hactive
  · obtain ⟨calls', hlog', hsilent⟩ := h.silent
    have hsame := List.append_cancel_left (hlog.symm.trans hlog')
    have hcalls : calls = calls' := List.map_injective_iff.mpr (fun _ _ h => (Prod.mk.inj h).2) hsame
    exact hannounced (hcalls ▸ hsilent)

/-- What an unannounced end leaves behind. -/
theorem swallowed_of_effect {e : GameEffect} {command : Option CommandId} (hx : Quiet s x)
    (ht : Quiet (x.applyEffect r e) t) (he : GameSession.Unannounced e)
    (hcommand : ∀ id, command = some id → s.cached id = none) : EndSwallowed s t r command where
  finished := by
    have hgame : (x.applyEffect r e).gameSessions.get r = some e.session := by
      refine (congrArg RoomView.game (view_applyEffect x r r e)).trans ?_
      rw [if_pos rfl]
    rw [inStatus, gameState, ht.gameSessions, hgame]
    exact he.finished
  silent := by
    refine ⟨e.sends, ?_, he.silent⟩
    rw [ht.sendLog, ← hx.sendLog]
    simp [applyEffect, applyEmitted, putGame]
  slots := (ht.getRoom r).trans ((getRoom_applyEffect x r r e).trans (hx.getRoom r))
  unanswered id hid := by
    have hsame : (x.applyEffect r e).cached id = x.cached id :=
      cached_of_sessions (by simp [applyEffect, applyEmitted, putGame]) (by simp [applyEffect, applyEmitted, putGame]) id
    exact (ht.cached id).trans (hsame.trans ((hx.cached id).trans (hcommand id hid)))

/-- The router answers the exception of a handler with an error and nothing else. -/
theorem swallowed_of_thrown {c : ConnectionId} {id : CommandId} {e : GameEffect} (hx : Quiet s x)
    (hcached : s.cached id = none) (he : GameSession.Unannounced e)
    (ht : t = conclude G c id ⟨x.applyEffect r e, [], true⟩) : EndSwallowed s t r (some id) := by
  have hlast := conclude_quiet G c id ⟨x.applyEffect r e, [], true⟩
  rw [← ht] at hlast
  refine swallowed_of_effect hx hlast he fun id' hid => ?_
  obtain rfl := Option.some.inj hid
  exact hcached

theorem FailingEnd.swallowed {leaver : Option PlayerId} {command : Option CommandId}
    (h : FailingEnd G s t r leaver command) : EndSwallowed s t r command := by
  cases h with
  | @move i p id gameId position room gs h hroom hgame hthrew hstep =>
    obtain ⟨c, rec, token, htoken, hp, ht⟩ := h.step hstep
    have hq := (arrived_quiet s c rec).trans (afterLookup_quiet (s.arrived c rec) id)
    obtain ⟨session, hs, rfl⟩ := hp.session
    have hresult : (s.arrived c rec).dispatch G c rec ⟨id, .makeMove r gameId position⟩ i.diskFails =
        ⟨((s.arrived c rec).afterLookup id).applyEffect r
          (gs.handleMove s.now s.historyRepository i.diskFails session.playerId gameId position id).toGameEffect, [],
          true⟩ := by
      simp only [dispatch, htoken, handleMakeMove]
      rw [roomCommand_eq hs hp.uncached (((arrived_quiet s c rec).getRoom r).trans hroom)]
      simp only [hq.gameSessions, hgame, hq.now, hq.historyRepository, hthrew, ↓reduceIte]
    rw [hresult] at ht
    exact swallowed_of_thrown hq (((arrived_quiet s c rec).cached id).symm.trans hp.uncached)
      (GameSession.handleMove_unannounced hthrew) ht
  | @leave i p id room gs h hroom hslot hgame hthrew hstep =>
    obtain ⟨c, rec, token, htoken, hp, ht⟩ := h.step hstep
    have hq := (arrived_quiet s c rec).trans (afterLookup_quiet (s.arrived c rec) id)
    obtain ⟨session, hs, rfl⟩ := hp.session
    obtain ⟨slot, hslot⟩ := Option.ne_none_iff_exists'.mp hslot
    have hresult : (s.arrived c rec).dispatch G c rec ⟨id, .leaveRoom r⟩ i.diskFails =
        ⟨((s.arrived c rec).afterLookup id).applyEffect r
          (gs.handleForfeit s.now s.historyRepository i.diskFails session.playerId), [], true⟩ := by
      simp only [dispatch, htoken, handleLeaveRoom]
      rw [roomCommand_eq hs hp.uncached (((arrived_quiet s c rec).getRoom r).trans hroom)]
      simp only [hslot, hq.gameSessions, hgame, hq.now, hq.historyRepository, hthrew, ↓reduceIte]
    rw [hresult] at ht
    exact swallowed_of_thrown hq (((arrived_quiet s c rec).cached id).symm.trans hp.uncached)
      (GameSession.handleEnd_unannounced _ _ hthrew) ht
  | @window p gs timer diskFails hgame htimer hdue hthrew ht =>
    obtain ⟨hexpired, hunannounced⟩ := GameSession.expireReconnectWindow_unannounced hthrew timer.symbol
    have hfire : t = s.applyEffect r (gs.expireReconnectWindow s.now s.historyRepository diskFails p timer.symbol) := by
      rw [ht, fireReconnectWindow]
      simp only [hexpired, ↓reduceIte]
    refine swallowed_of_effect (.refl s) (hfire ▸ .refl _) hunannounced ?_
    rintro _ hid
    cases hid

/-- The same input in a moment in which the disk fails. -/
def failing : Input → Input
  | .frame c frame _ => .frame c frame true
  | .reconnectWindow r p _ => .reconnectWindow r p true
  | i => i

/-- A command is brought to its handler whether or not the disk fails. -/
theorem Handles.failing {i : Input} {command : Command} {p : PlayerId} (h : s.Handles i command p) :
    s.Handles (failing i) command p := by
  obtain ⟨c, rec, token, hrouted, htoken, hp⟩ := h
  obtain ⟨frame, diskFails, rfl, hsize, hparse⟩ := hrouted.frame
  exact ⟨c, rec, token, { hrouted with frame := ⟨frame, true, rfl, hsize, hparse⟩ }, htoken, hp⟩

end Server

open Server

/-- Whenever the save throws at the end of a game, the end is swallowed: the game is finished and nobody is told. This
is so in every state, reachable or not. -/
theorem failing_save_swallows_end {G : IdSource} {s t : Server} {r : RoomId} {leaver : Option PlayerId}
    {command : Option CommandId} (hfail : FailingEnd G s t r leaver command) :
    ¬EndSurvives s t r leaver command ∧ EndSwallowed s t r command :=
  ⟨hfail.swallowed.not_survives, hfail.swallowed⟩

/-- Player 3 has been away for longer than the reconnect window, and the disk fails when the game is abandoned. -/
theorem failing_save_swallows_end_window : ∃ s t, Runs tallies (fun _ _ => True) fresh s ∧
    FailingEnd tallies s t (tally 'r' 4) (some (tally 'p' 3)) none ∧ EndSwallowed s t (tally 'r' 4) none := by
  have hcheck : (Transition.run (step tallies) (fun _ _ => true) fresh
      (opening ++ [.socketClosed (tally 'c' 2), .tick 300000])).any (fun s =>
      (s.gameSessions.get (tally 'r' 4)).any fun gs => (gs.reconnectTimers.get (tally 'p' 3)).any fun timer =>
        timer.deadline ≤ s.now && (gs.handleAbandon s.now s.historyRepository true (tally 'p' 3)).threw) = true := by
    decide +kernel
  obtain ⟨s, hrun, hs⟩ := Transition.exists_run (C := fun _ _ => True) (fun _ _ _ => trivial) hcheck
  simp only [Option.any_eq_true, Bool.and_eq_true, decide_eq_true_eq] at hs
  obtain ⟨gs, hgame, timer, htimer, hdue, hthrew⟩ := hs
  have hfail : FailingEnd tallies s _ (tally 'r' 4) (some (tally 'p' 3)) none := .window hgame htimer hdue hthrew rfl
  exact ⟨s, _, hrun, hfail, (failing_save_swallows_end hfail).2⟩

/-- Player 1 makes the winning move while the disk fails: `MOVE_ACK` and `MOVE_BROADCAST` are sent, the game is finished,
and `GAME_FINISHED` never comes. -/
theorem winning_move_swallowed : ∃ s t, Runs tallies (fun _ _ => True) fresh s ∧
    FailingEnd tallies s t (tally 'r' 4) none (some "move5") ∧
    ¬EndSurvives s t (tally 'r' 4) none (some "move5") := by
  have hcheck : (Transition.run (step tallies) (fun _ _ => true) fresh won.dropLast).any (fun s =>
      s.asker 0 "move5" = some (tally 'p' 1) && (s.getRoom (tally 'r' 4)).isSome &&
        (s.gameSessions.get (tally 'r' 4)).any fun gs => (gs.handleMove s.now s.historyRepository true (tally 'p' 1)
          (tally 'g' 5) ⟨.ofNat 0, .ofNat 2⟩ "move5").threw) = true := by decide +kernel
  obtain ⟨s, hrun, hs⟩ := Transition.exists_run (C := fun _ _ => True) (fun _ _ _ => trivial) hcheck
  simp only [Option.any_eq_true, Bool.and_eq_true, decide_eq_true_eq, Option.isSome_iff_exists] at hs
  obtain ⟨⟨hasker, room, hroom⟩, gs, hgame, hthrew⟩ := hs
  have hfail : FailingEnd tallies s _ (tally 'r' 4) none (some "move5") :=
    .move (handles_of_asker hasker _).failing hroom hgame hthrew rfl
  exact ⟨s, _, hrun, hfail, hfail.swallowed.not_survives⟩

end TicTacToe
