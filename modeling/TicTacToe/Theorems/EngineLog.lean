import TicTacToe.Theorems.Processing
import TicTacToe.Theorems.Retries
import TicTacToe.Theorems.Starts

/-! # The server plays what it is told

What a room's game is follows from the starts that the room has been told of and from the commands and timers that
concern it, in the order of their steps: the server runs the engine on them. -/

namespace TicTacToe

/-- A call on the game of a room. -/
inductive EngineCall where
  | start (command : StartGameCommand)
  /-- A move in the game `gameId`. -/
  | move (gameId : GameId) (command : MakeMoveCommand)
  | forfeit (command : ForfeitCommand)
  | abandon (command : AbandonCommand)

namespace EngineCall

/-- What the engine makes of a call: a move is for the game that it names, and only a running game ends. -/
def perform (state : Option GameState) : EngineCall → Option GameState
  | start command => some (startGame command).newState
  | move gameId command =>
    state.map fun state => if state.gameId = gameId then (applyMove state command).newState else state
  | forfeit command =>
    state.map fun state => if state.status = .active then (TicTacToe.forfeit state command).newState else state
  | abandon command =>
    state.map fun state => if state.status = .active then (TicTacToe.abandon state command).newState else state

/-- The time that a call passes. -/
def timestamp : EngineCall → Millis
  | start command => command.timestamp
  | move _ command => command.timestamp
  | forfeit command => command.timestamp
  | abandon command => command.timestamp

/-- Whatever the engine does at time `now` keeps `P`. -/
structure Keeps (P : GameState → Prop) (now : Millis) : Prop where
  start : ∀ c : StartGameCommand, c.timestamp = now → P (startGame c).newState
  move : ∀ state c, P state → c.timestamp = now → P (applyMove state c).newState
  finish : ∀ state outcome reason p, P state → state.status = .active → P (endGame state outcome reason p now).newState

namespace Keeps
variable {P : GameState → Prop} {now : Millis} {before : Option GameState}

theorem perform (hP : Keeps P now) {call : EngineCall} (h : ∀ state, before = some state → P state)
    (hcall : call.timestamp = now) : ∀ state, EngineCall.perform before call = some state → P state := by
  intro state hstate
  cases call with
  | start c =>
    obtain rfl := Option.some.inj hstate
    exact hP.start c hcall
  | move g c =>
    obtain ⟨old, hold, rfl⟩ := Option.map_eq_some_iff.mp hstate
    split
    · exact hP.move old c (h old hold) hcall
    · exact h old hold
  | forfeit c | abandon c =>
    obtain ⟨old, hold, rfl⟩ := Option.map_eq_some_iff.mp hstate
    subst hcall
    split
    · rename_i hactive
      exact hP.finish old _ _ _ (h old hold) hactive
    · exact h old hold

theorem performs (hP : Keeps P now) {calls : List EngineCall} (h : ∀ state, before = some state → P state)
    (hcalls : ∀ call ∈ calls, call.timestamp = now) :
    ∀ state, calls.foldl EngineCall.perform before = some state → P state := by
  induction calls generalizing before with
  | nil => exact h
  | cons call calls ih =>
    obtain ⟨hcall, hcalls⟩ := List.forall_mem_cons.mp hcalls
    exact ih (hP.perform h hcall) hcalls

end Keeps
end EngineCall

/-- The call that starts an announced game. -/
def GameStart.call (game : GameStart) (r : RoomId) (now : Millis) : EngineCall :=
  .start ⟨game.gameId, r, game.playerX, game.playerO, game.firstTurn, now⟩

/-- The call that an action makes on a game that is there. -/
def RoomAction.call (now : Millis) : RoomAction → Option EngineCall
  | .moved p id gameId position => some (.move gameId ⟨p, position.row, position.col, id, now⟩)
  | .moveThrew p id gameId position => some (.move gameId ⟨p, position.row, position.col, id, now⟩)
  | .left p => some (.forfeit ⟨p, now⟩)
  | .leaveThrew p => some (.forfeit ⟨p, now⟩)
  | .windowFired p => some (.abandon ⟨p, now⟩)
  | _ => none

/-- The calls of an action that has sent `sends`. -/
def RoomAction.calls (now : Millis) (r : RoomId) (a : RoomAction) (sends : List SendCall) : List EngineCall :=
  (startedGames sends).map (GameStart.call · r now) ++ (a.call now).toList

/-! ### Methods of the session -/

namespace GameSession
variable {gs : GameSession} {now : Millis} {repository : HistoryRepository} {diskFails : Bool} {p : PlayerId}

theorem handleMove_performs (gs : GameSession) (now : Millis) (repository : HistoryRepository) (diskFails : Bool)
    (p : PlayerId) (gameId : GameId) (position : RawPosition) (commandId : CommandId) :
    (gs.handleMove now repository diskFails p gameId position commandId).session.gameState =
      EngineCall.perform gs.gameState (.move gameId ⟨p, position.row, position.col, commandId, now⟩) := by
  have hm := handleMove_moving gs now repository diskFails p gameId position commandId
  generalize gs.handleMove now repository diskFails p gameId position commandId = o at hm
  cases hm with
  | refused code detail h =>
    cases hstate : gs.gameState with
    | none => exact hstate
    | some state =>
      refine hstate.trans (congrArg some ?_)
      dsimp only
      split
      · rename_i hid
        rw [applyMove, if_pos (h state hstate hid)]
        rfl
      · rfl
  | @rejected state reason hstate hid hactive happly =>
    have hsame : (gs.nextSeq.emit .player p (gs.rejectedEvent state position commandId reason)).session.gameState =
        gs.gameState := (emit_same _ _ _ _).gameState
    rw [hsame, hstate]
    simp only [EngineCall.perform, Option.map_some, if_pos hid, happly, MakeMoveResult.newState]
  | @continued state t made hstate hid hmove =>
    have hsame := (announced_same { gs with gameState := some t } p gameId position commandId made).gameState
    rw [hsame, hstate, hmove.state]
    simp only [EngineCall.perform, Option.map_some, if_pos hid]
  | @finished state t made ended result e hstate hid hmove hresult he =>
    have hsame := (announced_same { gs with gameState := some t } p gameId position commandId made).gameState
    rw [he.fields.2.1, hsame, hstate, hmove.state]
    simp only [EngineCall.perform, Option.map_some, if_pos hid]

theorem handleEnd_performs (gs : GameSession) (repository : HistoryRepository) (diskFails : Bool) (p : PlayerId)
    (outcome : GameOutcome) (reason : GameEndReason) (now : Millis) :
    (gs.handleEnd repository diskFails p fun state => endGame state outcome reason p now).session.gameState =
      gs.gameState.map fun state =>
        if state.status = .active then (endGame state outcome reason p now).newState else state := by
  rcases handleEnd_cases gs repository diskFails p outcome reason now with
    ⟨hidle, he⟩ | ⟨state, result, hstate, hactive, -, he⟩
  · rw [he]
    cases hstate : gs.gameState with
    | none => rfl
    | some state =>
      have hnot : state.status ≠ .active := by simpa [isActive, hstate] using hidle
      rw [Option.map_some, if_neg hnot]
  · rw [he.fields.2.1, hstate, Option.map_some, if_pos hactive]

/-- After the abandonment the callback of a window leaves the game. -/
theorem expireReconnectWindow_performs (gs : GameSession) (now : Millis) (repository : HistoryRepository)
    (diskFails : Bool) (p : PlayerId) (symbol : Option PlayerSymbol) :
    (gs.expireReconnectWindow now repository diskFails p symbol).session.gameState =
      EngineCall.perform gs.gameState (.abandon ⟨p, now⟩) := by
  have hended := handleEnd_performs gs repository diskFails p .abandoned .playerAbandoned now
  rcases expireReconnectWindow_cases gs now repository diskFails p symbol with ⟨-, he⟩ | ⟨-, -, he⟩ | ⟨x, -, -, he⟩
  · rw [he]
    exact hended
  · rw [he]
    exact hended
  · rw [he]
    have hsame := (emit_same (gs.handleAbandon now repository diskFails p).session.nextSeq .broadcast p
      (makePlayerLeft (gs.handleAbandon now repository diskFails p).session.roomId p x .disconnectTimeout
        ((gs.handleAbandon now repository diskFails p).session.sessionSeq + 1))).gameState
    exact hsame.trans hended

/-- Starting a game performs the call of the start that is announced; without one the game stays. -/
theorem startGame_performs (gs : GameSession) (now : Millis) (gameId : GameId) (room : RoomRecord)
    (firstTurn : PlayerSymbol) :
    (gs.startGame now gameId room firstTurn).session.gameState =
      ((startedGames (gs.startGame now gameId room firstTurn).sends).map (GameStart.call · gs.roomId now)).foldl
        EngineCall.perform gs.gameState := by
  rcases startGame_cases gs now gameId room firstTurn with h | ⟨playerX, playerO, hX, hO, -⟩
  · rw [h]
    rfl
  · obtain ⟨hstate, hstarted⟩ := startGame_started gs now gameId firstTurn hX hO
    rw [hstate, hstarted]
    rfl

end GameSession

/-! ### Steps of a room -/

section Steps
variable {G : IdSource} {now : Millis} {r : RoomId} {lo hi : Nat} {v v' : RoomView} {a : RoomAction}
  {sends : List SendCall}

/-- An action that neither starts a game nor calls the engine leaves the game. -/
theorem GameStep.uncalled (h : GameStep G now r lo hi v a sends v') (hready : ∀ p, a ≠ .readied p)
    (haccept : ∀ p gameId, a ≠ .rematchAccepted p gameId) (hcall : a.call now = none) : v'.state = v.state := by
  have hends : ∀ state t, ¬EndsBy now v state a t := by
    intro state t hend
    cases hend with
    | move ha => rcases ha with rfl | rfl <;> cases hcall
    | forfeit ha => rcases ha with rfl | rfl <;> cases hcall
    | abandon ha =>
      subst ha
      cases hcall
  cases h with
  | same hstate => exact hstate
  | started hcause =>
    rcases hcause with ⟨p, room, ha, -⟩ | ⟨⟨p, gameId, ha⟩, -⟩
    · exact absurd ha (hready p)
    · exact absurd ha (haccept p gameId)
  | moved ha =>
    subst ha
    cases hcall
  | ended hend | failed hend => exact absurd hend (hends _ _)

/-- A step of a room makes the calls of its action on the room's game. -/
theorem RoomStep.performs (h : RoomStep G now r lo hi v a sends v') (hk : ∀ gs, v.game = some gs → gs.roomId = r) :
    v'.state = (a.calls now r sends).foldl EngineCall.perform v.state := by
  have hgame := h.gameStep hk
  -- The starts of games.
  have hstart : ∀ (gs : GameSession) (n : Nat) (room : RoomRecord) (firstTurn : PlayerSymbol), gs.roomId = r →
      gs.gameState = v.state → v'.game = some (gs.startGame now (G.gameId n) room firstTurn).session → a.call now = none →
      v'.state = (a.calls now r (gs.startGame now (G.gameId n) room firstTurn).sends).foldl EngineCall.perform v.state := by
    intro gs n room firstTurn hr hstate hgame' hcall
    have hperforms := gs.startGame_performs now (G.gameId n) room firstTurn
    rw [hr, hstate] at hperforms
    rw [RoomAction.calls, hcall, RoomView.state_of_game hgame', hperforms]
    simp only [Option.toList_none, List.append_nil]
  by_cases hready : ∃ p, a = .readied p
  · obtain ⟨p, rfl⟩ := hready
    cases h with
    | readiedAgain hroom hsymbol hready => exact RoomView.bump_gameState v r 0
    | @readied p room symbol k hroom hsymbol hready hboth => exact RoomView.bump_gameState v r k
    | @startedReady p room symbol k n hroom hcount hsymbol hready hboth hlo hhi =>
      refine hstart _ n _ _ ?_ (RoomView.bump_gameState v r k) rfl rfl
      cases hv : v.game with
      | none => simp only [RoomView.gameOrNew, hv]; rfl
      | some gs =>
        simp only [RoomView.gameOrNew, hv]
        exact hk gs hv
  by_cases haccept : ∃ p gameId, a = .rematchAccepted p gameId
  · obtain ⟨p, gameId, rfl⟩ := haccept
    cases h with
    | @rematchAccepted p room gs gameId unused n hroom hgs hlo hhi =>
      have hstate := RoomView.state_of_game hgs
      rcases GameSession.handleRematchAccept_cases gs now (unused, G.gameId n) room p gameId with
        h | ⟨state, proposal, symbol, -, -, -, -, -, ⟨-, h⟩ | ⟨-, h⟩⟩
      · rw [h]
        exact hstate.symm
      · rw [h]
        exact hstate.symm
      · generalize gs.handleRematchAccept now (unused, G.gameId n) room p gameId = outcome at h hstart ⊢
        subst h
        exact hstart { gs with rematch := none } n room.resetReady _ (hk gs hgs) hstate.symm rfl rfl
  -- No other action starts a game.
  have hready' : ∀ p, a ≠ .readied p := fun p ha => hready ⟨p, ha⟩
  have haccept' : ∀ p gameId, a ≠ .rematchAccepted p gameId := fun p gameId ha => haccept ⟨p, gameId, ha⟩
  have hnone : startedGames sends = [] := by
    refine startedGames_nil h.sendsOnly fun _ _ _ _ _ => ?_
    cases a with
    | readied p => exact absurd rfl (hready' p)
    | rematchAccepted p gameId => exact absurd rfl (haccept' p gameId)
    | _ => rfl
  rw [RoomAction.calls, hnone, List.map_nil, List.nil_append]
  cases hcall : a.call now with
  | none => exact hgame.uncalled hready' haccept' hcall
  | some call =>
    cases h with
    | moved hroom hgs hload hthrew | moveThrew hroom hgs hload hthrew =>
      obtain rfl := Option.some.inj hcall
      rw [RoomView.state_of_game hgs]
      exact GameSession.handleMove_performs _ _ _ _ _ _ _ _
    | left hroom hslot hgs hload hthrew | leaveThrew hroom hslot hgs hload hthrew =>
      obtain rfl := Option.some.inj hcall
      rw [RoomView.state_of_game hgs]
      exact GameSession.handleEnd_performs _ _ _ _ .forfeit .playerForfeited _
    | leftIdleRoom hroom hslot hgs =>
      obtain rfl := Option.some.inj hcall
      simp only [RoomView.state, hgs]
      rfl
    | windowFired hgs htimer hdue hload hroom hthrew =>
      obtain rfl := Option.some.inj hcall
      rw [RoomView.state_of_game hgs]
      exact GameSession.expireReconnectWindow_performs _ _ _ _ _ _
    | _ => cases hcall

/-- Only a session makes moves. -/
theorem RoomStep.moved_game {p : PlayerId} {id : CommandId} {g : GameId} {position : RawPosition}
    (h : RoomStep G now r lo hi v a sends v') (ha : a = .moved p id g position ∨ a = .moveThrew p id g position) :
    v.game ≠ none := by
  cases h with
  | moved hroom hgs | moveThrew hroom hgs => simp [hgs]
  | _ => rcases ha with ha | ha <;> cases ha

/-- Only a slot holder leaves. -/
theorem RoomStep.left_slot {p : PlayerId} (h : RoomStep G now r lo hi v a sends v') (ha : a = .left p ∨ a = .leaveThrew p) :
    ∃ room, v.room = some room ∧ getSlotByPlayerId room p ≠ none := by
  cases h with
  | leftIdleRoom hroom hslot | left hroom hslot =>
    obtain rfl := RoomAction.left.inj (ha.resolve_right (by simp))
    exact ⟨_, hroom, hslot⟩
  | leaveThrew hroom hslot =>
    obtain rfl := RoomAction.leaveThrew.inj (ha.resolve_left (by simp))
    exact ⟨_, hroom, hslot⟩
  | _ => rcases ha with ha | ha <;> cases ha

end Steps

/-! ### Steps of the server -/

namespace Server
variable {s t : Server} {G : IdSource} {i : Input} {r : RoomId} {p : PlayerId}

/-- A processed `MAKE_MOVE` for a live room is made by the room's session, if there is one. -/
theorem Handles.moves {id : CommandId} {g : GameId} {position : RawPosition} (hk : s.Keyed)
    (h : s.Handles i ⟨id, .makeMove r g position⟩ p) (hstep : s.step G i = some t) (hroom : (s.getRoom r).isSome = true) :
    (Acts G s t r (.moved p id g position) ∨ Acts G s t r (.moveThrew p id g position)) ∨
      s.gameSessions.get r = none ∧ Unmoved s t := by
  obtain ⟨room, hroom⟩ := Option.isSome_iff_exists.mp hroom
  cases hgame : s.gameSessions.get r with
  | none =>
    rcases h.acts hk rfl hstep with hstill | ⟨r', a, hne, hacts, hcommanded⟩
    · exact Or.inr ⟨rfl, hstill.unmoved⟩
    · have hmoved : r' = r ∧ (a = .moved p id g position ∨ a = .moveThrew p id g position) := by
        cases a <;> simp [RoomAction.Commanded] at hne hcommanded ⊢
        · grind
        · grind
      obtain ⟨rfl, hmoved⟩ := hmoved
      obtain ⟨sends, hroomStep, -⟩ := hacts.step
      exact absurd hgame (hroomStep.moved_game hmoved)
  | some gs =>
    obtain ⟨c, rec, token, htoken, hp, ht⟩ := h.step hstep
    have hq := arrived_quiet s c rec
    have hdispatch : (s.arrived c rec).dispatch G c rec ⟨id, .makeMove r g position⟩ i.diskFails =
        (s.arrived c rec).handleMakeMove c id r g position token i.diskFails := by
      simp only [dispatch, htoken]
    obtain ⟨session, hs, rfl⟩ := hp.session
    have hanswers : Answers ((s.arrived c rec).handleMakeMove c id r g position token i.diskFails) := by
      have hget : ((s.arrived c rec).afterLookup id).gameSessions.get r = some gs := by
        rw [← hgame, ← hq.gameSessions]
        rfl
      unfold handleMakeMove
      rw [roomCommand_eq hs hp.uncached ((hq.getRoom r).trans hroom)]
      simp only [hget]
      split
      · exact Or.inl rfl
      · split
        · exact Or.inr fun _ _ _ hd => by cases hd
        · exact Or.inr fun _ _ _ hd => by cases hd
    have hdone := (handleMakeMove_handling (G := G) (hk.arrived c rec) c id r g position token i.diskFails).done hp hanswers
    rw [hdispatch] at ht
    exact Or.inl (hdone.1.imp (fun h => h.2.of_arrived ht) fun h => h.2.of_arrived ht)

/-- The call that input `i` makes on the game of room `r`. -/
def commandedCall (s : Server) (r : RoomId) (i : Input) : Option EngineCall :=
  match i, s.processed i with
  | .reconnectWindow r' p _, _ => if r' = r then some (.abandon ⟨p, s.now⟩) else none
  | _, some (⟨id, .makeMove r' gameId position⟩, p) =>
    if r' = r ∧ (s.getRoom r).isSome = true then some (.move gameId ⟨p, position.row, position.col, id, s.now⟩) else none
  | _, some (⟨_, .leaveRoom r'⟩, p) =>
    if r' = r ∧ (s.getRoom r).any (fun room => (getSlotByPlayerId room p).isSome) = true then some (.forfeit ⟨p, s.now⟩)
    else none
  | _, _ => none

/-- What is observed of a step from `s` to `t`: the games whose start is announced in room `r`, and the call that the
input makes there. -/
def engineCalls (r : RoomId) (s : Server) (i : Input) (t : Server) : List EngineCall :=
  ((t.starts r).drop (s.starts r).length).map (GameStart.call · r s.now) ++ (s.commandedCall r i).toList

/-- A room's action makes the calls that are observed of the step. -/
theorem Acts.performs {a : RoomAction} (hacts : Acts G s t r a) (hk : s.Keyed)
    (hcall : s.commandedCall r i = a.call s.now) :
    t.gameState r = (s.engineCalls r i t).foldl EngineCall.perform (s.gameState r) := by
  obtain ⟨sends, hstep, hlog⟩ := hacts.step
  have hperforms := hstep.performs (hk.view r)
  rw [view_state, view_state] at hperforms
  rw [hperforms, engineCalls, starts_append hlog, List.drop_left, hcall]
  rfl

/-- The input of a commanded call. -/
theorem commandedCall_eq_some {call : EngineCall} (h : s.commandedCall r i = some call) :
    (∃ p diskFails, i = .reconnectWindow r p diskFails ∧ call = .abandon ⟨p, s.now⟩) ∨
    (∃ id g position p, s.Handles i ⟨id, .makeMove r g position⟩ p ∧ (s.getRoom r).isSome = true ∧
      call = .move g ⟨p, position.row, position.col, id, s.now⟩) ∨
    ∃ id p room, s.Handles i ⟨id, .leaveRoom r⟩ p ∧ s.getRoom r = some room ∧ getSlotByPlayerId room p ≠ none ∧
      call = .forfeit ⟨p, s.now⟩ := by
  unfold commandedCall at h
  split at h
  · split at h
    · rename_i hr
      subst hr
      exact Or.inl ⟨_, _, rfl, (Option.some.inj h).symm⟩
    · cases h
  · rename_i hprocessed
    split at h
    · rename_i hlive
      obtain ⟨rfl, hlive⟩ := hlive
      exact Or.inr (Or.inl ⟨_, _, _, _, handles_of_processed hprocessed, hlive, (Option.some.inj h).symm⟩)
    · cases h
  · rename_i hprocessed
    split at h
    · rename_i hheld
      obtain ⟨rfl, hheld⟩ := hheld
      obtain ⟨room, hroom, hslot⟩ := (Option.any_eq_true _ _).mp hheld
      exact Or.inr (Or.inr ⟨_, _, room, handles_of_processed hprocessed, hroom, Option.isSome_iff_ne_none.mp hslot,
        (Option.some.inj h).symm⟩)
    · cases h
  · cases h

theorem Handles.commandedCall_move {id : CommandId} {g : GameId} {position : RawPosition}
    (h : s.Handles i ⟨id, .makeMove r g position⟩ p) (hlive : (s.getRoom r).isSome = true) :
    s.commandedCall r i = some (.move g ⟨p, position.row, position.col, id, s.now⟩) := by
  have hprocessed := h.processed rfl
  obtain ⟨c, rec, token, hrouted, -⟩ := h
  obtain ⟨frame, diskFails, rfl, -⟩ := hrouted.frame
  simp only [commandedCall, hprocessed, hlive, and_self, ↓reduceIte]

theorem Handles.commandedCall_leave {id : CommandId} {room : RoomRecord} (h : s.Handles i ⟨id, .leaveRoom r⟩ p)
    (hroom : s.getRoom r = some room) (hslot : getSlotByPlayerId room p ≠ none) :
    s.commandedCall r i = some (.forfeit ⟨p, s.now⟩) := by
  have hprocessed := h.processed rfl
  obtain ⟨c, rec, token, hrouted, -⟩ := h
  obtain ⟨frame, diskFails, rfl, -⟩ := hrouted.frame
  simp only [commandedCall, hprocessed, hroom, Option.any_some, Option.isSome_iff_ne_none.mpr hslot, and_self, ↓reduceIte]

/-- The call of an action is the one that its cause makes. -/
theorem Acts.commandedCall {a : RoomAction} {call : EngineCall} (hacts : Acts G s t r a) (hcause : s.Cause i r a)
    (hcall : a.call s.now = some call) : s.commandedCall r i = some call := by
  obtain ⟨sends, hstep, -⟩ := hacts.step
  have hleave : ∀ p, a = .left p ∨ a = .leaveThrew p → a.onLive = true → (∃ id, s.Handles i ⟨id, .leaveRoom r⟩ p) →
      s.commandedCall r i = some (.forfeit ⟨p, s.now⟩) := by
    rintro p ha hlive ⟨id, h⟩
    obtain ⟨room, hroom, hslot⟩ := hstep.left_slot ha
    obtain ⟨live, hlive⟩ := Option.isSome_iff_exists.mp (hacts.onLive hlive)
    obtain rfl := Option.some.inj (hroom.symm.trans (view_room_of_getRoom hlive))
    exact h.commandedCall_leave hlive hslot
  cases a with
  | moved p id g position =>
    obtain rfl := Option.some.inj hcall
    exact Handles.commandedCall_move hcause (hacts.onLive rfl)
  | moveThrew p id g position =>
    obtain rfl := Option.some.inj hcall
    exact Handles.commandedCall_move hcause.2 (hacts.onLive rfl)
  | left p =>
    obtain rfl := Option.some.inj hcall
    exact hleave p (Or.inl rfl) rfl hcause
  | leaveThrew p =>
    obtain rfl := Option.some.inj hcall
    exact hleave p (Or.inr rfl) rfl hcause.2
  | windowFired p =>
    obtain rfl := Option.some.inj hcall
    obtain ⟨diskFails, rfl⟩ := hcause
    simp only [Server.commandedCall, ↓reduceIte]
  | _ => cases hcall

/-- Every step makes the calls that are observed of it, on the game of every room. -/
theorem step_performs (hk : s.Keyed) (h : s.step G i = some t) (r : RoomId) :
    t.gameState r = (s.engineCalls r i t).foldl EngineCall.perform (s.gameState r) := by
  cases hcall : s.commandedCall r i with
  | some call =>
    rcases commandedCall_eq_some hcall with
      ⟨p, diskFails, rfl, rfl⟩ | ⟨id, g, position, p, hmove, hlive, rfl⟩ | ⟨id, p, room, hleave, hroom, hslot, rfl⟩
    · exact (reconnectWindow_acts hk h).performs hk hcall
    · rcases hmove.moves hk h hlive with (hacts | hacts) | ⟨hgame, hview, hlog⟩
      · exact hacts.performs hk hcall
      · exact hacts.performs hk hcall
      · have hnone : s.gameState r = none := by rw [gameState, hgame, Option.bind_none]
        have hstarts : t.starts r = s.starts r := by rw [starts, starts, hlog]
        rw [← view_state t, hview, view_state, engineCalls, hstarts, hcall, hnone, List.drop_length]
        rfl
    · rcases hleave.leaves hk h hroom hslot with hacts | hacts
      · exact hacts.performs hk hcall
      · exact hacts.performs hk hcall
  | none =>
    rcases step_view hk h r with hview | ⟨a, hacts, hcause⟩
    · have hstate : t.gameState r = s.gameState r := by rw [← view_state, hview, view_state]
      rcases step_starts hk h r with ⟨hstarts, -⟩ | ⟨state, hnew, hfirst, -⟩
      · rw [engineCalls, hstarts, hcall, hstate, List.drop_length]
        rfl
      · rw [← hstate, hnew] at hfirst
        exact absurd hfirst (readyFirstTurn_ne state)
    · refine hacts.performs hk (hcall.trans ?_)
      cases ha : a.call s.now with
      | none => rfl
      | some call =>
        have hsome := hacts.commandedCall hcause ha
        rw [hcall] at hsome
        cases hsome

/-! ### Properties of all games -/

/-- The calls of a step pass the clock. -/
theorem engineCalls_timestamp : ∀ call ∈ s.engineCalls r i t, call.timestamp = s.now := by
  intro call hcall
  rcases List.mem_append.mp hcall with hstart | hcommanded
  · obtain ⟨game, -, rfl⟩ := List.mem_map.mp hstart
    rfl
  · rcases commandedCall_eq_some (Option.mem_toList.mp hcommanded) with
      ⟨_, _, -, rfl⟩ | ⟨_, _, _, _, -, -, rfl⟩ | ⟨_, _, _, -, -, -, rfl⟩
    · rfl
    · rfl
    · rfl

/-- What the engine keeps, and time does not take away, holds of the games of all rooms in every run. -/
theorem runs_games {P : Millis → GameState → Prop} {C : Server → Input → Prop} {now : Millis} {version : String}
    {repository : HistoryRepository} (hkeeps : ∀ now, EngineCall.Keeps (P now) now)
    (hlater : ∀ {now now' state}, P now state → now ≤ now' → P now' state)
    (h : Runs G C (start now version repository) s) :
    s.Keyed ∧ ∀ r state, s.gameState r = some state → P s.now state := by
  refine h.invariant (P := fun s => s.Keyed ∧ ∀ r state, s.gameState r = some state → P s.now state)
    ⟨start_keyed now version repository, fun r state hstate => ?_⟩ fun s t i hs _ hstep => ?_
  · cases hstate
  · refine ⟨hs.1.step hstep, fun r state hstate => ?_⟩
    rw [step_performs hs.1 hstep r] at hstate
    exact hlater ((hkeeps s.now).performs (hs.2 r) engineCalls_timestamp state hstate) (now_le_step hs.1 hstep)

end Server

open Server

/-- In every state of every run a room's game is what the engine makes of the games whose start has been announced in
the room, the moves and leaves that have been processed and the windows that have fired, in the order of their steps.
Every such call takes effect, once, and nothing else does. -/
theorem server_plays_log {G : IdSource} {C : Server × List EngineCall → Input → Prop} {now : Millis} {version : String}
    {repository : HistoryRepository} {s : Server} {r : RoomId} {log : List EngineCall}
    (hrun : Transition.Runs (Transition.logged (step G) (engineCalls r)) C (start now version repository, []) (s, log)) :
    s.gameState r = log.foldl EngineCall.perform none :=
  hrun.eq_foldl (f := (gameState · r)) (start_keyed now version repository) (fun _ _ _ hk h => hk.step h)
    fun _ _ _ hk h => step_performs hk h r

/-- Player 1 wins the game of the opening: a start and five moves. -/
theorem server_plays_log_won : ∃ s log,
    Transition.Runs (Transition.logged (step tallies) (engineCalls (tally 'r' 4))) (fun _ _ => True) (fresh, []) (s, log) ∧
    log.length = 6 ∧ s.gameState (tally 'r' 4) = log.foldl EngineCall.perform none := by
  have hcheck : (Transition.run (Transition.logged (step tallies) (engineCalls (tally 'r' 4))) (fun _ _ => true) (fresh, [])
      won).any (fun x => x.2.length = 6) = true := by decide +kernel
  obtain ⟨⟨s, log⟩, hrun, hlength⟩ := Transition.exists_run (C := fun _ _ => True) (fun _ _ _ => trivial) hcheck
  exact ⟨s, log, hrun, of_decide_eq_true hlength, server_plays_log hrun⟩

end TicTacToe
