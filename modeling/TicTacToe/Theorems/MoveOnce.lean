import TicTacToe.Theorems.Retries

/-! # A move is applied at most once

After a move has been accepted its cell stays occupied for as long as the game is the room's game, and no later
game has the same id. -/

namespace TicTacToe

/-- A `MOVE_ACK`. -/
def RoomPayload.isMoveAck : RoomPayload → Bool
  | .moveAck .. => true
  | _ => false

theorem RoomPayload.roomState_of_isMoveAck {payload : RoomPayload} (h : payload.isMoveAck = true) :
    payload.roomState = none := by
  cases payload <;> first | rfl | cases h

/-- A `MOVE_ACK` for one player. -/
def SendCall.acksMove (call : SendCall) : Bool :=
  match call.target, call.event with
  | .player, .room event => event.payload.isMoveAck
  | _, _ => false

theorem EndsBy.extends {now : Millis} {v : RoomView} {state t : GameState} {a : RoomAction}
    (h : EndsBy now v state a t) : state.Extends t := by
  cases h with
  | move ha hid hmove =>
    have hstep : EngineStep state t := hmove.state ▸ .move _
    exact hstep.extends
  | forfeit => exact ⟨List.prefix_refl _, fun _ _ => rfl⟩
  | abandon => exact ⟨List.prefix_refl _, fun _ _ => rfl⟩

theorem AcceptedMove.extends {s t : GameState} {c : MakeMoveCommand} {made : MoveMade} {ended : Option GameEnded}
    (h : AcceptedMove s c t made ended) : s.Extends t := by
  have hstep : EngineStep s t := h.state ▸ .move c
  exact hstep.extends

namespace GameSession
variable {gs : GameSession} {now : Millis} {repository : HistoryRepository} {diskFails : Bool} {p q : PlayerId}
  {gameId : GameId} {position : RawPosition} {commandId : CommandId} {o : MoveOutcome} {ack : RoomEvent}
  {rest : List SendCall}

/-- A `MOVE_ACK` tells of an accepted move. -/
theorem Moving.accepted (h : Moving gs now repository diskFails p gameId position commandId o)
    (hsends : o.sends = ⟨.player, q, .room ack⟩ :: rest) (hack : ack.payload.isMoveAck = true) :
    ∃ state t made ended, gs.gameState = some state ∧ state.gameId = gameId ∧
      AcceptedMove state ⟨p, position.row, position.col, commandId, now⟩ t made ended ∧
      o.session.gameState = some t := by
  cases h with
  | refused code detail h =>
    have hevent : makeErrorEvent code detail true (some commandId) none = .room ack :=
      congrArg SendCall.event (List.cons.inj hsends).1
    cases hevent
  | @rejected state reason hstate hid hactive happly =>
    have hevent : Event.room (gs.rejectedEvent state position commandId reason) = .room ack :=
      congrArg SendCall.event (List.cons.inj hsends).1
    rw [← Event.room.inj hevent] at hack
    cases hack
  | @continued state t made hstate hid hmove =>
    refine ⟨state, t, made, none, hstate, hid, hmove, ?_⟩
    exact (announced_same _ _ _ _ _ _).gameState
  | @finished state t made ended result e hstate hid hmove hresult he =>
    refine ⟨state, t, made, some ended, hstate, hid, hmove, ?_⟩
    exact he.fields.2.1.trans (announced_same _ _ _ _ _ _).gameState

end GameSession

namespace Server
variable {s t u v : Server} {r r' : RoomId} {G : IdSource} {C : Server → Input → Prop} {c : ConnectionId}
  {commandId : CommandId} {token : SessionToken} {i : Input} {rec : ConnectionRecord} {p : PlayerId}
  {gameId : GameId} {position : RawPosition} {diskFails : Bool} {ack : RoomEvent}

/-! ### Games have the ids of earlier draws -/

/-- `gameId` is the game id of one of the draws so far. -/
def GameIssued (G : IdSource) (s : Server) (gameId : GameId) : Prop := ∃ k < s.nextId, gameId = G.gameId k

/-- Every game has the id of an earlier draw. -/
def GamesIssued (G : IdSource) (s : Server) : Prop := ∀ r state, s.gameState r = some state → s.GameIssued G state.gameId

theorem sendLog_grows (hk : s.Keyed) (h : s.step G i = some t) : ∃ sent, t.sendLog = s.sendLog ++ sent := by
  rcases step_acts hk h with ⟨elapsed, -, rfl⟩ | ⟨r, a, hacts, -⟩
  · exact ⟨[], (List.append_nil _).symm⟩
  · obtain ⟨sends, -, hlog⟩ := hacts.step
    exact ⟨_, hlog⟩

theorem GameIssued.step (hk : s.Keyed) (h : s.step G i = some t) (hissued : s.GameIssued G gameId) :
    t.GameIssued G gameId := by
  obtain ⟨k, hk', he⟩ := hissued
  exact ⟨k, Nat.lt_of_lt_of_le hk' (nextId_le_step hk h), he⟩

/-- A step keeps the id of a room's game or gives it the id of a new draw. -/
theorem step_gameId (hk : s.Keyed) (h : s.step G i = some t) {state' : GameState}
    (hstate' : t.gameState r = some state') :
    (∃ state, s.gameState r = some state ∧ state.gameId = state'.gameId ∧ state.Extends state') ∨
      ∃ k, s.nextId ≤ k ∧ k < t.nextId ∧ state'.gameId = G.gameId k := by
  rcases step_game hk h r with hview | ⟨a, sends, hacts, -, -, hgame⟩
  · exact Or.inl ⟨state', (congrArg RoomView.state hview).symm.trans hstate', rfl, .refl state'⟩
  · cases hgame with
    | same hsame => exact Or.inl ⟨state', hsame.symm.trans hstate', rfl, .refl state'⟩
    | started hcause hlo hhi hroom hX hO hnew =>
      obtain rfl := Option.some.inj (hnew.symm.trans hstate')
      exact Or.inr ⟨_, hlo, hhi, rfl⟩
    | moved ha hold hmove hnew =>
      obtain rfl := Option.some.inj (hnew.symm.trans hstate')
      exact Or.inl ⟨_, hold, hmove.gameId.symm, hmove.extends⟩
    | ended hend hold hactive hnew | failed hend hold hactive hnew =>
      obtain rfl := Option.some.inj (hnew.symm.trans hstate')
      exact Or.inl ⟨_, hold, hend.fields.1.symm, hend.extends⟩

theorem GamesIssued.step (hi : s.GamesIssued G) (hk : s.Keyed) (h : s.step G i = some t) : t.GamesIssued G := by
  intro r state' hstate'
  rcases step_gameId hk h hstate' with ⟨state, hstate, hid, -⟩ | ⟨k, -, hlt, hid⟩
  · exact hid ▸ (hi r state hstate).step hk h
  · exact ⟨k, hlt, hid⟩

theorem start_gamesIssued (now : Millis) (version : String) (repository : HistoryRepository) :
    (start now version repository).GamesIssued G := by
  intro r state hstate
  simp [gameState, start] at hstate

theorem runs_gamesIssued {now : Millis} {version : String} {repository : HistoryRepository}
    (h : Runs G C (start now version repository) s) : s.Keyed ∧ s.GamesIssued G :=
  h.invariant (P := fun s => s.Keyed ∧ s.GamesIssued G) ⟨start_keyed _ _ _, start_gamesIssued _ _ _⟩
    fun _ _ _ hs _ hstep => ⟨hs.1.step hstep, hs.2.step hs.1 hstep⟩

/-! ### The cell stays occupied -/

/-- The cell `i` of game `gameId` is occupied, if that is the game of room `r`. -/
def Occupied (s : Server) (r : RoomId) (gameId : GameId) (i : Fin 9) : Prop :=
  ∀ state, s.gameState r = some state → state.gameId = gameId → state.board i ≠ .empty

theorem Occupied.step {cell : Fin 9} (hG : Function.Injective G.gameId) (hissued : s.GameIssued G gameId)
    (ho : s.Occupied r gameId cell) (hk : s.Keyed) (h : s.step G i = some t) : t.Occupied r gameId cell := by
  intro state' hstate' hid'
  rcases step_gameId hk h hstate' with ⟨state, hstate, hid, hext⟩ | ⟨k, hlo, -, hid⟩
  · have hcell : state.board cell ≠ .empty := ho state hstate (hid.trans hid')
    rw [hext.cells cell hcell]
    exact hcell
  · obtain ⟨k', hlt, he⟩ := hissued
    have hsame : k = k' := hG (hid.symm.trans (hid'.trans he))
    omega

theorem Occupied.along {cell : Fin 9} (hG : Function.Injective G.gameId) (hk : s.Keyed)
    (hissued : s.GameIssued G gameId) (ho : s.Occupied r gameId cell) (h : Runs G C s t) :
    t.Occupied r gameId cell := by
  have hinv : t.Keyed ∧ t.GameIssued G gameId ∧ t.Occupied r gameId cell := by
    refine h.invariant (P := fun s => s.Keyed ∧ s.GameIssued G gameId ∧ s.Occupied r gameId cell) ⟨hk, hissued, ho⟩
      fun s t i hs _ hstep => ?_
    obtain ⟨hks, his, hos⟩ := hs
    exact ⟨hks.step hstep, his.step hks hstep, hos.step hG his hks hstep⟩
  exact hinv.2.2

/-! ### Accepting a move -/

/-- A `MAKE_MOVE` upon which the room's session has sent something has been processed; what the sender is told first
is recorded, unless it is an error or saving the game has thrown. -/
theorem makeMove_sent {frame : RawFrame} {q : PlayerId} {rest : List (RoomId × SendCall)} (hk : s.Keyed)
    (hrouted : s.Routed (.frame c frame diskFails) c rec ⟨commandId, .makeMove r gameId position⟩)
    (hstep : s.step G (.frame c frame diskFails) = some t)
    (hsent : t.sendLog = s.sendLog ++ (r, ⟨.player, q, .room ack⟩) :: rest) :
    rec.sessionToken ≠ none ∧
      (∃ p, Acts G s t r (.moved p commandId gameId position) ∨ Acts G s t r (.moveThrew p commandId gameId position)) ∧
      (∀ entry, t.cached commandId = some entry → entry = ⟨commandId, .event (.room ack), s.now⟩) ∧
      (diskFails = false → t.cached commandId = some ⟨commandId, .event (.room ack), s.now⟩) := by
  have hq := arrived_quiet s c rec
  have hku : (s.arrived c rec).Keyed := fun r gs hg => hk r gs (hq.gameSessions ▸ hg)
  have hauth : rec.authenticated = true := hrouted.permitted.resolve_right (by simp [isAuthExempt])
  have ht : t = conclude G c commandId
      ((s.arrived c rec).dispatch G c rec ⟨commandId, .makeMove r gameId position⟩ diskFails) :=
    (Option.some.inj hstep).symm.trans (handleFrame_routed hrouted)
  have hconclude := conclude_quiet G c commandId
    ((s.arrived c rec).dispatch G c rec ⟨commandId, .makeMove r gameId position⟩ diskFails)
  rw [← ht] at hconclude
  have hlog : ((s.arrived c rec).dispatch G c rec ⟨commandId, .makeMove r gameId position⟩ diskFails).server.sendLog =
      s.sendLog ++ (r, ⟨.player, q, .room ack⟩) :: rest := hconclude.sendLog.symm.trans hsent
  have hsilent : ∀ log : List (RoomId × SendCall), log = s.sendLog →
      log ≠ s.sendLog ++ (r, ⟨.player, q, .room ack⟩) :: rest := by
    rintro log rfl h
    exact absurd (List.append_right_eq_self.mp h.symm) (List.cons_ne_nil _ _)
  cases htoken : rec.sessionToken with
  | none =>
    have hnone : (s.arrived c rec).dispatch G c rec ⟨commandId, .makeMove r gameId position⟩ diskFails =
        (s.arrived c rec).ok [] := by simp only [dispatch, htoken]
    rw [hnone] at hlog
    exact absurd hlog (hsilent _ hq.sendLog)
  | some token =>
    have hdispatch : (s.arrived c rec).dispatch G c rec ⟨commandId, .makeMove r gameId position⟩ diskFails =
        (s.arrived c rec).handleMakeMove c commandId r gameId position token diskFails := by
      simp only [dispatch, htoken]
    rw [hdispatch] at hlog hconclude
    have hhandling := handleMakeMove_handling (G := G) hku c commandId r gameId position token diskFails
    generalize (s.arrived c rec).handleMakeMove c commandId r gameId position token diskFails = result at *
    refine ⟨by simp, ?_⟩
    cases hhandling with
    | refused h hs =>
      obtain ⟨u, code, hqu, -, rfl⟩ := h
      exact absurd hlog (hsilent _ (hqu.sendLog.trans hq.sendLog))
    | recalled hs hc h =>
      subst h
      exact absurd hlog (hsilent _ hq.sendLog)
    | @processed p hp h =>
      obtain ⟨hacts, hrecords, hdeliveries⟩ := h
      have hanswer : result.threw = false → (s.arrived c rec).answer result = some (.event (.room ack)) := by
        intro hthrew
        have hdrop : result.server.sendLog.drop (s.arrived c rec).sendLog.length =
            (r, ⟨.player, q, .room ack⟩) :: rest := by rw [hlog, hq.sendLog, List.drop_left]
        simp [answer, hthrew, hdeliveries, hdrop]
      have hcached : result.threw = false →
          t.cached commandId = some ⟨commandId, .event (.room ack), s.now⟩ := by
        intro hthrew
        rw [hconclude.cached, hrecords.recorded _ (hanswer hthrew) rfl, hq.now]
      refine ⟨⟨p, ?_⟩, fun entry he => ?_, fun hdisk => ?_⟩
      · rcases hacts with ⟨-, hacts⟩ | ⟨-, hacts⟩
        · exact Or.inl ((hq.still.trans_acts hacts).trans_still hconclude.still)
        · exact Or.inr ((hq.still.trans_acts hacts).trans_still hconclude.still)
      · cases hthrew : result.threw with
        | false => exact Option.some.inj (he.symm.trans (hcached hthrew))
        | true => simp [hconclude.cached, hrecords.threw hthrew, hp.uncached] at he
      · rcases hacts with ⟨hthrew, -⟩ | ⟨htrue, -⟩
        · exact hcached hthrew
        · simp [hdisk] at htrue

/-- After a `MOVE_ACK` the cell is occupied. -/
theorem occupied_of_ack {a : RoomAction} {q : PlayerId} {rest : List (RoomId × SendCall)} (hacts : Acts G s t r a)
    (ha : ∃ p, a = .moved p commandId gameId position ∨ a = .moveThrew p commandId gameId position)
    (hsent : t.sendLog = s.sendLog ++ (r, ⟨.player, q, .room ack⟩) :: rest) (hack : ack.payload.isMoveAck = true) :
    (∃ state, s.gameState r = some state ∧ state.gameId = gameId) ∧
      t.Occupied r gameId (positionToIndex (toBoardIndex position.row) (toBoardIndex position.col)) := by
  obtain ⟨sends, hstep, hlog⟩ := hacts.step
  have hsends : sends.map (r, ·) = (r, ⟨.player, q, .room ack⟩) :: rest := List.append_cancel_left (hlog.symm.trans hsent)
  have hmoved : ∃ p gs repository diskFails, s.gameSessions.get r = some gs ∧
      (t.view r).game = some (gs.handleMove s.now repository diskFails p gameId position commandId).session ∧
      sends = (gs.handleMove s.now repository diskFails p gameId position commandId).sends := by
    obtain ⟨p, rfl | rfl⟩ := ha
    · generalize hv : t.view r = v at hstep
      cases hstep with
      | moved hroom hgame hload hthrew => exact ⟨p, _, _, _, hgame, rfl, rfl⟩
    · generalize hv : t.view r = v at hstep
      cases hstep with
      | moveThrew hroom hgame hload hthrew => exact ⟨p, _, _, _, hgame, rfl, rfl⟩
  obtain ⟨p, gs, repository, disk, hgs, hgame, rfl⟩ := hmoved
  have hmoving := GameSession.handleMove_moving gs s.now repository disk p gameId position commandId
  generalize gs.handleMove s.now repository disk p gameId position commandId = o at hmoving hgame hsends
  cases hcalls : o.sends with
  | nil => simp [hcalls] at hsends
  | cons call calls =>
    rw [hcalls, List.map_cons] at hsends
    obtain rfl : call = ⟨.player, q, .room ack⟩ := congrArg Prod.snd (List.cons.inj hsends).1
    obtain ⟨state, t', made, ended, hstate, hid, hmove, hstate'⟩ := hmoving.accepted hcalls hack
    refine ⟨⟨state, ?_, hid⟩, fun state' hnew _ => ?_⟩
    · simp only [gameState, hgs, Option.bind_some, hstate]
    · have hview : t.gameState r = some t' := by
        rw [← view_state, RoomView.state_of_game hgame, hstate']
      obtain rfl := Option.some.inj (hview.symm.trans hnew)
      exact hmove.cell

/-! ### Delivering it again -/

/-- A `MAKE_MOVE` for an occupied cell of the room's game, or for another game, changes no game. -/
theorem redelivery_keeps {frame : RawFrame} (hk : s.Keyed)
    (hrouted : s.Routed (.frame c frame diskFails) c rec ⟨commandId, .makeMove r gameId position⟩)
    (ho : s.Occupied r gameId (positionToIndex (toBoardIndex position.row) (toBoardIndex position.col)))
    (hstep : s.step G (.frame c frame diskFails) = some t) (r' : RoomId) : t.gameState r' = s.gameState r' := by
  rcases step_game hk hstep r' with hview | ⟨a, sends, hacts, hcause, -, hgame⟩
  · exact congrArg RoomView.state hview
  -- Only this command can be behind the action.
  have hbody : ∀ command p, s.Handles (.frame c frame diskFails) command p →
      command = ⟨commandId, .makeMove r gameId position⟩ := by
    rintro command p ⟨c', rec', token, hrouted', -, -⟩
    exact (hrouted'.unique hrouted).2.2
  have hmove : ∀ {p id gameId' position' state t' made ended}, s.Handles (.frame c frame diskFails)
      ⟨id, .makeMove r' gameId' position'⟩ p → s.gameState r' = some state → state.gameId = gameId' →
      AcceptedMove state ⟨p, position'.row, position'.col, id, s.now⟩ t' made ended → False := by
    intro p id gameId' position' state t' made ended hhandles hstate hid hmove
    obtain ⟨rfl, hb⟩ := Command.mk.inj (hbody _ _ hhandles)
    obtain ⟨rfl, rfl, rfl⟩ := CommandBody.makeMove.inj hb
    exact ho state hstate hid hmove.free
  cases hgame with
  | same hsame => exact hsame
  | started hstart =>
    rcases hstart with ⟨p, room, rfl, -, -⟩ | ⟨⟨p, id, rfl⟩, -⟩
    · obtain ⟨id, hhandles⟩ := hcause
      cases hbody _ _ hhandles
    · obtain ⟨id', hhandles⟩ := hcause
      cases hbody _ _ hhandles
  | moved ha hold hmoved =>
    subst ha
    exact (hmove hcause hold rfl hmoved).elim
  | ended hend hold | failed hend hold =>
    cases hend with
    | move ha hid hmoved =>
      rcases ha with rfl | rfl
      · exact (hmove hcause hold hid hmoved).elim
      · exact (hmove hcause.2 hold hid hmoved).elim
    | forfeit ha =>
      rcases ha with rfl | rfl
      · obtain ⟨id, hhandles⟩ := hcause
        cases hbody _ _ hhandles
      · obtain ⟨-, id, hhandles⟩ := hcause
        cases hbody _ _ hhandles
    | abandon ha =>
      subst ha
      obtain ⟨disk, hi⟩ := hcause
      cases hi

end Server

open Server in
/-- Once a `MAKE_MOVE` has been answered with a `MOVE_ACK`, delivering it again changes no game, however much later;
while its dedup entry has not expired, the sender gets the same `MOVE_ACK` and nothing else is emitted. The entry
is there unless saving the finished game has failed. -/
theorem move_applied_once {G : IdSource} (hG : Function.Injective G.gameId) {now : Millis} {version : String}
    {repository : HistoryRepository} {s t u v : Server} {c c' : ConnectionId} {rec rec' : ConnectionRecord}
    {commandId : CommandId} {r : RoomId} {gameId : GameId} {position : RawPosition} {frame frame' : RawFrame}
    {diskFails diskFails' : Bool} {q : PlayerId} {ack : RoomEvent} {rest : List (RoomId × SendCall)}
    (hrun : Runs G (fun _ _ => True) (start now version repository) s)
    (hrouted : s.Routed (.frame c frame diskFails) c rec ⟨commandId, .makeMove r gameId position⟩)
    (hstep : s.step G (.frame c frame diskFails) = some t)
    (hsent : t.sendLog = s.sendLog ++ (r, ⟨.player, q, .room ack⟩) :: rest) (hack : ack.payload.isMoveAck = true)
    (hlater : Runs G (fun _ _ => True) t u)
    (hrouted' : u.Routed (.frame c' frame' diskFails') c' rec' ⟨commandId, .makeMove r gameId position⟩)
    (hsender : rec'.sessionToken = rec.sessionToken) (hagain : u.step G (.frame c' frame' diskFails') = some v) :
    (∀ r', v.gameState r' = u.gameState r') ∧
    (∀ entry, t.cached commandId = some entry → u.now - entry.cachedAt ≤ COMMAND_DEDUP_TTL_MS →
      v.wire = u.wire ++ [(c', .event (.room ack))] ∧ v.sendLog = u.sendLog) ∧
    (diskFails = false → ∃ entry, t.cached commandId = some entry ∧ entry.cachedAt = s.now) := by
  obtain ⟨hk, hissued⟩ := runs_gamesIssued hrun
  have hkt : t.Keyed := hk.step hstep
  have hku : u.Keyed := runs_keyed hkt hlater
  obtain ⟨htoken, ⟨p, hacts⟩, hentry, hrecorded⟩ := makeMove_sent hk hrouted hstep hsent
  have hoccupied : (∃ state, s.gameState r = some state ∧ state.gameId = gameId) ∧
      t.Occupied r gameId (positionToIndex (toBoardIndex position.row) (toBoardIndex position.col)) := by
    rcases hacts with hacts | hacts
    · exact occupied_of_ack hacts ⟨p, Or.inl rfl⟩ hsent hack
    · exact occupied_of_ack hacts ⟨p, Or.inr rfl⟩ hsent hack
  obtain ⟨⟨state, hstate, hid⟩, hoccupied⟩ := hoccupied
  have hknown : t.GameIssued G gameId := hid ▸ (hissued r state hstate).step hk hstep
  refine ⟨?_, fun entry he hage => ?_, fun hdisk => ⟨_, hrecorded hdisk, rfl⟩⟩
  · exact redelivery_keeps hku hrouted' (hoccupied.along hG hkt hknown hlater) hagain
  · have hstill : u.cached commandId = some entry := cached_along hkt hlater he hage
    obtain rfl := hentry entry he
    have hresent := retry_resent hku hrouted' hstill (by simp) (fun _ => hsender ▸ htoken) hagain
    have hsame : u.reread (.event (.room ack)) = .event (.room ack) :=
      (Shows.of_plain (RoomPayload.roomState_of_isMoveAck hack)).reread
    exact ⟨hresent.wire.trans (congrArg (fun e => u.wire ++ [(c', e)]) hsame), hresent.sendLog⟩

open Server

/-- The first move of the opening, delivered again after the answer to it. -/
theorem move_applied_once_opening : ∃ s t u v, Runs tallies (fun _ _ => True) fresh s ∧
    s.step tallies (asks 0 "move1" (.makeMove (tally 'r' 4) (tally 'g' 5) ⟨.ofNat 1, .ofNat 1⟩)) = some t ∧
    Runs tallies (fun _ _ => True) t u ∧
    u.step tallies (asks 0 "move1" (.makeMove (tally 'r' 4) (tally 'g' 5) ⟨.ofNat 1, .ofNat 1⟩)) = some v ∧
    (∀ r, v.gameState r = u.gameState r) ∧ v.sendLog = u.sendLog := by
  let body : CommandBody := .makeMove (tally 'r' 4) (tally 'g' 5) ⟨.ofNat 1, .ofNat 1⟩
  have hcheck : (Transition.run (step tallies) (fun _ _ => true) fresh opening).any (fun s =>
      (s.routes 0).any fun rec => (s.step tallies (asks 0 "move1" body)).any fun t =>
        ((t.sendLog.drop s.sendLog.length).head?.any fun e => decide (e.1 = tally 'r' 4) && e.2.acksMove) &&
        (Transition.run (step tallies) (fun _ _ => true) t [.tick 1000]).any fun u =>
          (u.step tallies (asks 0 "move1" body)).isSome && decide (u.now - s.now ≤ COMMAND_DEDUP_TTL_MS) &&
            (u.routes 0).any fun rec' => decide (rec'.sessionToken = rec.sessionToken)) = true := by
    decide +kernel
  obtain ⟨s, hrun, hs⟩ := Transition.exists_run (C := fun _ _ => True) (fun _ _ _ => trivial) hcheck
  obtain ⟨rec, hrec, hs⟩ := (Option.any_eq_true _ _).mp hs
  obtain ⟨t, ht, hs⟩ := (Option.any_eq_true _ _).mp hs
  obtain ⟨hack, hs⟩ := Bool.and_eq_true_iff.mp hs
  obtain ⟨u, hlater, hs⟩ := Transition.exists_run (C := fun _ _ => True) (fun _ _ _ => trivial) hs
  simp only [Bool.and_eq_true, Option.any_eq_true, decide_eq_true_eq] at hs hack
  obtain ⟨⟨hagain, hage⟩, rec', hrec', hsender⟩ := hs
  obtain ⟨v, hv⟩ := Option.isSome_iff_exists.mp hagain
  obtain ⟨⟨r, target, q, event⟩, hhead, rfl, hcall⟩ := hack
  obtain ⟨sent, hsent⟩ := sendLog_grows (runs_keyed (start_keyed _ _ _) hrun) ht
  rw [hsent, List.drop_left] at hhead
  obtain ⟨rest, rfl⟩ := List.head?_eq_some_iff.mp hhead
  cases target with
  | broadcast | others => cases hcall
  | player =>
    cases event with
    | authAck | pong | error => cases hcall
    | room ack =>
      obtain ⟨hsame, hquiet, hentry⟩ := move_applied_once tallies_neverRepeats.gameId hrun (routed_of_routes hrec _ _)
        ht hsent hcall hlater (routed_of_routes hrec' _ _) hsender hv
      obtain ⟨entry, hcached, hat⟩ := hentry rfl
      exact ⟨s, t, u, v, hrun, ht, hlater, hv, hsame, (hquiet entry hcached (hat ▸ hage)).2⟩

end TicTacToe
