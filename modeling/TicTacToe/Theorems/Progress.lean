import Mathlib.Data.Fintype.EquivFin
import TicTacToe.Theorems.EngineLog
import TicTacToe.Theorems.Letters
import TicTacToe.Theorems.MoveLog
import TicTacToe.Theorems.RunningGame

/-! # A running game goes on

While a game runs there is a cell to play, its player on turn is in the room, and the server takes the move and tells
both players of it. So nobody waits for anything but the other player, and every game can be played to its end. -/

namespace TicTacToe

/-! ### Games -/

/-- While the game runs nobody has a line, and a cell is left. -/
def GameState.Undecided (state : GameState) : Prop :=
  state.status = .active → (∀ symbol, ¬HasLine state.board symbol) ∧ ∃ i, state.board i = .empty

theorem GameState.Undecided.applyMove {state : GameState} (h : state.Undecided) (c : MakeMoveCommand) :
    (applyMove state c).newState.Undecided := by
  by_cases hactive : state.status = .active
  · have hdecided : Decided state := by
      refine ⟨Or.inl hactive, h, fun hfinished => ?_⟩
      rw [hactive] at hfinished
      cases hfinished
    exact (applyMove_decided hdecided c).active
  · rw [TicTacToe.applyMove, if_pos hactive]
    exact h

theorem GameState.undecided_kept (now : Millis) : EngineCall.Keeps GameState.Undecided now where
  start c _ := (startGame_decided c).active
  move _ c h _ := h.applyMove c
  finish _ _ _ _ _ _ hactive := by cases hactive

/-- The turn after a move, as its events tell it. -/
def GameState.turnTold (state : GameState) : Option PlayerSymbol :=
  if state.status = .active then some state.currentTurn else none

/-- A legal move of the player of a game, taken by the engine. -/
theorem AcceptedMove.of_legal {state t : GameState} {c : MakeMoveCommand} {made : MoveMade} {ended : Option GameEnded}
    {symbol : PlayerSymbol} (h : AcceptedMove state c t made ended) (hp : resolveSymbol state c.playerId = some symbol)
    (hv : isValidPosition c.row c.col = true) (hl : LegalMove state symbol (toBoardIndex c.row) (toBoardIndex c.col)) :
    t = (acceptMove state symbol (toBoardIndex c.row) (toBoardIndex c.col) c.timestamp).newState ∧
      made.symbol = symbol ∧ made.board = t.board ∧ made.nextTurn = t.turnTold := by
  refine ⟨?_, Option.some.inj (h.mover.symm.trans hp), h.board, ?_⟩
  · rw [h.state, applyMove_of_legal hp hv hl]
  · rcases h.outcome with ⟨hactive, -, hturn, -⟩ | ⟨result, hfinished, -, -, -, hturn, -⟩
    · rw [hturn, GameState.turnTold, if_pos hactive]
    · rw [hturn, GameState.turnTold, if_neg (by simp [hfinished])]

/-! ### What the players are told -/

/-- `MOVE_ACK` for the move that has led to game `t`. -/
def moveAckFor (r : RoomId) (t : GameState) (position : RawPosition) (symbol : PlayerSymbol) (id : CommandId)
    (seq n : Nat) : RoomEvent :=
  makeMoveAck r t.gameId position symbol n t.board t.turnTold seq id

/-- `MOVE_BROADCAST` for the same move of player `p`. -/
def moveBroadcastFor (r : RoomId) (t : GameState) (position : RawPosition) (symbol : PlayerSymbol) (p : PlayerId)
    (seq n : Nat) : RoomEvent :=
  makeMoveBroadcast r t.gameId position symbol p n t.board t.turnTold seq

/-- The first two calls of the send function for a legal move. -/
theorem GameSession.handleMove_legal {gs : GameSession} {now : Millis} {p : PlayerId} {position : RawPosition}
    {state t : GameState} {symbol : PlayerSymbol} (hstate : gs.gameState = some state)
    (hp : resolveSymbol state p = some symbol) (hv : isValidPosition position.row position.col = true)
    (hl : LegalMove state symbol (toBoardIndex position.row) (toBoardIndex position.col))
    (repository : HistoryRepository) (diskFails : Bool) (id : CommandId)
    (ht : t = (acceptMove state symbol (toBoardIndex position.row) (toBoardIndex position.col) now).newState) :
    ∃ seq n rest, (gs.handleMove now repository diskFails p state.gameId position id).sends =
      ⟨.player, p, .room (moveAckFor gs.roomId t position symbol id seq n)⟩ ::
        ⟨.others, p, .room (moveBroadcastFor gs.roomId t position symbol p (seq + 1) n)⟩ :: rest := by
  have hm := handleMove_moving gs now repository diskFails p state.gameId position id
  generalize gs.handleMove now repository diskFails p state.gameId position id = o at hm
  have hsent : ∀ {u made ended}, AcceptedMove state ⟨p, position.row, position.col, id, now⟩ u made ended →
      ∃ seq n, ({ gs with gameState := some u }.announced p state.gameId position id made).sends =
        [⟨.player, p, .room (moveAckFor gs.roomId t position symbol id seq n)⟩,
          ⟨.others, p, .room (moveBroadcastFor gs.roomId t position symbol p (seq + 1) n)⟩] := by
    intro u made ended hmove
    obtain ⟨rfl, hsymbol, hboard, hturn⟩ := hmove.of_legal hp hv hl
    subst ht
    refine ⟨gs.sessionSeq + 1, made.sequenceInGame, ?_⟩
    simp only [announced, emit_sends, ackEvent, broadcastEvent, moveAckFor, moveBroadcastFor, hsymbol, hboard, hturn,
      hmove.gameId, List.cons_append, List.nil_append]
  cases hm with
  | refused code detail h => exact absurd hl.active (h state hstate rfl)
  | rejected hstate' hid hactive happly =>
    obtain rfl := Option.some.inj (hstate.symm.trans hstate')
    rw [applyMove_of_legal hp hv hl, acceptMove_accepted] at happly
    cases happly
  | continued hstate' hid hmove =>
    obtain rfl := Option.some.inj (hstate.symm.trans hstate')
    obtain ⟨seq, n, hsends⟩ := hsent hmove
    exact ⟨seq, n, [], hsends⟩
  | finished hstate' hid hmove hresult he =>
    obtain rfl := Option.some.inj (hstate.symm.trans hstate')
    obtain ⟨seq, n, hsends⟩ := hsent hmove
    exact ⟨seq, n, _, congrArg (· ++ _) hsends⟩

/-! ### The step of a move -/

namespace Server
variable {s t : Server} {G : IdSource} {i : Input} {r : RoomId} {p : PlayerId} {c : ConnectionId} {room : RoomRecord}
  {gs : GameSession} {id : CommandId} {g : GameId} {position : RawPosition}

/-- Connection `c` has brought a move to the session of room `r`, with this outcome. -/
structure Moves (s : Server) (c : ConnectionId) (r : RoomId) (room : RoomRecord) (outcome : GameSession.MoveOutcome)
    (t : Server) : Prop where
  now : t.now = s.now
  connections : t.connections = ((s.touchConnection c).countFrame c).connections
  session : ∀ token, t.session token = s.session token
  getRoom : ∀ r', t.getRoom r' = s.getRoom r'
  gameState : t.gameState r = outcome.session.gameState
  wire : ∃ rest, t.wire = s.wire ++ (outcome.sends.flatMap (s.posted room) ++ rest)

theorem arrived_connections (s : Server) (c : ConnectionId) (rec : ConnectionRecord) :
    (s.arrived c rec).connections = ((s.touchConnection c).countFrame c).connections := by
  unfold arrived
  dsimp only
  split <;> rfl

theorem arrived_posted (s : Server) (c : ConnectionId) (rec : ConnectionRecord) (room : RoomRecord) (call : SendCall) :
    (s.arrived c rec).posted room call = s.posted room call := by
  have hreach : ∀ c', (s.arrived c rec).connections.has c' = s.connections.has c' := by
    intro c'
    have hidentity := (arrived_quiet s c rec).connections c'
    rw [JsMap.has, JsMap.has, ← Option.isSome_map (f := ConnectionRecord.identity), hidentity, Option.isSome_map]
  have hregistered : ∀ p, (s.arrived c rec).getPlayerConnectionIds p = s.getPlayerConnectionIds p := by
    intro p
    rw [getPlayerConnectionIds, (arrived_quiet s c rec).registry, getPlayerConnectionIds]
  simp only [posted, mailed, hregistered, funext hreach]

/-- After the session has made the move, a response may be recorded. -/
theorem Moves.of_effect {u : Server} {result : HandlerResult} {outcome : GameSession.MoveOutcome} {rec : ConnectionRecord}
    (hu : u = (s.arrived c rec).afterLookup id) (hroom : s.getRoom r = some room)
    (hresult : result.server = u.applyEffect r outcome.toGameEffect ∨
      ∃ e, result.server = (u.applyEffect r outcome.toGameEffect).recordCommand id e) :
    s.Moves c r room outcome (conclude G c id result) := by
  have hq : Quiet s u := hu ▸ (arrived_quiet s c rec).trans (afterLookup_quiet _ id)
  have hposts : Posts r (some room) u (u.applyEffect r outcome.toGameEffect) outcome.sends :=
    applyEffect_posts ((hq.getRoom r).trans hroom) _
  obtain ⟨w, n, hconclude, -⟩ := conclude_frame G c id result
  have hnow : (u.applyEffect r outcome.toGameEffect).now = u.now := now_sendAll _ _ _
  have hsessions : (u.applyEffect r outcome.toGameEffect).sessions = u.sessions := sessions_sendAll _ _ _
  have hsession := session_of_sessions hnow hsessions
  have hroom' := fun r' => getRoom_applyEffect u r r' outcome.toGameEffect
  have hgame : (u.applyEffect r outcome.toGameEffect).gameState r = outcome.session.gameState := by
    rw [← view_state, view_applyEffect, if_pos rfl]
    rfl
  have hserver : result.server.now = u.now ∧ result.server.connections = u.connections ∧
      (∀ token, result.server.session token = u.session token) ∧ (∀ r', result.server.getRoom r' = u.getRoom r') ∧
      result.server.gameState r = outcome.session.gameState ∧
      result.server.wire = u.wire ++ outcome.sends.flatMap (u.posted room) := by
    rcases hresult with he | ⟨e, he⟩
    · rw [he]
      exact ⟨hnow, hposts.connections, hsession, hroom', hgame, hposts.wire⟩
    · rw [he]
      exact ⟨hnow, hposts.connections, hsession, hroom', hgame, hposts.wire⟩
  obtain ⟨hnow, hconnections, hsession, hroom', hgame, hwire⟩ := hserver
  have hcounted : u.connections = ((s.touchConnection c).countFrame c).connections := hu ▸ arrived_connections s c rec
  have hposted : u.posted room = s.posted room := hu ▸ funext (arrived_posted s c rec room)
  have hsilent : u.wire = s.wire := hu ▸ arrived_wire s c rec
  rw [hconclude]
  exact {
    now := hnow.trans hq.now
    connections := hconnections.trans hcounted
    session := fun token => (hsession token).trans (hq.session token)
    getRoom := fun r' => (hroom' r').trans (hq.getRoom r')
    gameState := hgame
    wire := ⟨w, by rw [hwire, hposted, hsilent, List.append_assoc]⟩ }

/-- The step of a processed `MAKE_MOVE` for a live room with a session. -/
theorem Routed.moves {rec : ConnectionRecord} {token : SessionToken} {frame : RawFrame} {diskFails : Bool}
    (h : s.Routed (.frame c frame diskFails) c rec ⟨id, .makeMove r g position⟩) (htoken : rec.sessionToken = some token)
    (hp : s.Processed token id p) (hroom : s.getRoom r = some room) (hgame : s.gameSessions.get r = some gs) :
    s.Moves c r room (gs.handleMove s.now s.historyRepository diskFails p g position id)
      (s.handleFrame G c frame diskFails) := by
  have hq := (arrived_quiet s c rec).trans (afterLookup_quiet _ id)
  obtain ⟨session, hs, rfl⟩ := (hp.to_quiet (arrived_quiet s c rec)).session
  have huncached := (hp.to_quiet (arrived_quiet s c rec)).uncached
  rw [handleFrame_routed h]
  have hdispatch : (s.arrived c rec).dispatch G c rec ⟨id, .makeMove r g position⟩ diskFails =
      (s.arrived c rec).handleMakeMove c id r g position token diskFails := by
    simp only [dispatch, htoken]
  rw [hdispatch, handleMakeMove, roomCommand_eq hs huncached (((arrived_quiet s c rec).getRoom r).trans hroom)]
  have hgame' : ((s.arrived c rec).afterLookup id).gameSessions.get r = some gs := by rw [hq.gameSessions, hgame]
  simp only [hgame', hq.now, hq.historyRepository]
  split
  · exact .of_effect rfl hroom (Or.inl rfl)
  · split
    · exact .of_effect rfl hroom (Or.inl rfl)
    · exact .of_effect rfl hroom (Or.inr ⟨_, rfl⟩)

/-- Everything that player `q` has open gets the event in the step. -/
def Hears (s t : Server) (q : PlayerId) (event : RoomEvent) : Prop :=
  ∀ c ∈ s.getPlayerConnectionIds q, s.connections.has c = true → (c, .event (.room event)) ∈ t.wire.drop s.wire.length

theorem Moves.hears {outcome : GameSession.MoveOutcome} {call : SendCall} {event : RoomEvent} {q : PlayerId}
    (h : s.Moves c r room outcome t) (hcall : call ∈ outcome.sends) (hevent : call.event = .room event)
    (hq : q ∈ recipients room call) : s.Hears t q event := by
  intro c' hc' hopen
  obtain ⟨rest, hwire⟩ := h.wire
  rw [hwire, List.drop_left]
  refine List.mem_append_left _ (List.mem_flatMap.mpr ⟨call, hcall, List.mem_flatMap.mpr ⟨q, hq, ?_⟩⟩)
  rw [hevent]
  exact List.mem_map.mpr ⟨c', List.mem_filter.mpr ⟨hc', hopen⟩, rfl⟩

/-- The players of a running game are two, and in the slots of their symbols. -/
theorem Seats.table {state : GameState} (hs : s.Seats G) (hroom : s.getRoom r = some room)
    (hstate : s.gameState r = some state) (hactive : state.status = .active) :
    (∀ x, ∃ slot, room.slot x = some slot ∧ slot.playerId = state.holder x) ∧ state.playerX ≠ state.playerO := by
  have hview : (s.view r).room = some room := view_room_of_getRoom hroom
  obtain ⟨room', hroom', hX, hO⟩ := hs.seated r state hstate hactive
  obtain rfl := Option.some.inj (hview.symm.trans hroom')
  refine ⟨fun x => ?_, fun heq => ?_⟩
  · cases x with
    | X => exact RoomRecord.slotHolds_iff.mp hX
    | O => exact RoomRecord.slotHolds_iff.mp hO
  · have hother := hs.distinct r room hview _ (heq ▸ hX)
    rw [hO] at hother
    cases hother

/-- A connected slot gets what is for the others. -/
theorem mem_recipients_others {x : PlayerSymbol} {slot : PlayerSlot} (hslot : room.slot x = some slot)
    (hconnected : slot.connected = true) (hne : slot.playerId ≠ p) (event : Event) :
    slot.playerId ∈ recipients room ⟨.others, p, event⟩ := by
  simp only [recipients, List.mem_filter, List.mem_map, decide_eq_true_eq]
  refine ⟨⟨slot, ⟨?_, hconnected⟩, rfl⟩, hne⟩
  refine List.mem_filterMap.mpr ⟨some slot, ?_, rfl⟩
  rw [← hslot]
  cases x with
  | X => exact List.mem_cons_self
  | O => exact List.mem_cons_of_mem _ List.mem_cons_self

theorem holder_opponent_ne {state : GameState} (hne : state.playerX ≠ state.playerO) (x : PlayerSymbol) :
    state.holder (opponent x) ≠ state.holder x := by
  cases x with
  | X => exact hne.symm
  | O => exact hne

/-- A legal move of the player on turn is made: the game goes on as the engine says, and both players hear of it. -/
theorem Routed.plays {rec : ConnectionRecord} {token : SessionToken} {frame : RawFrame} {diskFails : Bool}
    {state u : GameState} (hs : s.Seats G)
    (h : s.Routed (.frame c frame diskFails) c rec ⟨id, .makeMove r state.gameId position⟩)
    (htoken : rec.sessionToken = some token) (hp : s.Processed token id (state.holder state.currentTurn))
    (hroom : s.getRoom r = some room) (hgame : s.gameSessions.get r = some gs) (hstate : gs.gameState = some state)
    (hv : isValidPosition position.row position.col = true)
    (hl : LegalMove state state.currentTurn (toBoardIndex position.row) (toBoardIndex position.col))
    (hu : u = (acceptMove state state.currentTurn (toBoardIndex position.row) (toBoardIndex position.col) s.now).newState) :
    (∃ outcome, s.Moves c r room outcome (s.handleFrame G c frame diskFails)) ∧
    (s.handleFrame G c frame diskFails).gameState r = some u ∧ ∃ seq n,
      s.Hears (s.handleFrame G c frame diskFails) (state.holder state.currentTurn)
        (moveAckFor r u position state.currentTurn id seq n) ∧
      ∀ slot, room.slot (opponent state.currentTurn) = some slot → slot.connected = true →
        s.Hears (s.handleFrame G c frame diskFails) slot.playerId
          (moveBroadcastFor r u position state.currentTurn (state.holder state.currentTurn) (seq + 1) n) := by
  have hstate' : s.gameState r = some state := by rw [gameState, hgame, Option.bind_some, hstate]
  obtain ⟨hslots, hne⟩ := hs.table hroom hstate' hl.active
  have hmoves := h.moves (G := G) htoken hp hroom hgame
  have hplayer := resolveSymbol_holder hne state.currentTurn
  refine ⟨⟨_, hmoves⟩, ?_, ?_⟩
  · rw [hmoves.gameState, GameSession.handleMove_performs, hstate]
    simp only [EngineCall.perform, Option.map_some, ↓reduceIte, hu]
    rw [applyMove_of_legal hplayer hv hl]
  · obtain ⟨seq, n, rest, hsends⟩ := GameSession.handleMove_legal hstate hplayer hv hl s.historyRepository diskFails id hu
    rw [hs.keyed r gs hgame] at hsends
    refine ⟨seq, n, ?_, fun slot hslot hconnected => ?_⟩
    · exact hmoves.hears (hsends ▸ List.mem_cons_self) rfl List.mem_cons_self
    · obtain ⟨slot', hslot', hholder⟩ := hslots (opponent state.currentTurn)
      obtain rfl := Option.some.inj (hslot.symm.trans hslot')
      exact hmoves.hears (hsends ▸ List.mem_cons_of_mem _ List.mem_cons_self) rfl
        (mem_recipients_others hslot hconnected (hholder ▸ holder_opponent_ne hne state.currentTurn) _)

/-! ### To the end of the game -/

/-- Player `p` has a connection on which `n` more commands get to their handlers. -/
def CanSend (s : Server) (n : Nat) (p : PlayerId) : Prop :=
  ∃ c rec token session, s.connections.get c = some rec ∧ rec.authenticated = true ∧ rec.sessionToken = some token ∧
    s.getSession token = some session ∧ session.playerId = p ∧ rec.rateBucket.count + n ≤ RATE_MAX_MSGS

theorem countMessage_count_le (now : Millis) (bucket : RateBucket) :
    (countMessage now bucket).count ≤ bucket.count + 1 := by
  unfold countMessage
  dsimp only
  split
  · exact Nat.succ_le_succ (Nat.zero_le _)
  · exact Nat.le_refl _

theorem CanSend.routed {n : Nat} (h : s.CanSend (n + 1) p) (hid : s.cached id = none) (body : CommandBody) :
    ∃ c rec token frame, s.Routed (.frame c frame false) c rec ⟨id, body⟩ ∧ rec.sessionToken = some token ∧
      s.Processed token id p := by
  obtain ⟨c, rec, token, session, hrec, hauth, htoken, hsession, hp, hcount⟩ := h
  refine ⟨c, rec, token, ⟨0, .ok ⟨id, body⟩⟩, ?_, htoken, ⟨session, hsession, hp⟩, hid⟩
  refine ⟨⟨_, _, rfl, Nat.zero_le _, rfl⟩, ?_, hrec, Or.inl hauth, fun token' _ htoken' => ?_⟩
  · rw [withinRateLimit, touchConnection, JsMap.get_modify, if_pos rfl, hrec, Option.map_some, Option.any_some,
      decide_eq_true_eq]
    have hle := countMessage_count_le s.now rec.rateBucket
    dsimp only at hle ⊢
    omega
  · obtain rfl := Option.some.inj (htoken.symm.trans htoken')
    exact Option.isSome_iff_exists.mpr ⟨session, hsession⟩

/-- A frame of connection `c` takes at most one of the commands. -/
theorem CanSend.later {n : Nat} (hconnections : t.connections = ((s.touchConnection c).countFrame c).connections)
    (hplayers : ∀ token, (t.session token).map PlayerSession.playerId = (s.session token).map PlayerSession.playerId)
    (hp : s.CanSend (n + 1) p) : t.CanSend n p := by
  obtain ⟨c', rec, token, session, hrec, hauth, htoken, hsession, hplayer, hcount⟩ := hp
  have hlater : (t.getSession token).map PlayerSession.playerId = some p := by
    have hsame := hplayers token
    rw [Server.session, Server.session, hsession, Option.map_map] at hsame
    exact hsame.trans (congrArg some hplayer)
  obtain ⟨session', hsession', hplayer'⟩ := Option.map_eq_some_iff.mp hlater
  by_cases hc : c = c'
  · subst hc
    have hle := countMessage_count_le s.now rec.rateBucket
    refine ⟨c, { rec with
      lastMessageAt := s.now
      idleTimer := some (s.now + CONNECTION_IDLE_TIMEOUT_MS)
      rateBucket := countMessage s.now rec.rateBucket }, token, session', ?_, hauth, htoken, hsession', hplayer', ?_⟩
    · rw [hconnections, countFrame, JsMap.get_modify, if_pos rfl, touchConnection, JsMap.get_modify, if_pos rfl, hrec]
      rfl
    · dsimp only
      omega
  · refine ⟨c', rec, token, session', ?_, hauth, htoken, hsession', hplayer', by omega⟩
    rw [hconnections, countFrame, JsMap.get_modify, if_neg hc, touchConnection, JsMap.get_modify, if_neg hc, hrec]

/-- A move takes at most one of the commands. -/
theorem Moves.canSend {outcome : GameSession.MoveOutcome} {n : Nat} (h : s.Moves c r room outcome t)
    (hp : s.CanSend (n + 1) p) : t.CanSend n p :=
  hp.later h.connections fun token => congrArg (Option.map PlayerSession.playerId) (h.session token)

/-- There is always a new command id. -/
theorem exists_uncached (s : Server) : ∃ id, s.cached id = none := by
  obtain ⟨id, hid⟩ := Infinite.exists_notMem_finset s.sessions.dedupCache.keys.toFinset
  refine ⟨id, ?_⟩
  have hget : s.sessions.dedupCache.get id = none := JsMap.find_eq_none (by simpa [JsMap.keys] using hid)
  rw [cached, SessionStore.getCachedEntry, JsMap.lookup, hget]
  rfl

theorem exists_cell (cell : Fin 9) : ∃ row col, positionToIndex row col = cell := by
  revert cell
  decide

/-- What a legal move makes of a game. -/
theorem acceptMove_fields {state : GameState} {symbol : PlayerSymbol} {row col : BoardIndex}
    (hl : LegalMove state symbol row col) (ts : Millis) :
    (acceptMove state symbol row col ts).newState.gameId = state.gameId ∧
    markCount (acceptMove state symbol row col ts).newState.board = markCount state.board + 1 ∧
    ((acceptMove state symbol row col ts).newState.status = .active ∨
      (acceptMove state symbol row col ts).newState.status = .finished) := by
  have hcount : markCount (applyMarkToBoard state.board row col symbol) = markCount state.board + 1 :=
    markCount_applyMarkToBoard hl.cell
  rcases acceptMove_cases state symbol row col ts with ⟨line, -, he⟩ | ⟨-, -, he⟩ | ⟨-, -, he⟩
  · rw [he]
    exact ⟨rfl, hcount, Or.inr rfl⟩
  · rw [he]
    exact ⟨rfl, hcount, Or.inr rfl⟩
  · rw [he]
    exact ⟨rfl, hcount, Or.inl hl.active⟩

/-- On a board with `n` empty cells, by induction on `n`: after any move of the player on turn the game has finished, or
there is one empty cell less. -/
theorem Seats.completes {n : Nat} {state : GameState} (hn : G.NeverRepeats) (hs : s.Seats G)
    (hroom : s.getRoom r = some room) (hstate : s.gameState r = some state) (hactive : state.status = .active)
    (hundecided : state.Undecided) (hcount : markCount state.board + n = 9)
    (hsend : ∀ x, s.CanSend n (state.holder x)) :
    ∃ t u, Runs G (fun s i => ∃ id position x, s.Handles i ⟨id, .makeMove r state.gameId position⟩ (state.holder x)) s t ∧
      t.gameState r = some u ∧ u.gameId = state.gameId ∧ u.holder = state.holder ∧ u.status = .finished := by
  induction n generalizing s state with
  | zero =>
    obtain ⟨cell, hcell⟩ := (hundecided hactive).2
    obtain ⟨row, col, rfl⟩ := exists_cell cell
    have hmore : markCount (applyMarkToBoard state.board row col .X) = markCount state.board + 1 :=
      markCount_applyMarkToBoard hcell
    have hle := markCount_le (applyMarkToBoard state.board row col .X)
    omega
  | succ n ih =>
    obtain ⟨cell, hcell⟩ := (hundecided hactive).2
    obtain ⟨row, col, rfl⟩ := exists_cell cell
    have hl : LegalMove state state.currentTurn row col := ⟨hactive, rfl, hcell⟩
    obtain ⟨gs, hgame, hgs⟩ := Option.bind_eq_some_iff.mp hstate
    obtain ⟨id, hid⟩ := s.exists_uncached
    obtain ⟨c, rec, token, frame, hrouted, htoken, hp⟩ :=
      (hsend state.currentTurn).routed hid (.makeMove r state.gameId ⟨.ofNat row, .ofNat col⟩)
    have hl' : LegalMove state state.currentTurn (toBoardIndex (.ofNat row)) (toBoardIndex (.ofNat col)) := by
      rwa [toBoardIndex_ofNat, toBoardIndex_ofNat]
    obtain ⟨⟨outcome, hmoves⟩, hplayed, -⟩ :=
      hrouted.plays (G := G) hs htoken hp hroom hgame hgs (isValidPosition_ofNat row col) hl' rfl
    rw [toBoardIndex_ofNat, toBoardIndex_ofNat] at hplayed
    have hstep : s.step G (.frame c frame false) = some (s.handleFrame G c frame false) := rfl
    have hfirst : Runs G (fun s i => ∃ id position x, s.Handles i ⟨id, .makeMove r state.gameId position⟩ (state.holder x))
        s (s.handleFrame G c frame false) :=
      .tail .refl ⟨id, _, _, c, rec, token, hrouted, htoken, hp⟩ hstep
    obtain ⟨hsame, hmore, hstatus⟩ := acceptMove_fields hl s.now
    have hholder : (acceptMove state state.currentTurn row col s.now).newState.holder = state.holder := by
      obtain ⟨hX, hO⟩ := acceptMove_players state state.currentTurn row col s.now
      funext x
      cases x with
      | X => exact hX
      | O => exact hO
    rcases hstatus with hgoes | hfinished
    · have hlater : (acceptMove state state.currentTurn row col s.now).newState.Undecided := by
        have hkept := hundecided.applyMove ⟨state.holder state.currentTurn, .ofNat row, .ofNat col, id, s.now⟩
        rwa [applyMove_of_legal (resolveSymbol_holder (hs.table hroom hstate hactive).2 _)
          (isValidPosition_ofNat row col) hl', toBoardIndex_ofNat, toBoardIndex_ofNat] at hkept
      obtain ⟨t, u, hrun, hu, hgameId, hplayers, hend⟩ := ih (hs.step hn hstep) ((hmoves.getRoom r).trans hroom) hplayed
        hgoes hlater (by omega) fun x => hmoves.canSend (hholder ▸ hsend x)
      rw [hsame, hholder] at hrun
      rw [hsame] at hgameId
      exact ⟨t, u, hfirst.trans hrun, hu, hgameId, hplayers.trans hholder, hend⟩
    · exact ⟨_, _, hfirst, hplayed, hsame, hholder, hfinished⟩

end Server

open Server

/-- In a live room with a running game there is an empty cell, and the players of the game are in the room. Whatever cell
the player on turn chooses, a `MAKE_MOVE` that reaches its handler makes the move of the engine; the player gets
`MOVE_ACK`, and the other player `MOVE_BROADCAST` if connected, on everything that they have open. -/
theorem active_game_goes_on {G : IdSource} (hn : G.NeverRepeats) {C : Server → Input → Prop} {now : Millis}
    {version : String} {repository : HistoryRepository} {s : Server} {r : RoomId} {room : RoomRecord} {state : GameState}
    (hrun : Runs G C (start now version repository) s) (hroom : s.getRoom r = some room)
    (hstate : s.gameState r = some state) (hactive : state.status = .active) :
    (∃ cell, state.board cell = .empty) ∧
    (∀ x, ∃ slot, room.slot x = some slot ∧ slot.playerId = state.holder x) ∧
    ∀ i id position, s.Handles i ⟨id, .makeMove r state.gameId position⟩ (state.holder state.currentTurn) →
      isValidPosition position.row position.col = true →
      boardAt state.board ⟨toBoardIndex position.row, toBoardIndex position.col⟩ = .empty →
      ∃ t u seq n, s.step G i = some t ∧ t.gameState r = some u ∧
        u = (acceptMove state state.currentTurn (toBoardIndex position.row) (toBoardIndex position.col) s.now).newState ∧
        s.Hears t (state.holder state.currentTurn) (moveAckFor r u position state.currentTurn id seq n) ∧
        ∀ slot, room.slot (opponent state.currentTurn) = some slot → slot.connected = true →
          s.Hears t slot.playerId
            (moveBroadcastFor r u position state.currentTurn (state.holder state.currentTurn) (seq + 1) n) := by
  have hs := runs_seats hn hrun
  have hundecided := (runs_games GameState.undecided_kept (fun h _ => h) hrun).2 r state hstate
  refine ⟨(hundecided hactive).2, (hs.table hroom hstate hactive).1, fun i id position hhandles hv hempty => ?_⟩
  obtain ⟨gs, hgame, hgs⟩ := Option.bind_eq_some_iff.mp hstate
  obtain ⟨c, rec, token, hrouted, htoken, hp⟩ := hhandles
  obtain ⟨frame, diskFails, rfl, -⟩ := hrouted.frame
  obtain ⟨-, hplayed, seq, n, hmover, hother⟩ := hrouted.plays (G := G) hs htoken hp hroom hgame hgs hv
    ⟨hactive, rfl, hempty⟩ rfl
  exact ⟨_, _, seq, n, rfl, hplayed, rfl, hmover, hother⟩

/-- Player 1 takes the centre in the game of the opening. -/
theorem active_game_goes_on_opening : ∃ s state t u seq n, Runs tallies (fun _ _ => True) fresh s ∧
    s.gameState (tally 'r' 4) = some state ∧ state.status = .active ∧ s.step tallies (plays 0 "move1" 1 1) = some t ∧
    t.gameState (tally 'r' 4) = some u ∧ u.board 4 = .mark .X ∧
    s.Hears t (tally 'p' 1) (moveAckFor (tally 'r' 4) u ⟨.ofNat 1, .ofNat 1⟩ .X "move1" seq n) := by
  have hcheck : (Transition.run (step tallies) (fun _ _ => true) fresh opening).any (fun s =>
      (s.getRoom (tally 'r' 4)).isSome && decide (s.asker 0 "move1" = some (tally 'p' 1)) &&
      (s.gameState (tally 'r' 4)).any fun state => (state.status = .active) && (state.gameId = tally 'g' 5) &&
        (state.currentTurn = .X) && (state.playerX = tally 'p' 1) && (state.board 4 = .empty)) = true := by
    decide +kernel
  obtain ⟨s, hrun, hs⟩ := Transition.exists_run (C := fun _ _ => True) (fun _ _ _ => trivial) hcheck
  simp only [Bool.and_eq_true, Option.any_eq_true, decide_eq_true_eq] at hs
  obtain ⟨⟨hroom, hasker⟩, state, hstate, ⟨⟨⟨hactive, hid⟩, hturn⟩, hX⟩, hcell⟩ := hs
  obtain ⟨room, hroom⟩ := Option.isSome_iff_exists.mp hroom
  have hmover : state.holder state.currentTurn = tally 'p' 1 := by rw [hturn, ← hX]; rfl
  have hhandles := handles_of_asker hasker (.makeMove (tally 'r' 4) (tally 'g' 5) ⟨.ofNat 1, .ofNat 1⟩)
  rw [← hmover, ← hid] at hhandles
  obtain ⟨-, -, hgoes⟩ := active_game_goes_on tallies_neverRepeats hrun hroom hstate hactive
  obtain ⟨t, u, seq, n, hstep, hu, hmove, hhears, -⟩ := hgoes _ _ _ hhandles (by decide) hcell
  rw [hid] at hstep
  rw [hmover, hturn] at hhears
  refine ⟨s, state, t, u, seq, n, hrun, hstate, hactive, hstep, hu, ?_, hhears⟩
  rw [hmove, hturn]
  rcases acceptMove_cases state .X (toBoardIndex (.ofNat 1)) (toBoardIndex (.ofNat 1)) s.now with
    ⟨line, -, he⟩ | ⟨-, -, he⟩ | ⟨-, -, he⟩ <;> rw [he] <;> exact applyMarkToBoard_self state.board 1 1 .X

/-- As long as its two players have connections with as many commands left as there are empty cells, a running game in a
live room can be played to its end by their moves alone, whatever has happened before. -/
theorem game_can_be_finished {G : IdSource} (hn : G.NeverRepeats) {C : Server → Input → Prop} {now : Millis}
    {version : String} {repository : HistoryRepository} {s : Server} {r : RoomId} {room : RoomRecord} {state : GameState}
    (hrun : Runs G C (start now version repository) s) (hroom : s.getRoom r = some room)
    (hstate : s.gameState r = some state) (hactive : state.status = .active)
    (hsend : ∀ x, s.CanSend (9 - markCount state.board) (state.holder x)) :
    ∃ t u, Runs G (fun s i => ∃ id position x, s.Handles i ⟨id, .makeMove r state.gameId position⟩ (state.holder x)) s t ∧
      t.gameState r = some u ∧ u.gameId = state.gameId ∧ u.holder = state.holder ∧ u.status = .finished := by
  have hundecided := (runs_games GameState.undecided_kept (fun h _ => h) hrun).2 r state hstate
  have hle := markCount_le state.board
  exact (runs_seats hn hrun).completes hn hroom hstate hactive hundecided (by omega) hsend

/-- The check of `CanSend` for connection `m`. -/
def Server.sends (s : Server) (m n : Nat) (p : PlayerId) : Bool :=
  (s.connections.get (tally 'c' m)).any fun rec => rec.authenticated && rec.rateBucket.count + n ≤ RATE_MAX_MSGS &&
    rec.sessionToken.any fun token => (s.getSession token).any fun session => session.playerId = p

theorem Server.canSend_of_sends {s : Server} {m n : Nat} {p : PlayerId} (h : s.sends m n p = true) : s.CanSend n p := by
  simp only [Server.sends, Option.any_eq_true, Bool.and_eq_true, decide_eq_true_eq] at h
  obtain ⟨rec, hrec, ⟨hauth, hcount⟩, token, htoken, session, hsession, hp⟩ := h
  exact ⟨_, rec, token, session, hrec, hauth, htoken, hsession, hp, hcount⟩

/-- The game of the opening can be played to its end by players 1 and 3. -/
theorem game_can_be_finished_opening : ∃ s t state u, Runs tallies (fun _ _ => True) fresh s ∧
    s.gameState (tally 'r' 4) = some state ∧ state.playerX = tally 'p' 1 ∧ state.playerO = tally 'p' 3 ∧
    Runs tallies (fun s i => ∃ id position x,
      s.Handles i ⟨id, .makeMove (tally 'r' 4) (tally 'g' 5) position⟩ (state.holder x)) s t ∧
    t.gameState (tally 'r' 4) = some u ∧ u.gameId = tally 'g' 5 ∧ u.holder = state.holder ∧ u.status = .finished := by
  have hcheck : (Transition.run (step tallies) (fun _ _ => true) fresh opening).any (fun s =>
      (s.getRoom (tally 'r' 4)).isSome && (s.gameState (tally 'r' 4)).any fun state =>
        (state.status = .active) && (state.gameId = tally 'g' 5) && (state.playerX = tally 'p' 1) &&
        (state.playerO = tally 'p' 3) && s.sends 0 (9 - markCount state.board) state.playerX &&
        s.sends 2 (9 - markCount state.board) state.playerO) = true := by
    decide +kernel
  obtain ⟨s, hrun, hs⟩ := Transition.exists_run (C := fun _ _ => True) (fun _ _ _ => trivial) hcheck
  simp only [Bool.and_eq_true, Option.any_eq_true, decide_eq_true_eq] at hs
  obtain ⟨hroom, state, hstate, ⟨⟨⟨⟨hactive, hid⟩, hX⟩, hO⟩, hsendX⟩, hsendO⟩ := hs
  obtain ⟨room, hroom⟩ := Option.isSome_iff_exists.mp hroom
  have hsend : ∀ x, s.CanSend (9 - markCount state.board) (state.holder x) := by
    intro x
    cases x with
    | X => exact canSend_of_sends hsendX
    | O => exact canSend_of_sends hsendO
  obtain ⟨t, u, hmoves, hu, hsame, hplayers, hfinished⟩ :=
    game_can_be_finished tallies_neverRepeats hrun hroom hstate hactive hsend
  rw [hid] at hmoves hsame
  exact ⟨s, t, state, u, hrun, hstate, hX, hO, hmoves, hu, hsame, hplayers, hfinished⟩

end TicTacToe
