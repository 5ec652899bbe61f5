import TicTacToe.Theorems.Replay
import TicTacToe.Theorems.Standing

/-! # What a session tells about its game

Whatever a method does to the game of its session, the events that it sends to a player do the same to what the player
knows. So all that has been sent to a player since some event leads to the game as it stands. -/

namespace TicTacToe

/-- How the game of a session stands. -/
def GameSession.standing (gs : GameSession) : Standing := (gs.gameState.map GameState.standing).getD .initial

def RoomView.standing (v : RoomView) : Standing := (v.state.map GameState.standing).getD .initial

/-- How the game stands for player `q` after an event that is sent or not sent to `q`. -/
def Standing.overhear (q : PlayerId) (v : Standing) (entry : BufferEntry) : Standing :=
  if GameSession.addressedTo q entry then v.hear entry.event.payload else v

theorem Standing.overhear_overwriting (q : PlayerId) : Overwriting (Standing.overhear q) :=
  (Standing.hear_overwriting.comap fun entry : BufferEntry => entry.event.payload).noticed (GameSession.addressedTo q)

/-- How the game stands for player `q` after some calls of the send function. -/
def Standing.told (q : PlayerId) (v : Standing) (calls : List SendCall) : Standing :=
  (calls.filterMap SendCall.entry).foldl (Standing.overhear q) v

theorem Standing.told_append (q : PlayerId) (v : Standing) (calls calls' : List SendCall) :
    v.told q (calls ++ calls') = (v.told q calls).told q calls' := by
  rw [told, List.filterMap_append, List.foldl_append]
  rfl

/-- The event is not about the game itself. -/
def RoomPayload.apart : RoomPayload → Bool
  | .playerJoined .. => true
  | .roomLeft => true
  | .playerLeft .. => true
  | .playerReadyAck _ => true
  | .opponentReady .. => true
  | .rematchRequested .. => true
  | .rematchDeclined .. => true
  | .rematchExpired _ => true
  | .opponentDisconnected .. => true
  | .opponentReconnected _ => true
  | _ => false

theorem Standing.hear_apart {payload : RoomPayload} (h : payload.apart = true) (v : Standing) : v.hear payload = v := by
  cases payload with
  | roomJoined | gameStarted | moveAck | moveBroadcast | moveRejected | gameFinished | reconnectAck | stateSyncReplay
  | stateSyncSnapshot => cases h
  | _ => rfl

theorem Standing.told_room {target : SendTarget} {p q : PlayerId} {event : RoomEvent} (v : Standing) :
    v.told q [⟨target, p, .room event⟩] = v.overhear q ⟨event, target, p⟩ := rfl

theorem Standing.told_apart {target : SendTarget} {p q : PlayerId} {event : RoomEvent} (h : event.payload.apart = true)
    (v : Standing) : v.told q [⟨target, p, .room event⟩] = v := by
  rw [told_room, overhear]
  split
  · exact hear_apart h v
  · rfl

namespace GameSession
variable {gs t : GameSession} {now : Millis} {room : RoomRecord} {p q : PlayerId} {repository : HistoryRepository}
  {diskFails : Bool}

theorem standing_of_state (h : t.gameState = gs.gameState) : t.standing = gs.standing := by rw [standing, h, standing]

theorem standing_of_some {state : GameState} (h : gs.gameState = some state) : gs.standing = state.standing := by
  rw [standing, h]
  rfl

/-- What a method sends leads everybody from the game before to the game after it. -/
def Tells (gs : GameSession) (e : Emitted) : Prop := ∀ q, gs.standing.told q e.sends = e.session.standing

namespace Tells

theorem silent (h : t.gameState = gs.gameState) : gs.Tells ⟨t, []⟩ := fun _ => (standing_of_state h).symm

/-- A method that leaves the game alone, and sends an event that is not about the game. -/
theorem apart {target : SendTarget} {event : RoomEvent} (h : t.gameState = gs.gameState)
    (hevent : event.payload.apart = true) : gs.Tells ⟨t, [⟨target, p, .room event⟩]⟩ := fun _ => by
  rw [Standing.told_apart hevent]
  exact (standing_of_state h).symm

theorem relabel {e : Emitted} (h : gs.Tells e) (ht : t.gameState = e.session.gameState) : gs.Tells ⟨t, e.sends⟩ :=
  fun q => (h q).trans (standing_of_state ht).symm

theorem trans {e e' : Emitted} (h : gs.Tells e) (h' : e.session.Tells e') : gs.Tells ⟨e'.session, e.sends ++ e'.sends⟩ := by
  intro q
  rw [Standing.told_append, h q]
  exact h' q

end Tells

/-! ### The methods -/

theorem tellOpponent_tells (gs : GameSession) (room : RoomRecord) (p : PlayerId)
    (makeEvent : PlayerSymbol → Nat → RoomEvent) (h : ∀ symbol seq, (makeEvent symbol seq).payload.apart = true) :
    gs.Tells (gs.tellOpponent room p makeEvent) := by
  rcases tellOpponent_cases gs room p makeEvent with he | ⟨symbol, opponent, -, -, -, he⟩ <;> rw [he]
  · exact .silent rfl
  · exact .apart rfl (h _ _)

/-- Everybody gets to know the new game. -/
theorem startGame_tells (gs : GameSession) (now : Millis) (gameId : GameId) (room : RoomRecord) (firstTurn : PlayerSymbol) :
    gs.Tells (gs.startGame now gameId room firstTurn) := by
  rcases startGame_cases gs now gameId room firstTurn with h | ⟨playerX, playerO, -, -, h⟩ <;> rw [h]
  · exact .silent rfl
  · exact fun q => rfl

/-- The end of a game, told to those who know all but the end. -/
theorem Ending.tells {state : GameState} {result : GameResult} {e : GameEffect} {v : Standing}
    (h : Ending gs repository diskFails p state result e) (hthrew : e.threw = false) (hstate : gs.gameState = some state)
    (hstatus : state.status = .finished) (hresult : state.result = some result) (hturn : v.turn = state.currentTurn)
    (hid : v.gameId = some state.gameId) (q : PlayerId) : v.told q e.sends = e.session.standing := by
  have hfinished : ∀ seq, v.hear (finishedEvent gs.roomId state result seq).payload = state.standing := by
    intro seq
    have hset : v.hear (finishedEvent gs.roomId state result seq).payload =
        ⟨state.board, v.turn, .finished, v.gameId, some result⟩ := rfl
    rw [hset, hturn, hid, GameState.standing, hstatus, hresult]
  rw [standing_of_some (h.fields.2.1.trans hstate)]
  cases h with
  | known => exact hfinished _
  | failed => cases hthrew
  | recorded => exact hfinished _

theorem handleEnd_tells {outcome : GameOutcome} {reason : GameEndReason}
    (hthrew : (gs.handleEnd repository diskFails p fun state => endGame state outcome reason p now).threw = false) :
    gs.Tells (gs.handleEnd repository diskFails p fun state => endGame state outcome reason p now).toEmitted := by
  rcases handleEnd_cases gs repository diskFails p outcome reason now with ⟨-, h⟩ | ⟨state, result, hstate, -, hresult, h⟩
  · rw [h]
    exact .silent rfl
  · exact h.tells hthrew rfl rfl hresult (by rw [standing_of_some hstate]; rfl) (by rw [standing_of_some hstate]; rfl)

/-- A move is told to the mover in one event and to everybody else in another one. -/
theorem announced_told {gameId : GameId} {position : RawPosition} {commandId : CommandId} {made : MoveMade} (v : Standing) :
    v.told q (gs.announced p gameId position commandId made).sends =
      { v with board := made.board, turn := made.nextTurn.getD v.turn } := by
  have hsends : (gs.announced p gameId position commandId made).sends =
      [⟨.player, p, .room (gs.ackEvent gameId position commandId made)⟩] ++
        [⟨.others, p, .room (gs.broadcastEvent p gameId position made)⟩] := rfl
  rw [hsends, Standing.told_append, Standing.told_room, Standing.told_room, Standing.overhear, Standing.overhear]
  by_cases hq : p = q
  · have hack : addressedTo q ⟨gs.ackEvent gameId position commandId made, .player, p⟩ = true := decide_eq_true hq
    have hother : addressedTo q ⟨gs.broadcastEvent p gameId position made, .others, p⟩ = false :=
      decide_eq_false (not_not_intro hq)
    rw [if_pos hack, hother]
    rfl
  · have hack : addressedTo q ⟨gs.ackEvent gameId position commandId made, .player, p⟩ = false := decide_eq_false hq
    have hother : addressedTo q ⟨gs.broadcastEvent p gameId position made, .others, p⟩ = true := decide_eq_true hq
    rw [hack, if_pos hother]
    rfl

theorem handleMove_tells {gameId : GameId} {position : RawPosition} {commandId : CommandId}
    (hthrew : (gs.handleMove now repository diskFails p gameId position commandId).threw = false) :
    gs.Tells (gs.handleMove now repository diskFails p gameId position commandId).toEmitted := by
  have hm := handleMove_moving gs now repository diskFails p gameId position commandId
  generalize gs.handleMove now repository diskFails p gameId position commandId = o at hm hthrew
  intro q
  cases hm with
  | refused => rfl
  | @rejected state reason hstate hid hactive happly =>
    -- A rejection shows the mover what is so anyway.
    have hsame : gs.standing.hear (gs.rejectedEvent state position commandId reason).payload = gs.standing := by
      rw [standing_of_some hstate]
      rfl
    have htold : gs.standing.overhear q ⟨gs.rejectedEvent state position commandId reason, .player, p⟩ = gs.standing := by
      rw [Standing.overhear]
      split
      · exact hsame
      · rfl
    exact htold
  | @continued state t made hstate hid hmove =>
    have hafter :
        ({ gs with gameState := some t }.announced p gameId position commandId made).session.standing = t.standing :=
      standing_of_some (announced_same _ _ _ _ _ _).gameState
    refine (announced_told gs.standing).trans (Eq.trans ?_ hafter.symm)
    rcases hmove.outcome with ⟨hstatus, hresult, hturn, -⟩ | ⟨_, -, -, -, -, -, hnone⟩
    · rw [standing_of_some hstate, hmove.board, hturn, GameState.standing, GameState.standing, hstatus, hresult,
        hmove.active, hmove.gameId]
      rfl
    · cases hnone
  | @finished state t made ended result e hstate hid hmove hresult he =>
    have hstate' :
        ({ gs with gameState := some t }.announced p gameId position commandId made).session.gameState = some t :=
      (announced_same _ _ _ _ _ _).gameState
    rcases hmove.outcome with ⟨-, -, -, hnone⟩ | ⟨_, hstatus, -, hturn, -, hnext, -⟩
    · cases hnone
    · refine (Standing.told_append q gs.standing _ e.sends).trans ?_
      rw [announced_told, standing_of_some hstate, hnext]
      exact he.tells hthrew hstate' hstatus hresult hturn.symm (congrArg some hmove.gameId.symm) q

theorem handleRematchRequest_tells (gs : GameSession) (now : Millis) (room : RoomRecord) (p : PlayerId) (gameId : GameId) :
    gs.Tells (gs.handleRematchRequest now room p gameId).toEmitted := by
  rcases handleRematchRequest_cases gs now room p gameId with h | ⟨symbol, -, -, -, h⟩ <;> rw [h]
  · exact .silent rfl
  · exact .apart rfl rfl

theorem handleRematchAccept_tells (gs : GameSession) (now : Millis) (gameIds : GameId × GameId) (room : RoomRecord)
    (p : PlayerId) (gameId : GameId) : gs.Tells (gs.handleRematchAccept now gameIds room p gameId).toEmitted := by
  rcases handleRematchAccept_cases gs now gameIds room p gameId with
    h | ⟨state, _, _, -, -, -, -, -, ⟨-, h⟩ | ⟨-, h⟩⟩ <;> rw [h]
  · exact .silent rfl
  · exact .silent rfl
  · exact startGame_tells { gs with rematch := none } now gameIds.2 room.resetReady (opponent state.firstTurn)

theorem handleRematchDecline_tells (gs : GameSession) (room : RoomRecord) (p : PlayerId) (gameId : GameId) :
    gs.Tells (gs.handleRematchDecline room p gameId).toEmitted := by
  rcases handleRematchDecline_cases gs room p gameId with h | ⟨symbol, -, -, h⟩ <;> rw [h]
  · exact .silent rfl
  · exact .apart rfl rfl

theorem expireRematch_tells (gs : GameSession) (room : RoomRecord) (gameId : GameId) :
    gs.Tells (gs.expireRematch room gameId) := by
  rcases expireRematch_cases gs room gameId with h | h | ⟨anyPlayer, h⟩ <;> rw [h]
  · exact .silent rfl
  · exact .silent rfl
  · exact .apart rfl rfl

theorem startReconnectWindow_tells (gs : GameSession) (now : Millis) (room : RoomRecord) (p : PlayerId) :
    gs.Tells (gs.startReconnectWindow now room p) := by
  have htold := tellOpponent_tells (gs.clearReconnectWindow p) room p
    (fun symbol seq => makeOpponentDisconnected gs.roomId symbol (now + RECONNECT_WINDOW_MS) seq) fun _ _ => rfl
  exact htold.relabel rfl

theorem notifyOpponentReconnected_tells (gs : GameSession) (room : RoomRecord) (p : PlayerId) :
    gs.Tells (gs.notifyOpponentReconnected room p) :=
  tellOpponent_tells gs room p _ fun _ _ => rfl

theorem expireReconnectWindow_tells {symbol : Option PlayerSymbol}
    (hthrew : (gs.expireReconnectWindow now repository diskFails p symbol).threw = false) :
    gs.Tells (gs.expireReconnectWindow now repository diskFails p symbol).toEmitted := by
  have habandoned : (gs.handleAbandon now repository diskFails p).threw = false →
      gs.Tells (gs.handleAbandon now repository diskFails p).toEmitted := fun h => handleEnd_tells h
  rcases expireReconnectWindow_cases gs now repository diskFails p symbol with
    ⟨hfailed, he⟩ | ⟨hfine, -, he⟩ | ⟨x, hfine, -, he⟩
  · rw [he, hfailed] at hthrew
    cases hthrew
  · rw [he]
    exact (habandoned hfine).relabel rfl
  · rw [he]
    exact ((habandoned hfine).trans
      (.apart (t := (gs.handleAbandon now repository diskFails p).session) rfl rfl)).relabel rfl

end GameSession

/-! ### Steps of a room -/

/-- A save of the history has failed. -/
def RoomAction.throws : RoomAction → Bool
  | .leaveThrew _ => true
  | .moveThrew .. => true
  | _ => false

section Steps
variable {G : IdSource} {now : Millis} {r : RoomId} {lo hi : Nat} {v v' : RoomView} {a : RoomAction}
  {sends : List SendCall}

theorem RoomView.standing_of_game {gs : GameSession} (h : v.game = some gs) : v.standing = gs.standing := by
  rw [standing, state, h]
  rfl

theorem RoomView.standing_gameOrNew (v : RoomView) (r : RoomId) : (v.gameOrNew r).standing = v.standing := by
  rw [RoomView.standing, state, gameOrNew]
  cases v.game <;> rfl

/-- A step tells everybody what it does to the game. -/
theorem RoomStep.tells (h : RoomStep G now r lo hi v a sends v') (ha : a.throws = false) (q : PlayerId) :
    v.standing.told q sends = v'.standing := by
  -- A method of the session there is, and whatever numbers are drawn afterwards.
  have hmethod : ∀ {gs t : GameSession} {e : Emitted}, v.standing = gs.standing → v'.game = some t →
      t.gameState = e.session.gameState → gs.Tells e → v.standing.told q e.sends = v'.standing := by
    intro gs t e hbefore hafter hstate htells
    rw [hbefore, RoomView.standing_of_game hafter, GameSession.standing_of_state hstate]
    exact htells q
  have hnew := v.standing_gameOrNew r
  cases h with
  | idle | created | leftIdleRoom | reconnectedIdle | disconnected => rfl
  | rejoined =>
    rw [RoomView.standing, RoomView.standing, RoomView.state, RoomView.state]
    cases v.game <;> rfl
  | entered | readied | readiedAgain => exact hmethod hnew.symm rfl rfl (.silent (t := v.gameOrNew r) rfl)
  | startedReady => exact hmethod hnew.symm rfl rfl (GameSession.startGame_tells ((v.gameOrNew r).bump _) _ _ _ _)
  | left hroom hslot hgame hload hthrew =>
    exact hmethod (RoomView.standing_of_game hgame) rfl rfl (GameSession.handleEnd_tells hthrew)
  | leaveThrew | moveThrew => cases ha
  | moved hroom hgame hload hthrew =>
    exact hmethod (RoomView.standing_of_game hgame) rfl rfl (GameSession.handleMove_tells hthrew)
  | rematchRequested hroom hgame =>
    exact hmethod (RoomView.standing_of_game hgame) rfl rfl (GameSession.handleRematchRequest_tells _ _ _ _ _)
  | rematchAccepted hroom hgame =>
    exact hmethod (RoomView.standing_of_game hgame) rfl rfl (GameSession.handleRematchAccept_tells _ _ _ _ _ _)
  | rematchDeclined hroom hgame =>
    exact hmethod (RoomView.standing_of_game hgame) rfl rfl (GameSession.handleRematchDecline_tells _ _ _ _)
  | @reconnected p room gs hroom hslot hgame =>
    have hcleared : gs.standing = (gs.clearReconnectWindow p).standing := GameSession.standing_of_state rfl
    exact hmethod ((RoomView.standing_of_game hgame).trans hcleared) rfl rfl
      (GameSession.notifyOpponentReconnected_tells _ _ _)
  | windowArmed hroom hgame =>
    exact hmethod (RoomView.standing_of_game hgame) rfl rfl (GameSession.startReconnectWindow_tells _ _ _ _)
  | windowFired hgame htimer hdue hload hroom hthrew =>
    exact hmethod (RoomView.standing_of_game hgame) rfl rfl (GameSession.expireReconnectWindow_tells hthrew)
  | rematchFired hroom hgame =>
    exact hmethod (RoomView.standing_of_game hgame) rfl rfl (GameSession.expireRematch_tells _ _ _)

end Steps

/-! ### Runs -/

theorem Retold.handOver {q : PlayerId} {log : List BufferEntry} {v : Standing}
    (h : Retold (Standing.overhear q) log v) (calls : List SendCall) :
    Retold (Standing.overhear q) (handOver log calls) (v.told q calls) := by
  unfold TicTacToe.handOver Standing.told
  generalize calls.filterMap SendCall.entry = entries
  induction entries generalizing log v with
  | nil => exact h
  | cons entry entries ih =>
    refine ih ?_
    unfold enlog
    split
    · exact Retold.nil.concat (Standing.overhear_overwriting q) entry
    · exact h.concat (Standing.overhear_overwriting q) entry

namespace Server
variable {s t : Server} {G : IdSource} {i : Input} {r r' : RoomId} {a : RoomAction} {p q : PlayerId} {fromSeq toSeq : Nat}
  {events : List RoomEvent} {sent : List (RoomId × SendCall)}

def standing (s : Server) (r : RoomId) : Standing := (s.view r).standing

/-- What has been sent to a player since some event of the game leads to the game as it stands. -/
def Retelling (s : Server) : Prop := ∀ r q, Retold (Standing.overhear q) (s.handed r) (s.standing r)

theorem start_retelling (now : Millis) (version : String) (repository : HistoryRepository) :
    (start now version repository).Retelling := fun _ _ => .nil

/-- A step tells everybody what it does to the games. -/
theorem Acts.tells (h : Acts G s t r a) (ha : a.throws = false) (hlog : t.sendLog = s.sendLog ++ sent) (r' : RoomId)
    (q : PlayerId) : (s.standing r').told q (callsOf r' sent) = t.standing r' := by
  obtain ⟨sends, hstep, hsends⟩ := h.step
  obtain rfl := List.append_cancel_left (hlog.symm.trans hsends)
  rw [callsOf_sent]
  split
  · rename_i hr
    subst hr
    exact hstep.tells ha q
  · rename_i hr
    exact congrArg RoomView.standing (h.other r' (Ne.symm hr)).symm

/-- Only a failing disk makes an action throw. -/
theorem Cause.not_throws (h : s.Cause i r a) (hi : i.diskFails = false) : a.throws = false := by
  cases a with
  | leaveThrew =>
    obtain ⟨hfails, -⟩ := h
    rw [hi] at hfails
    cases hfails
  | moveThrew =>
    obtain ⟨hfails, -⟩ := h
    rw [hi] at hfails
    cases hfails
  | _ => rfl

/-- What a step sends, and what it does to the games. -/
theorem step_tells (hk : s.Keyed) (hi : i.diskFails = false) (h : s.step G i = some t) : ∃ sent,
    t.sendLog = s.sendLog ++ sent ∧ ∀ r q, (s.standing r).told q (callsOf r sent) = t.standing r := by
  rcases step_acts hk h with ⟨elapsed, -, rfl⟩ | ⟨r, a, hacts, hcause⟩
  · exact ⟨[], (List.append_nil _).symm, fun r q => rfl⟩
  · obtain ⟨sends, -, hlog⟩ := hacts.step
    exact ⟨_, hlog, hacts.tells (hcause.not_throws hi) hlog⟩

theorem handed_sent (h : t.sendLog = s.sendLog ++ sent) (r : RoomId) :
    t.handed r = handOver (s.handed r) (callsOf r sent) := by
  rw [handed, handed, ← handOver_append, h]
  simp only [callsOf, List.filter_append, List.map_append]

theorem Retelling.step (hs : s.Retelling) (hk : s.Keyed) (hi : i.diskFails = false) (h : s.step G i = some t) :
    t.Retelling := by
  obtain ⟨sent, hlog, htells⟩ := step_tells hk hi h
  intro r q
  rw [handed_sent hlog, ← htells r q]
  exact (hs r q).handOver _

theorem overhear_unbuffered {entry : BufferEntry} (h : entry.emitted = false) (v : Standing) : v.overhear q entry = v := by
  have hapart : entry.event.payload.apart = true := by
    obtain ⟨⟨roomId, seq, id, payload⟩, target, p⟩ := entry
    cases payload with
    | rematchDeclined => rfl
    | _ => cases h
  unfold Standing.overhear
  split
  · exact Standing.hear_apart hapart v
  · rfl

/-- A replay tells the player nothing new. -/
theorem Retelling.replayed (hs : s.Retelling) (hb : s.Backed) (h : s.replayFor r fromSeq p = some events) :
    (s.standing r).hear (.stateSyncReplay fromSeq toSeq events) = s.standing r := by
  obtain ⟨hbind, hne⟩ := Option.filter_eq_some_iff.mp h
  obtain ⟨gs, hg, hevents⟩ := Option.bind_eq_some_iff.mp hbind
  obtain ⟨-, -, -, rfl⟩ := GameSession.getReplayEvents_some hevents (of_decide_eq_true hne)
  have hbacked : gs.Backed (s.handed r) := (hb r).some gs hg
  have hbuffer : Retold (Standing.overhear p) gs.replayBuffer (s.standing r) := by
    rw [hbacked.buffer]
    exact ((hs r p).filter fun v entry hentry => overhear_unbuffered hentry v).suffix (List.drop_suffix _ _)
  -- From the number on, the buffer has an end of the log.
  have hend := hbuffer _ (hbacked.buffered.filter_from fromSeq)
  have hmissed : missedBy p fromSeq = fun entry => GameSession.addressedTo p entry && decide (fromSeq ≤ entry.number) :=
    funext fun entry => Bool.and_comm _ _
  rw [Standing.hear_replay, List.foldl_map, GameSession.missed, hmissed, ← List.filter_filter, List.foldl_filter]
  exact hend

end Server
end TicTacToe
