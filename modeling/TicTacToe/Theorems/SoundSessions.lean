import TicTacToe.Theorems.SessionMethods
import TicTacToe.Theorems.EventsDecode
import TicTacToe.Theorems.CommandsDecode

/-! # What a game session sends is sound

A session of a room with a room code whose games have UUIDs sends and buffers sound events, when its methods are called
with what the guards have accepted. -/

namespace TicTacToe

/-- The ids in a session have their formats, and what it has buffered is sound. -/
structure GameSession.Sound (gs : GameSession) : Prop where
  roomId : isRoomCode (utf16 gs.roomId) = true
  state : ∀ state, gs.gameState = some state → isUuid (utf16 state.gameId) = true
  rematch : ∀ proposal, gs.rematch = some proposal → isUuid (utf16 proposal.gameId) = true
  buffer : ∀ entry ∈ gs.replayBuffer, entry.event.Sound
  timers : ∀ p timer, gs.reconnectTimers.get p = some timer → isUuid (utf16 p) = true

/-- The events of all calls are sound. -/
def SoundCalls (calls : List SendCall) : Prop := ∀ call ∈ calls, call.event.Sound

structure Emitted.Sound (e : Emitted) : Prop where
  session : e.session.Sound
  sends : SoundCalls e.sends

namespace SoundCalls

theorem nil : SoundCalls [] := fun _ h => by cases h

theorem one {target : SendTarget} {p : PlayerId} {e : Event} (h : e.Sound) : SoundCalls [⟨target, p, e⟩] := by
  intro call hcall
  rw [List.mem_singleton.mp hcall]
  exact h

theorem append {calls calls' : List SendCall} (h : SoundCalls calls) (h' : SoundCalls calls') :
    SoundCalls (calls ++ calls') := by
  intro call hcall
  exact (List.mem_append.mp hcall).elim (h call) (h' call)

end SoundCalls

namespace GameSession
variable {gs t : GameSession} {now : Millis} {repository : HistoryRepository} {diskFails : Bool} {p : PlayerId}
  {room : RoomRecord} {gameId : GameId}

/-! ### The session -/

theorem Sound.new {r : RoomId} (hr : isRoomCode (utf16 r) = true) (repository : HistoryRepository) :
    (new r repository).Sound where
  roomId := hr
  state _ h := by cases h
  rematch _ h := by cases h
  buffer _ h := by cases h
  timers _ _ h := by cases h

namespace Sound

theorem nextSeq (h : gs.Sound) : gs.nextSeq.Sound := ⟨h.roomId, h.state, h.rematch, h.buffer, h.timers⟩

theorem withState (h : gs.Sound) {state : GameState} (hid : isUuid (utf16 state.gameId) = true) :
    { gs with gameState := some state }.Sound :=
  ⟨h.roomId, fun _ he => Option.some.inj he ▸ hid, h.rematch, h.buffer, h.timers⟩

theorem withRematch (h : gs.Sound) {rematch : Option RematchProposal}
    (hid : ∀ proposal, rematch = some proposal → isUuid (utf16 proposal.gameId) = true) :
    { gs with rematch := rematch }.Sound := ⟨h.roomId, h.state, hid, h.buffer, h.timers⟩

theorem withoutRematch (h : gs.Sound) : { gs with rematch := none }.Sound := h.withRematch fun _ he => by cases he

theorem clearReconnectWindow (h : gs.Sound) (p : PlayerId) : (gs.clearReconnectWindow p).Sound := by
  refine ⟨h.roomId, h.state, h.rematch, h.buffer, fun q timer hq => ?_⟩
  rw [clearReconnectWindow_get] at hq
  split at hq
  · cases hq
  · exact h.timers q timer hq

/-- The events of a session carry its room and positive numbers. -/
theorem event (h : gs.Sound) {n : Nat} {id : Option CommandId} {payload : RoomPayload} (hpayload : payload.Sound) :
    RoomEvent.Sound ⟨gs.roomId, n + 1, id, payload⟩ := ⟨h.roomId, Nat.le_add_left 1 n, hpayload⟩

theorem emit (h : gs.Sound) {event : RoomEvent} (he : event.Sound) (target : SendTarget) (p : PlayerId) :
    (gs.emit target p event).Sound := by
  have hsame := emit_same gs target p event
  have hbuffer : ∀ entry ∈ (gs.emit target p event).session.replayBuffer, entry.event.Sound := by
    intro entry hentry
    simp only [GameSession.emit, push, trimBuffer] at hentry
    rcases List.mem_append.mp (List.mem_of_mem_drop hentry) with hmem | hmem
    · exact h.buffer entry hmem
    · rw [List.mem_singleton.mp hmem]
      exact he
  have hsends : SoundCalls (gs.emit target p event).sends := by
    rw [emit_sends]
    exact .one he
  generalize gs.emit target p event = emitted at hsame hbuffer hsends ⊢
  exact ⟨⟨hsame.roomId ▸ h.roomId, hsame.gameState ▸ h.state, hsame.rematch ▸ h.rematch, hbuffer,
    hsame.reconnectTimers ▸ h.timers⟩, hsends⟩

theorem silent (h : gs.Sound) : (Emitted.mk gs []).Sound := ⟨h, .nil⟩

end Sound

/-! ### Games -/

theorem Sound.startGame (h : gs.Sound) (hid : isUuid (utf16 gameId) = true) (now : Millis) (room : RoomRecord)
    (firstTurn : PlayerSymbol) : (gs.startGame now gameId room firstTurn).Sound := by
  rcases startGame_cases gs now gameId room firstTurn with he | ⟨playerX, playerO, -, -, he⟩ <;> rw [he]
  · exact h.silent
  · have hstarted : ({ gs with
        gameState := some (gs.openingState now gameId playerX playerO firstTurn)
        sessionSeq := 1
        replayBuffer := [] } : GameSession).Sound :=
      ⟨h.roomId, fun _ hs => Option.some.inj hs ▸ hid, h.rematch, by simp, h.timers⟩
    refine hstarted.emit (h.event ?_) _ _
    exact hid

theorem Ending.sound {state : GameState} {result : GameResult} {e : GameEffect}
    (h : Ending gs repository diskFails p state result e) (hs : gs.Sound) (hid : isUuid (utf16 state.gameId) = true) :
    e.toEmitted.Sound := by
  have hrecorded : ∀ games, { gs.nextSeq with completedGames := games }.Sound := fun games =>
    ⟨hs.roomId, hs.state, hs.rematch, hs.buffer, hs.timers⟩
  cases h with
  | known =>
    refine hs.nextSeq.emit (hs.event ?_) _ _
    exact hid
  | failed => exact (hrecorded _).silent
  | recorded =>
    refine (hrecorded _).emit (hs.event ?_) _ _
    exact hid

theorem Sound.handleEnd (h : gs.Sound) (repository : HistoryRepository) (diskFails : Bool) (p : PlayerId)
    (outcome : GameOutcome) (reason : GameEndReason) (now : Millis) :
    (gs.handleEnd repository diskFails p fun state => endGame state outcome reason p now).toEmitted.Sound := by
  rcases handleEnd_cases gs repository diskFails p outcome reason now with ⟨-, he⟩ | ⟨state, _, hstate, -, -, he⟩
  · rw [he]
    exact h.silent
  · have hid : isUuid (utf16 state.gameId) = true := h.state state hstate
    exact he.sound (h.withState hid) hid

/-- `MOVE_ACK` and `MOVE_BROADCAST`. -/
theorem Sound.announced (h : gs.Sound) (hid : isUuid (utf16 gameId) = true) (hp : isUuid (utf16 p) = true)
    {position : RawPosition} (hposition : position.Finite) (commandId : CommandId) (made : MoveMade) :
    (gs.announced p gameId position commandId made).Sound := by
  have hackEvent : (gs.ackEvent gameId position commandId made).Sound := h.event ⟨hid, hposition⟩
  have htoldEvent : (gs.broadcastEvent p gameId position made).Sound := h.event ⟨hid, hposition, hp⟩
  have hack := h.nextSeq.emit hackEvent .player p
  have htold := hack.session.nextSeq.emit htoldEvent .others p
  exact ⟨htold.session, hack.sends.append htold.sends⟩

theorem Sound.handleMove (h : gs.Sound) (hp : isUuid (utf16 p) = true) {position : RawPosition}
    (hposition : position.Finite) (now : Millis) (repository : HistoryRepository) (diskFails : Bool) (gameId : GameId)
    (commandId : CommandId) :
    (gs.handleMove now repository diskFails p gameId position commandId).toEmitted.Sound ∧
      ∀ e, (gs.handleMove now repository diskFails p gameId position commandId).response = some e → e.Sound := by
  have hm := handleMove_moving gs now repository diskFails p gameId position commandId
  generalize gs.handleMove now repository diskFails p gameId position commandId = o at hm ⊢
  cases hm with
  | refused code detail => exact ⟨⟨h, .one trivial⟩, fun _ he => by cases he⟩
  | @rejected state reason hstate =>
    have hevent : (gs.rejectedEvent state position commandId reason).Sound :=
      h.event ⟨h.state state hstate, hposition⟩
    exact ⟨h.nextSeq.emit hevent _ _, fun _ he => Option.some.inj he ▸ hevent⟩
  | @continued state t made hstate hid hmove =>
    have hgame : isUuid (utf16 gameId) = true := hid ▸ h.state state hstate
    refine ⟨(h.withState (hmove.gameId ▸ h.state state hstate)).announced hgame hp hposition _ _, fun _ he => ?_⟩
    exact Option.some.inj he ▸ h.event ⟨hgame, hposition⟩
  | @finished state t made ended result e hstate hid hmove hresult he =>
    have hgame : isUuid (utf16 gameId) = true := hid ▸ h.state state hstate
    have hstate' : isUuid (utf16 t.gameId) = true := hmove.gameId ▸ h.state state hstate
    have hannounced := (h.withState hstate').announced hgame hp hposition commandId made
    have hended := he.sound hannounced.session hstate'
    refine ⟨⟨hended.session, hannounced.sends.append hended.sends⟩, fun response hresponse => ?_⟩
    dsimp only at hresponse
    split at hresponse
    · cases hresponse
    · exact Option.some.inj hresponse ▸ h.event ⟨hgame, hposition⟩

/-! ### Rematch -/

theorem Sound.handleRematchRequest (h : gs.Sound) (hid : isUuid (utf16 gameId) = true) (now : Millis)
    (room : RoomRecord) (p : PlayerId) : (gs.handleRematchRequest now room p gameId).toEmitted.Sound := by
  rcases handleRematchRequest_cases gs now room p gameId with he | ⟨symbol, -, -, -, he⟩ <;> rw [he]
  · exact h.silent
  · refine (h.withRematch fun proposed hproposed => ?_).nextSeq.emit (h.event ?_) _ _
    · rw [← Option.some.inj hproposed]
      exact hid
    · exact hid

theorem Sound.handleRematchAccept (h : gs.Sound) {gameIds : GameId × GameId}
    (hdrawn : isUuid (utf16 gameIds.2) = true) (now : Millis) (room : RoomRecord) (p : PlayerId) (gameId : GameId) :
    (gs.handleRematchAccept now gameIds room p gameId).toEmitted.Sound := by
  rcases handleRematchAccept_cases gs now gameIds room p gameId with
    he | ⟨state, proposal, symbol, -, -, -, hproposal, -, ⟨-, he⟩ | ⟨-, he⟩⟩ <;> rw [he]
  · exact h.silent
  · refine (h.withRematch fun accepted haccepted => ?_).silent
    rw [← Option.some.inj haccepted]
    exact h.rematch proposal hproposal
  · exact h.withoutRematch.startGame hdrawn _ _ _

theorem Sound.handleRematchDecline (h : gs.Sound) (hid : isUuid (utf16 gameId) = true) (room : RoomRecord)
    (p : PlayerId) : (gs.handleRematchDecline room p gameId).toEmitted.Sound := by
  rcases handleRematchDecline_cases gs room p gameId with he | ⟨symbol, -, -, he⟩ <;> rw [he]
  · exact h.silent
  · exact ⟨h.withoutRematch.nextSeq, .one (h.event hid)⟩

theorem Sound.expireRematch (h : gs.Sound) (hid : isUuid (utf16 gameId) = true) (room : RoomRecord) :
    (gs.expireRematch room gameId).Sound := by
  rcases expireRematch_cases gs room gameId with he | he | ⟨anyPlayer, he⟩ <;> rw [he]
  · exact h.silent
  · exact h.withoutRematch.silent
  · refine h.withoutRematch.nextSeq.emit (h.event ?_) _ _
    exact hid

/-! ### Reconnect windows -/

theorem Sound.tellOpponent (h : gs.Sound) (room : RoomRecord) (p : PlayerId)
    {makeEvent : PlayerSymbol → Nat → RoomEvent} (hmake : ∀ symbol seq, (makeEvent symbol (seq + 1)).Sound) :
    (gs.tellOpponent room p makeEvent).Sound := by
  rcases tellOpponent_cases gs room p makeEvent with he | ⟨symbol, _, -, -, -, he⟩ <;> rw [he]
  · exact h.silent
  · exact h.nextSeq.emit (hmake symbol gs.sessionSeq) _ _

theorem Sound.notifyOpponentReconnected (h : gs.Sound) (room : RoomRecord) (p : PlayerId) :
    (gs.notifyOpponentReconnected room p).Sound := h.tellOpponent room p fun _ _ => h.event trivial

theorem Sound.startReconnectWindow (h : gs.Sound) (hp : isUuid (utf16 p) = true) (now : Millis) (room : RoomRecord) :
    (gs.startReconnectWindow now room p).Sound := by
  have htold : ((gs.clearReconnectWindow p).tellOpponent room p fun symbol seq =>
      makeOpponentDisconnected (gs.clearReconnectWindow p).roomId symbol (now + RECONNECT_WINDOW_MS) seq).Sound :=
    (h.clearReconnectWindow p).tellOpponent room p fun _ _ => h.event trivial
  obtain ⟨hs, hsends⟩ := htold
  refine ⟨⟨hs.roomId, hs.state, hs.rematch, hs.buffer, fun q timer hq => ?_⟩, hsends⟩
  have hget : (gs.startReconnectWindow now room p).session.reconnectTimers.get q = _ :=
    (startReconnectWindow_fields gs now room p).2.2.2.2 q
  rw [hget] at hq
  split at hq
  · rename_i hpq
    exact hpq ▸ hp
  · exact h.timers q timer hq

theorem Sound.expireReconnectWindow (h : gs.Sound) (hp : isUuid (utf16 p) = true) (now : Millis)
    (repository : HistoryRepository) (diskFails : Bool) (symbol : Option PlayerSymbol) :
    (gs.expireReconnectWindow now repository diskFails p symbol).toEmitted.Sound := by
  have habandoned : (gs.handleAbandon now repository diskFails p).toEmitted.Sound := h.handleEnd _ _ _ _ _ _
  rcases expireReconnectWindow_cases gs now repository diskFails p symbol with
    ⟨-, he⟩ | ⟨-, -, he⟩ | ⟨x, -, -, he⟩ <;> rw [he]
  · exact habandoned
  · exact ⟨habandoned.session.clearReconnectWindow p, habandoned.sends⟩
  · have hleft : RoomEvent.Sound (makePlayerLeft (gs.handleAbandon now repository diskFails p).session.roomId p x
        .disconnectTimeout ((gs.handleAbandon now repository diskFails p).session.sessionSeq + 1)) :=
      habandoned.session.event hp
    have htold := habandoned.session.nextSeq.emit hleft .broadcast p
    exact ⟨htold.session.clearReconnectWindow p, habandoned.sends.append htold.sends⟩

/-! ### Replay -/

/-- A replay repeats buffered events. -/
theorem Sound.getReplayEvents (h : gs.Sound) {fromSeq : Nat} {p : PlayerId} {events : List RoomEvent}
    (hreplay : gs.getReplayEvents fromSeq p = some events) : ∀ event ∈ events, event.Sound := by
  intro event hevent
  unfold GameSession.getReplayEvents at hreplay
  split at hreplay
  · rw [← Option.some.inj hreplay] at hevent
    cases hevent
  dsimp only at hreplay
  split at hreplay
  · rw [← Option.some.inj hreplay] at hevent
    cases hevent
  · rename_i oldest rest hrelevant
    split at hreplay
    · cases hreplay
    · rw [← Option.some.inj hreplay] at hevent
      obtain ⟨entry, hentry, rfl⟩ := List.mem_map.mp hevent
      exact h.buffer entry (List.mem_filter.mp hentry).1

end GameSession
end TicTacToe
