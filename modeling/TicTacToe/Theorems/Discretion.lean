import TicTacToe.Theorems.FreshEvents

/-! # What tells no session

Only `AUTH_ACK` names a session token. Whatever the sessions of rooms send and whatever a command other than `AUTH` is
answered for the first time, no token is in it. -/

namespace TicTacToe
open Server

/-- The calls name no session token. -/
def Discreet (calls : List SendCall) : Prop := ∀ call ∈ calls, NoAck (.event call.event)

namespace Discreet
variable {calls calls' : List SendCall}

theorem nil : Discreet [] := fun _ h => by cases h

theorem one {target : SendTarget} {p : PlayerId} {e : Event} (h : NoAck (.event e)) : Discreet [⟨target, p, e⟩] := by
  intro call hcall
  rw [List.mem_singleton.mp hcall]
  exact h

/-- A call that sends an event of the room. -/
theorem room (target : SendTarget) (p : PlayerId) (event : RoomEvent) : Discreet [⟨target, p, .room event⟩] := .one rfl

theorem append (h : Discreet calls) (h' : Discreet calls') : Discreet (calls ++ calls') := by
  intro call hcall
  exact (List.mem_append.mp hcall).elim (h call) (h' call)

end Discreet

namespace GameSession
variable {gs : GameSession} {repository : HistoryRepository} {diskFails : Bool} {p : PlayerId} {gameId : GameId}
  {room : RoomRecord} {now : Millis}

/-! ### The methods of a session -/

theorem startGame_discreet (gs : GameSession) (now : Millis) (gameId : GameId) (room : RoomRecord)
    (firstTurn : PlayerSymbol) : Discreet (gs.startGame now gameId room firstTurn).sends := by
  rcases startGame_cases gs now gameId room firstTurn with he | ⟨playerX, playerO, -, -, he⟩ <;> rw [he]
  · exact .nil
  · exact .room _ _ _

theorem Ending.discreet {state : GameState} {result : GameResult} {e : GameEffect}
    (h : Ending gs repository diskFails p state result e) : Discreet e.sends := by
  cases h with
  | known => exact .room _ _ _
  | failed => exact .nil
  | recorded => exact .room _ _ _

theorem handleEnd_discreet (gs : GameSession) (repository : HistoryRepository) (diskFails : Bool) (p : PlayerId)
    (outcome : GameOutcome) (reason : GameEndReason) (now : Millis) :
    Discreet (gs.handleEnd repository diskFails p fun state => endGame state outcome reason p now).sends := by
  rcases handleEnd_cases gs repository diskFails p outcome reason now with ⟨-, he⟩ | ⟨state, _, -, -, -, he⟩
  · rw [he]
    exact .nil
  · exact he.discreet

theorem announced_discreet (gs : GameSession) (p : PlayerId) (gameId : GameId) (position : RawPosition)
    (commandId : CommandId) (made : MoveMade) : Discreet (gs.announced p gameId position commandId made).sends := by
  have hack := Discreet.room .player p (gs.ackEvent gameId position commandId made)
  exact hack.append (.room _ _ _)

theorem handleMove_discreet (gs : GameSession) (now : Millis) (repository : HistoryRepository) (diskFails : Bool)
    (p : PlayerId) (gameId : GameId) (position : RawPosition) (commandId : CommandId) :
    Discreet (gs.handleMove now repository diskFails p gameId position commandId).sends := by
  have hm := handleMove_moving gs now repository diskFails p gameId position commandId
  generalize gs.handleMove now repository diskFails p gameId position commandId = o at hm ⊢
  cases hm with
  | refused code detail => exact .one rfl
  | rejected => exact .room _ _ _
  | continued => exact announced_discreet _ _ _ _ _ _
  | finished hstate hid hmove hresult he => exact (announced_discreet _ _ _ _ _ _).append he.discreet

theorem handleRematchRequest_discreet (gs : GameSession) (now : Millis) (room : RoomRecord) (p : PlayerId)
    (gameId : GameId) : Discreet (gs.handleRematchRequest now room p gameId).sends := by
  rcases handleRematchRequest_cases gs now room p gameId with he | ⟨symbol, -, -, -, he⟩ <;> rw [he]
  · exact .nil
  · exact .room _ _ _

theorem handleRematchAccept_discreet (gs : GameSession) (now : Millis) (gameIds : GameId × GameId) (room : RoomRecord)
    (p : PlayerId) (gameId : GameId) : Discreet (gs.handleRematchAccept now gameIds room p gameId).sends := by
  rcases handleRematchAccept_cases gs now gameIds room p gameId with
    he | ⟨state, proposal, symbol, -, -, -, -, -, ⟨-, he⟩ | ⟨-, he⟩⟩ <;> rw [he]
  · exact .nil
  · exact .nil
  · exact startGame_discreet _ _ _ _ _

theorem handleRematchDecline_discreet (gs : GameSession) (room : RoomRecord) (p : PlayerId) (gameId : GameId) :
    Discreet (gs.handleRematchDecline room p gameId).sends := by
  rcases handleRematchDecline_cases gs room p gameId with he | ⟨symbol, -, -, he⟩ <;> rw [he]
  · exact .nil
  · exact .one rfl

theorem expireRematch_discreet (gs : GameSession) (room : RoomRecord) (gameId : GameId) :
    Discreet (gs.expireRematch room gameId).sends := by
  rcases expireRematch_cases gs room gameId with he | he | ⟨anyPlayer, he⟩ <;> rw [he]
  · exact .nil
  · exact .nil
  · exact .room _ _ _

theorem tellOpponent_discreet (gs : GameSession) (room : RoomRecord) (p : PlayerId)
    (makeEvent : PlayerSymbol → Nat → RoomEvent) : Discreet (gs.tellOpponent room p makeEvent).sends := by
  rcases tellOpponent_cases gs room p makeEvent with he | ⟨symbol, _, -, -, -, he⟩ <;> rw [he]
  · exact .nil
  · exact .room _ _ _

theorem expireReconnectWindow_discreet (gs : GameSession) (now : Millis) (repository : HistoryRepository)
    (diskFails : Bool) (p : PlayerId) (symbol : Option PlayerSymbol) :
    Discreet (gs.expireReconnectWindow now repository diskFails p symbol).sends := by
  have habandoned : Discreet (gs.handleAbandon now repository diskFails p).sends := handleEnd_discreet _ _ _ _ _ _ _
  rcases expireReconnectWindow_cases gs now repository diskFails p symbol with
    ⟨-, he⟩ | ⟨-, -, he⟩ | ⟨x, -, -, he⟩ <;> rw [he]
  · exact habandoned
  · exact habandoned
  · exact habandoned.append (.room _ _ _)

end GameSession

namespace Server
variable {s t u : Server} {r : RoomId} {G : IdSource} {c : ConnectionId} {id : CommandId} {token : SessionToken}
  {p : PlayerId} {room : RoomRecord} {i : Input} {calls : List SendCall}

/-! ### Writing -/

/-- Everything that has been written between `s` and `t` meets `P`. -/
def Adds (P : ConnectionId → WireEvent → Prop) (s t : Server) : Prop :=
  ∃ w : List (ConnectionId × WireEvent), t.wire = s.wire ++ w ∧ ∀ c e, (c, e) ∈ w → P c e

/-- Nothing that has been written between `s` and `t` names a session token. -/
abbrev Conceals : Server → Server → Prop := Adds fun _ => NoAck

namespace Adds
variable {P Q : ConnectionId → WireEvent → Prop}

theorem of_same (h : t.wire = s.wire) : Adds P s t := ⟨[], by simp [h], by simp⟩

theorem trans (h₁ : Adds P s t) (h₂ : Adds P t u) : Adds P s u := by
  obtain ⟨w, hw, hP⟩ := h₁
  obtain ⟨w', hw', hP'⟩ := h₂
  refine ⟨w ++ w', by rw [hw', hw, List.append_assoc], fun c e he => ?_⟩
  exact (List.mem_append.mp he).elim (hP c e) (hP' c e)

theorem mono (h : Adds P s t) (hPQ : ∀ c e, P c e → Q c e) : Adds Q s t := by
  obtain ⟨w, hw, hP⟩ := h
  exact ⟨w, hw, fun c e he => hPQ c e (hP c e he)⟩

/-- Before and after, nothing is written. -/
theorem congr {s' t' : Server} (h : Adds P s t) (hs : s.wire = s'.wire) (ht : t'.wire = t.wire) : Adds P s' t' := by
  obtain ⟨w, hw, hP⟩ := h
  exact ⟨w, by rw [ht, hw, hs], hP⟩

/-- What is found on the wire afterwards was there before or has been written since. -/
theorem mem {e : WireEvent} (h : Adds P s t) (he : (c, e) ∈ t.wire) : (c, e) ∈ s.wire ∨ P c e := by
  obtain ⟨w, hw, hP⟩ := h
  rw [hw] at he
  exact (List.mem_append.mp he).imp_right (hP c e)

theorem kept (h : Adds P s t) {x : ConnectionId × WireEvent} (hx : x ∈ s.wire) : x ∈ t.wire := by
  obtain ⟨w, hw, -⟩ := h
  rw [hw]
  exact List.mem_append_left w hx

end Adds

theorem send_adds {P : ConnectionId → WireEvent → Prop} {e : WireEvent} (s : Server) (h : P c e) :
    Adds P s (s.send c e) := by
  unfold send
  split
  · refine ⟨[(c, e)], rfl, fun c' e' he => ?_⟩
    obtain ⟨rfl, rfl⟩ := Prod.mk.inj (List.mem_singleton.mp he)
    exact h
  · exact .of_same rfl

theorem sendAll_conceals (h : Discreet calls) (s : Server) (r : RoomId) : Conceals s (s.sendAll r calls) := by
  cases hroom : s.getRoom r with
  | none => exact .of_same (sendAll_wire_dead hroom calls)
  | some room =>
    refine ⟨_, sendAll_wire hroom calls, fun c e he => ?_⟩
    obtain ⟨call, hcall, he⟩ := List.mem_flatMap.mp he
    obtain ⟨p, -, he⟩ := List.mem_flatMap.mp he
    rw [(mem_mailed he).1]
    exact h call hcall

theorem applyEmitted_conceals {e : Emitted} (h : Discreet e.sends) (hw : t.wire = s.wire) :
    Conceals s (t.applyEmitted r e) := (sendAll_conceals h (t.putGame r e.session) r).congr hw rfl

theorem applyEffect_conceals {e : GameEffect} (h : Discreet e.sends) (hw : t.wire = s.wire) :
    Conceals s (t.applyEffect r e) := by
  have hemitted : Conceals s (t.applyEmitted r e.toEmitted) := applyEmitted_conceals h hw
  exact hemitted.congr rfl rfl

/-- After the handler its deliveries are written, or an error if it has thrown. -/
theorem conclude_adds {P : ConnectionId → WireEvent → Prop} {result : HandlerResult} (h : Adds P s result.server)
    (hd : ∀ d ∈ result.deliveries, ∀ c' e, (c', e) ∈ result.server.delivered d → P c' e)
    (herror : ∀ traceId, P c (.event (makeErrorEvent .INTERNAL_ERROR (ERROR_META .INTERNAL_ERROR).summary
      (ERROR_META .INTERNAL_ERROR).recoverable (some id) (some traceId)))) : Adds P s (conclude G c id result) := by
  unfold conclude
  split
  · have hdrawn : Adds P s (result.server.drawIds 1) := h.congr rfl rfl
    exact hdrawn.trans (send_adds _ (herror _))
  · refine h.trans ⟨_, deliver_wire _ _, fun c' e he => ?_⟩
    obtain ⟨d, hmem, he⟩ := List.mem_flatMap.mp he
    exact hd d hmem c' e he

/-! ### Handlers -/

/-- A handler that names no session token, neither through the send function nor in its deliveries. -/
structure Concealing (s : Server) (result : HandlerResult) : Prop where
  server : Conceals s result.server
  deliveries : ∀ d ∈ result.deliveries, NoAck d.event

namespace Concealing
variable {result result' : HandlerResult}

theorem quiet {threw : Bool} (h : Conceals s t) : Concealing s ⟨t, [], threw⟩ := ⟨h, fun _ hd => by cases hd⟩

theorem refuse {code : ErrorCode} (h : t.wire = s.wire) : Concealing s (t.refuse c code id) := by
  refine ⟨.of_same h, fun d hd => ?_⟩
  rw [List.mem_singleton.mp hd]
  rfl

/-- The response is an event of the room. -/
theorem respond {event : RoomEvent} {others : List Delivery} (h : Conceals s t) (hothers : ∀ d ∈ others, NoAck d.event) :
    Concealing s (t.respond c id (.room event) others) := by
  refine ⟨h.congr rfl rfl, fun d hd => ?_⟩
  rcases List.mem_cons.mp hd with rfl | hd
  · rfl
  · exact hothers d hd

theorem answer {event : RoomEvent} (h : Conceals s t) : Concealing s (t.respond c id (.room event) []) :=
  .respond h fun _ hd => by cases hd

/-- A response and an event for the holder of a slot. -/
theorem tell {event told : RoomEvent} {q : PlayerId} (h : Conceals s t) :
    Concealing s (t.respond c id (.room event) [.broadcast q (.event (.room told))]) := by
  refine .respond h fun d hd => ?_
  rw [List.mem_singleton.mp hd]
  rfl

theorem after (h : Concealing t result) (hw : t.wire = s.wire) : Concealing s result :=
  ⟨h.server.congr hw rfl, h.deliveries⟩

theorem relinked (h : Concealing s result) (hlink : Relinked result result') : Concealing s result' := by
  obtain ⟨connections, registry, hserver, -⟩ := hlink.server
  exact ⟨h.server.congr rfl (by rw [hserver]), hlink.deliveries ▸ h.deliveries⟩

theorem concluded (h : Concealing s result) (G : IdSource) (c : ConnectionId) (id : CommandId) :
    Conceals s (conclude G c id result) := by
  refine conclude_adds h.server (fun d hd c' e he => ?_) fun _ => rfl
  have hevent : e = d.event := delivered_event he
  rw [hevent]
  exact h.deliveries d hd

end Concealing

section Frame
variable {reply : WireEvent → List Delivery} (hc : s.cached id = none)
include hc

theorem sessionCommand_conceals {handle : Server → PlayerSession → HandlerResult}
    (h : ∀ u session, Concealing u (handle u session)) :
    Concealing s (s.withSession c id token fun s session => s.unlessCached id reply fun s => handle s session) := by
  rcases withSession_cases s c id token (fun s session => s.unlessCached id reply fun s => handle s session) with
    ⟨-, u, code, -, hw, he⟩ | ⟨session, -, he⟩
  · rw [he]
    exact .refuse hw
  rw [he]
  rcases unlessCached_cases s id reply (fun s => handle s session) with ⟨entry, hentry, -⟩ | ⟨-, he⟩
  · rw [hc] at hentry
    cases hentry
  · rw [he]
    exact (h (s.afterLookup id) session).after rfl

theorem roomCommand_conceals {handle : Server → PlayerSession → RoomRecord → HandlerResult}
    (h : ∀ u session room, Concealing u (handle u session room)) :
    Concealing s (s.roomCommand c id token r reply handle) := by
  refine sessionCommand_conceals hc fun u session => ?_
  rcases withRoom_cases u c id r (fun s room => handle s session room) with ⟨-, v, code, -, hw, he⟩ | ⟨room, -, he⟩
  · rw [he]
    exact .refuse hw
  · rw [he]
    exact h u session room

end Frame

/-! ### The handlers of commands -/

theorem ensureGameSession_wire (s : Server) (r : RoomId) : (s.ensureGameSession r).wire = s.wire := by
  unfold ensureGameSession
  split <;> rfl

theorem enterRoom_conceals (s : Server) (c : ConnectionId) (id : CommandId) (r : RoomId) (token : SessionToken)
    (p : PlayerId) (name : Option PlayerName) (symbol : PlayerSymbol) (room : RoomRecord) :
    Concealing s (s.enterRoom c id r token p name symbol room) := by
  have hwire := ensureGameSession_wire ((s.putRoom r (room.touch s.now)).setSessionRoom token (some r)) r
  unfold enterRoom
  dsimp only
  generalize ((s.putRoom r (room.touch s.now)).setSessionRoom token (some r)).ensureGameSession r = u at hwire ⊢
  have hsame : Conceals s u := .of_same hwire
  split
  · exact .answer (hsame.congr rfl rfl)
  · exact .tell (hsame.congr rfl rfl)

theorem handleJoinRoom_conceals (hc : s.cached id = none) (c : ConnectionId) (r : RoomId) (name : Option PlayerName)
    (token : SessionToken) : Concealing s (s.handleJoinRoom c id r name token) := by
  refine sessionCommand_conceals hc fun u session => ?_
  split
  · exact .refuse rfl
  rcases withRoom_cases u c id r _ with ⟨-, v, code, -, hw, he⟩ | ⟨room, -, he⟩ <;> rw [he]
  · exact .refuse hw
  split
  · exact .answer (.of_same rfl)
  split
  · exact .refuse rfl
  split
  · exact .refuse rfl
  · exact enterRoom_conceals _ _ _ _ _ _ _ _ _

theorem vacateRoom_conceals {slot : PlayerSlot} (h : Conceals s t) :
    Concealing s (t.vacateRoom c id r token p slot room) := by
  refine .respond (h.congr rfl rfl) fun d hd => ?_
  obtain ⟨slot, -, rfl⟩ := List.mem_map.mp hd
  rfl

theorem handleLeaveRoom_conceals (hc : s.cached id = none) (c : ConnectionId) (r : RoomId) (token : SessionToken)
    (diskFails : Bool) : Concealing s (s.handleLeaveRoom c id r token diskFails) := by
  refine roomCommand_conceals hc fun u session room => ?_
  split
  · exact .refuse rfl
  split
  · exact vacateRoom_conceals (.of_same rfl)
  · rename_i gs _
    have hended : Discreet (gs.handleForfeit u.now u.historyRepository diskFails session.playerId).sends :=
      GameSession.handleEnd_discreet _ _ _ _ _ _ _
    dsimp only
    split
    · exact .quiet (applyEffect_conceals hended rfl)
    · exact vacateRoom_conceals (applyEffect_conceals hended rfl)

theorem startReadyGame_conceals (G : IdSource) (s : Server) (r : RoomId) (room : RoomRecord) :
    Conceals s (s.startReadyGame G r room) := by
  unfold startReadyGame
  split
  · exact .of_same rfl
  · exact applyEmitted_conceals (GameSession.startGame_discreet _ _ _ _ _) rfl

theorem becomeReady_conceals {symbol : PlayerSymbol} (h : Conceals s t) :
    Concealing s (t.becomeReady G c id r symbol room) := by
  have hstarted : ∀ u : Server, u.wire = t.wire → Conceals s (if room.bothReady then u.startReadyGame G r room else u) := by
    intro u hu
    have hsame : Conceals s u := h.congr rfl hu
    split
    · exact hsame.trans (startReadyGame_conceals G u r room)
    · exact hsame
  unfold becomeReady
  dsimp only
  split
  · exact .answer (hstarted _ rfl)
  · exact .tell (hstarted _ rfl)

theorem handlePlayerReady_conceals (hc : s.cached id = none) (G : IdSource) (c : ConnectionId) (r : RoomId)
    (token : SessionToken) : Concealing s (s.handlePlayerReady G c id r token) := by
  refine roomCommand_conceals hc fun u session room => ?_
  have hensured : Conceals u (u.ensureGameSession r) := .of_same (ensureGameSession_wire u r)
  split
  · exact .refuse rfl
  split
  · exact .refuse rfl
  dsimp only
  split
  · exact .answer hensured
  · exact becomeReady_conceals hensured

theorem handleMakeMove_conceals (hc : s.cached id = none) (c : ConnectionId) (r : RoomId) (gameId : GameId)
    (position : RawPosition) (token : SessionToken) (diskFails : Bool) :
    Concealing s (s.handleMakeMove c id r gameId position token diskFails) := by
  refine roomCommand_conceals hc fun u session room => ?_
  split
  · exact .refuse rfl
  rename_i gs _
  have hmoved : Conceals u (u.applyEffect r
      (gs.handleMove u.now u.historyRepository diskFails session.playerId gameId position id).toGameEffect) :=
    applyEffect_conceals (GameSession.handleMove_discreet _ _ _ _ _ _ _ _) rfl
  dsimp only
  split
  · exact .quiet hmoved
  split
  · exact .quiet hmoved
  · exact .quiet (hmoved.congr rfl rfl)

theorem rematchCommand_conceals {drawn : Nat} {refusal : Option GameSession → Option ErrorCode}
    {method : Server → GameSession → RoomRecord → PlayerId → GameSession.RematchOutcome} (hc : s.cached id = none)
    (hmethod : ∀ u gs room p, Discreet (method u gs room p).sends) (c : ConnectionId) (r : RoomId)
    (token : SessionToken) : Concealing s (s.rematchCommand c id r token drawn refusal method) := by
  refine roomCommand_conceals hc fun u session room => ?_
  split
  · exact .refuse rfl
  · exact .quiet (.of_same rfl)
  · rename_i gs _ _
    have happlied : Conceals u (((u.putRoom r (method u gs room session.playerId).room).drawIds drawn).applyEmitted r
        (method u gs room session.playerId).toEmitted) :=
      applyEmitted_conceals (hmethod u gs room session.playerId) rfl
    dsimp only
    split
    · exact .quiet (happlied.congr rfl rfl)
    · exact .quiet happlied

theorem restorePresence_conceals (s : Server) (r : RoomId) (token : SessionToken) (p : PlayerId) (room : RoomRecord) :
    Conceals s (s.restorePresence r token p room) := by
  unfold restorePresence
  dsimp only
  split
  · exact .of_same rfl
  · exact applyEmitted_conceals (GameSession.tellOpponent_discreet _ _ _ _) rfl

theorem handleReconnect_conceals (hc : s.cached id = none) (c : ConnectionId) (r : RoomId) (lastReceivedSeq : Nat)
    (token : SessionToken) : Concealing s (s.handleReconnect c id r lastReceivedSeq token) := by
  refine roomCommand_conceals hc fun u session room => ?_
  have hrestored := restorePresence_conceals u r token session.playerId room
  split
  · exact .refuse rfl
  dsimp only
  refine .respond (hrestored.congr rfl rfl) fun d hd => ?_
  split at hd
  · rw [List.mem_singleton.mp hd]
    rfl
  · cases hd

theorem handleSyncRequest_conceals (hc : s.cached id = none) (c : ConnectionId) (r : RoomId) (fromSeq : Nat)
    (token : SessionToken) : Concealing s (s.handleSyncRequest c id r fromSeq token) := by
  refine roomCommand_conceals hc fun u session room => ?_
  split
  · exact .refuse rfl
  · exact .answer (.of_same rfl)

/-- What the router dispatches for a command other than `AUTH` that has no earlier answer. -/
theorem dispatch_conceals {rec : ConnectionRecord} {command : Command} (hc : s.cached command.commandId = none)
    (hbody : ∀ guestToken, command.body ≠ .auth guestToken) (G : IdSource) (c : ConnectionId) (diskFails : Bool) :
    Concealing s (s.dispatch G c rec command diskFails) := by
  obtain ⟨id, body⟩ := command
  have hnothing : Concealing s (s.ok []) := .quiet (.of_same rfl)
  unfold dispatch
  cases htoken : rec.sessionToken with
  | none =>
    cases body with
    | auth guestToken => exact absurd rfl (hbody guestToken)
    | ping clientTime =>
      refine ⟨.of_same rfl, fun d hd => ?_⟩
      rw [List.mem_singleton.mp hd]
      rfl
    | _ => exact hnothing
  | some token =>
    cases body with
    | auth guestToken => exact absurd rfl (hbody guestToken)
    | ping clientTime =>
      refine ⟨.of_same rfl, fun d hd => ?_⟩
      rw [List.mem_singleton.mp hd]
      rfl
    | joinRoom r name => exact handleJoinRoom_conceals hc c r name token
    | leaveRoom r => exact handleLeaveRoom_conceals hc c r token diskFails
    | playerReady r => exact handlePlayerReady_conceals hc G c r token
    | makeMove r gameId position => exact handleMakeMove_conceals hc c r gameId position token diskFails
    | requestRematch r gameId =>
      exact rematchCommand_conceals hc (fun u gs room p => gs.handleRematchRequest_discreet u.now room p gameId) c r token
    | acceptRematch r gameId =>
      exact rematchCommand_conceals hc (fun u gs room p => gs.handleRematchAccept_discreet u.now _ room p gameId) c r token
    | declineRematch r gameId =>
      exact rematchCommand_conceals hc (fun _ gs room p => gs.handleRematchDecline_discreet room p gameId) c r token
    | reconnect r lastReceivedSeq =>
      exact (handleReconnect_conceals hc c r lastReceivedSeq token).relinked
        (linked_relinked c rec (.reconnect r lastReceivedSeq) _)
    | syncRequest r fromSeq => exact handleSyncRequest_conceals hc c r fromSeq token

/-! ### Closes and timers -/

theorem sendError_conceals (s : Server) (c : ConnectionId) (code : ErrorCode) (id : Option CommandId) :
    Conceals s (s.sendError c code id) := by
  unfold sendError
  dsimp only
  split
  · exact (send_adds s rfl).congr rfl rfl
  · exact send_adds s rfl

theorem handleDisconnect_conceals (s : Server) (token : SessionToken) : Conceals s (s.handleDisconnect token) := by
  unfold handleDisconnect
  dsimp only
  split
  · split
    · exact .of_same rfl
    split
    · exact .of_same rfl
    split
    · exact applyEmitted_conceals (GameSession.tellOpponent_discreet _ _ _ _) rfl
    · exact .of_same rfl
  · exact .of_same rfl

/-- A close unregisters the connection, perhaps first for its player, and perhaps disconnects a session. -/
theorem handleClose_shape (s : Server) (c : ConnectionId) :
    ∃ p u, (u = s ∨ u = s.unregisterPlayerConnection p c) ∧
      (s.handleClose c = u.unregister c ∨ ∃ token, s.handleClose c = (u.handleDisconnect token).unregister c) := by
  unfold handleClose
  split
  · exact ⟨"", s, Or.inl rfl, Or.inl rfl⟩
  split
  · exact ⟨"", s, Or.inl rfl, Or.inl rfl⟩
  split
  · exact ⟨"", s, Or.inl rfl, Or.inr ⟨_, rfl⟩⟩
  · rename_i p _
    dsimp only
    split
    · exact ⟨p, _, Or.inr rfl, Or.inl rfl⟩
    · exact ⟨p, _, Or.inr rfl, Or.inr ⟨_, rfl⟩⟩

theorem handleClose_conceals (s : Server) (c : ConnectionId) : Conceals s (s.handleClose c) := by
  obtain ⟨p, u, hu, he⟩ := handleClose_shape s c
  have hwire : u.wire = s.wire := by
    rcases hu with rfl | rfl
    · rfl
    · obtain ⟨registry, h⟩ := unregisterPlayerConnection_frame s p c
      rw [h]
  rcases he with he | ⟨token, he⟩ <;> rw [he]
  · exact .of_same hwire
  · exact (handleDisconnect_conceals u token).congr hwire rfl

theorem onPlayerLeft_wire (s : Server) (r : RoomId) (p : PlayerId) : (s.onPlayerLeft r p).wire = s.wire := by
  have hposts : Posts r none s (s.onPlayerLeft r p) [] := onPlayerLeft_posts s p
  simpa using hposts.wire

theorem fireReconnectWindow_conceals (s : Server) (r : RoomId) (gs : GameSession) (p : PlayerId)
    (timer : ReconnectTimer) (diskFails : Bool) : Conceals s (s.fireReconnectWindow r gs p timer diskFails).1 := by
  have hended : Conceals s (s.applyEffect r
      (gs.expireReconnectWindow s.now s.historyRepository diskFails p timer.symbol)) :=
    applyEffect_conceals (gs.expireReconnectWindow_discreet _ _ _ _ _) rfl
  unfold fireReconnectWindow
  dsimp only
  split
  · exact hended
  · exact hended.congr rfl (onPlayerLeft_wire _ r p)

/-- A step that is no frame names no session token. -/
theorem step_conceals (hi : ∀ c frame diskFails, i ≠ .frame c frame diskFails) (h : s.step G i = some t) :
    Conceals s t := by
  unfold step at h
  cases i with
  | frame c frame diskFails => exact absurd rfl (hi c frame diskFails)
  | tick | connect | wsPong | createRoom | httpGetRoom | maintenance =>
    obtain rfl := Option.some.inj h
    exact .of_same rfl
  | socketClosed c =>
    obtain rfl := Option.some.inj h
    exact handleClose_conceals s c
  | authTimeout c =>
    dsimp only at h
    split at h
    · obtain rfl := Option.some.inj h
      exact (send_adds s rfl).congr rfl rfl
    · cases h
  | idleTimeout c =>
    dsimp only at h
    split at h
    · obtain rfl := Option.some.inj h
      exact .of_same rfl
    · cases h
  | reconnectWindow r p diskFails =>
    dsimp only at h
    split at h
    · cases h
    split at h
    · cases h
    split at h
    · split at h
      · cases h
      · obtain rfl := Option.some.inj h
        exact fireReconnectWindow_conceals s r _ p _ diskFails
    · cases h
  | rematchTimer r =>
    dsimp only at h
    split at h
    · split at h
      · cases h
      split at h
      · obtain rfl := Option.some.inj h
        exact applyEmitted_conceals (GameSession.expireRematch_discreet _ _ _) rfl
      · cases h
    · cases h

end Server
end TicTacToe
