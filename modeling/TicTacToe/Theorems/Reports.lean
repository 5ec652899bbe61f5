import TicTacToe.Theorems.HandlerTurns
import TicTacToe.Theorems.Retelling

/-! # What a handler reports about the game

What a command does to the game is told by the session. The handler itself answers with events that are not about the
game, with a snapshot of the room or with a replay: who knows how the game stands learns nothing new from them. -/

namespace TicTacToe
namespace Server
variable {s t u : Server} {r : RoomId} {G : IdSource} {c : ConnectionId} {id : CommandId} {token : SessionToken}
  {p : PlayerId} {room room' : RoomRecord} {found : Option RoomRecord} {calls : List SendCall} {payload : RoomPayload}
  {answer : RoomEvent} {others : List Delivery} {session : PlayerSession} {result : HandlerResult} {gs : GameSession}

/-! ### Reports -/

/-- The event is not about the game, or says how the game in room `r` stands, or repeats what the session has sent. -/
inductive Reports (s : Server) (r : RoomId) : RoomPayload → Prop
  | apart {payload : RoomPayload} (h : payload.apart = true) : Reports s r payload
  | stands {payload : RoomPayload} (hreplay : payload.isReplay = false) (h : payload.change = .all (s.standing r)) :
    Reports s r payload
  | replays {fromSeq toSeq : Nat} {p : PlayerId} {events : List RoomEvent} (h : s.replayFor r fromSeq p = some events) :
    Reports s r (.stateSyncReplay fromSeq toSeq events)

theorem standing_of_state (h : (t.gameSessions.get r).bind GameSession.gameState =
    (s.gameSessions.get r).bind GameSession.gameState) : t.standing r = s.standing r := by
  rw [standing, standing, RoomView.standing, RoomView.standing, RoomView.state, RoomView.state]
  exact congrArg (fun state => (state.map GameState.standing).getD .initial) h

theorem standing_allocateSequence (s : Server) (r : RoomId) : (s.allocateSequence r).standing r = s.standing r := by
  refine standing_of_state ?_
  rw [allocateSequence_get]
  cases s.gameSessions.get r <;> rfl

/-- A snapshot says how the game stands. -/
theorem buildRoomSnapshot_standing (s : Server) (r : RoomId) : (s.buildRoomSnapshot r).standing = s.standing r := by
  rw [standing, RoomView.standing, RoomView.state, RoomStateSnapshot.standing]
  change ((((s.gameSessions.get r).bind GameSession.gameState).map currentGame).map CurrentGame.standing).getD .initial = _
  rw [Option.map_map]
  rfl

namespace Reports

theorem of_games (h : s.Reports r payload) (hg : t.gameSessions.get r = s.gameSessions.get r) : t.Reports r payload := by
  cases h with
  | apart h => exact .apart h
  | stands hreplay h =>
    refine .stands hreplay ?_
    rw [standing_of_state (s := s) (by rw [hg])]
    exact h
  | replays h =>
    rw [replayFor, ← hg] at h
    exact .replays h

/-- Who knows how the game stands learns nothing new. -/
theorem hear (h : s.Reports r payload) (hs : s.Retelling) (hb : s.Backed) : (s.standing r).hear payload = s.standing r := by
  cases h with
  | apart h => exact Standing.hear_apart h _
  | stands hreplay h => rw [Standing.hear_of_change hreplay, h, Change.apply_all]
  | replays h => exact hs.replayed hb h

end Reports

/-! ### Handlers -/

/-- The send function of room `r` finds the room as it is before the handler, unless what it writes is not about the
game, and all that the handler delivers are reports. -/
structure Informs (s : Server) (r : RoomId) (result : HandlerResult) : Prop where
  posts : ∃ found calls, Posts r found s result.server calls ∧ (found = s.getRoom r ∨ SendsOnly RoomPayload.apart calls)
  reports : ∀ d ∈ result.deliveries, ∀ event, d.event.roomEvent = some event → result.server.Reports r event.payload

/-- A record with the same slots is as good. -/
theorem Posts.same_slots (h : Posts r (some room') s t calls) (hX : room'.playerX = room.playerX)
    (hO : room'.playerO = room.playerO) : Posts r (some room) s t calls := by
  have hposted : s.postedIn (some room') = s.postedIn (some room) := by
    funext call
    have hrecipients : recipients room' call = recipients room call := by rw [recipients, recipients, hX, hO]
    simp only [postedIn, Option.elim_some, posted, hrecipients]
  exact { h with wire := hposted ▸ h.wire }

namespace Informs

theorem refuse (h : Posts r none s u []) (code : ErrorCode) : Informs s r (u.refuse c code id) := by
  refine ⟨⟨none, [], h, Or.inr .nil⟩, fun d hd event hevent => ?_⟩
  rw [List.mem_singleton.mp hd] at hevent
  cases hevent

/-- Nothing is delivered. -/
theorem silent (hposts : Posts r found s result.server calls)
    (hfound : found = s.getRoom r ∨ SendsOnly RoomPayload.apart calls)
    (hd : result.deliveries = []) : Informs s r result := by
  refine ⟨⟨found, calls, hposts, hfound⟩, fun d hmem => ?_⟩
  rw [hd] at hmem
  cases hmem

theorem respond (hposts : Posts r found s u calls) (hfound : found = s.getRoom r ∨ SendsOnly RoomPayload.apart calls)
    (hanswer : u.Reports r answer.payload)
    (hothers : ∀ d ∈ others, ∀ event, d.event.roomEvent = some event → u.Reports r event.payload) :
    Informs s r (u.respond c id (.room answer) others) := by
  refine ⟨⟨found, calls, hposts.then_silent (recordCommand_posts u id _), hfound⟩, fun d hd event hevent => ?_⟩
  refine Reports.of_games (s := u) ?_ rfl
  rcases List.mem_cons.mp hd with rfl | hd
  · exact Option.some.inj hevent ▸ hanswer
  · exact hothers d hd event hevent

theorem of_lookup (id : CommandId) (h : Informs (s.afterLookup id) r result) : Informs s r result := by
  obtain ⟨found, calls, hposts, hfound⟩ := h.posts
  exact ⟨⟨found, calls, (afterLookup_posts s id).after_silent hposts, hfound⟩, h.reports⟩

end Informs

theorem withRoom_informs {handle : Server → RoomRecord → HandlerResult}
    (h : ∀ room, s.getRoom r = some room → Informs s r (handle s room)) : Informs s r (s.withRoom c id r handle) := by
  unfold withRoom
  cases hroom : s.getRoom r with
  | none => exact .refuse (afterGetRoom_posts s) _
  | some room =>
    rw [afterGetRoom_eq_self hroom]
    exact h room hroom

theorem roomCommand_informs {reply : WireEvent → List Delivery}
    {handle : Server → PlayerSession → RoomRecord → HandlerResult} (hs : s.getSession token = some session)
    (hc : s.cached id = none)
    (h : ∀ u room, u.getRoom r = some room → Informs u r (handle u session room)) :
    Informs s r (s.roomCommand c id token r reply handle) := by
  rw [roomCommand, sessionCommand_eq hs hc fun s session => s.withRoom c id r fun s room => handle s session room]
  exact .of_lookup id (withRoom_informs fun room hroom => h _ room hroom)

/-! ### Joining and leaving -/

theorem rejoinRoom_informs (s : Server) (c : ConnectionId) (id : CommandId) (r : RoomId) (p : PlayerId)
    (slot : PlayerSlot) : Informs s r (s.rejoinRoom c id r p slot) := by
  refine .respond (allocateSequence_posts s) (Or.inl rfl) (.stands rfl ?_) fun d hd => absurd hd List.not_mem_nil
  rw [standing_allocateSequence, ← buildRoomSnapshot_standing]
  rfl

theorem enterRoom_informs (s : Server) (c : ConnectionId) (id : CommandId) (r : RoomId) (token : SessionToken)
    (p : PlayerId) (name : Option PlayerName) (symbol : PlayerSymbol) (room : RoomRecord) :
    Informs s r (s.enterRoom c id r token p name symbol room) := by
  generalize hx : ((s.putRoom r (room.touch s.now)).setSessionRoom token (some r)).ensureGameSession r = x
  have hposts : Posts r none s (x.allocateSequence r) [] := by
    have hset : Posts r none s ((s.putRoom r (room.touch s.now)).setSessionRoom token (some r)) [] :=
      (putRoom_posts s _).then_silent (store_posts rfl rfl rfl rfl rfl rfl)
    exact (hx ▸ hset.then_silent (ensureGameSession_posts _)).then_silent (allocateSequence_posts x)
  have hjoined := congrArg Change.all (buildRoomSnapshot_standing (x.allocateSequence r) r)
  unfold enterRoom
  simp only [hx]
  split
  · exact .respond hposts (Or.inr .nil) (.stands rfl hjoined) fun d hd => absurd hd List.not_mem_nil
  · refine .respond (hposts.then_silent (allocateSequence_posts _)) (Or.inr .nil) (.stands rfl ?_)
      fun d hd event hevent => ?_
    · rw [standing_allocateSequence]
      exact hjoined
    · rw [List.mem_singleton.mp hd] at hevent
      exact .apart (Option.some.inj hevent ▸ rfl)

theorem handleJoinRoom_informs (hs : s.getSession token = some session) (hc : s.cached id = none) (c : ConnectionId)
    (r : RoomId) (name : Option PlayerName) : Informs s r (s.handleJoinRoom c id r name token) := by
  unfold handleJoinRoom
  rw [sessionCommand_eq hs hc]
  refine .of_lookup id ?_
  split
  · exact .refuse (.refl _) _
  refine withRoom_informs fun room _ => ?_
  split
  · exact rejoinRoom_informs _ c id r session.playerId _
  · split
    · exact .refuse (.refl _) _
    · split
      · exact .refuse (.refl _) _
      · exact enterRoom_informs _ c id r token session.playerId _ _ _

theorem vacateRoom_informs {slot : PlayerSlot} (hposts : Posts r found s u calls)
    (hfound : found = s.getRoom r ∨ SendsOnly RoomPayload.apart calls) :
    Informs s r (u.vacateRoom c id r token p slot room) := by
  have hvacated : Posts r found ((u.allocateSequence r).allocateSequence r)
      ((((u.allocateSequence r).allocateSequence r).putRoom r (room.removePlayer u.now p)).setSessionRoom token none) [] :=
    (putRoom_posts _ _).then_silent (store_posts rfl rfl rfl rfl rfl rfl)
  have hall := ((hposts.then_silent (allocateSequence_posts u)).then_silent (allocateSequence_posts _)).then_silent hvacated
  refine .respond hall hfound (.apart rfl) fun d hd event hevent => ?_
  obtain ⟨slot, -, rfl⟩ := List.mem_map.mp hd
  exact .apart (Option.some.inj hevent ▸ rfl)

theorem handleLeaveRoom_informs (hs : s.getSession token = some session) (hc : s.cached id = none) (c : ConnectionId)
    (r : RoomId) (diskFails : Bool) : Informs s r (s.handleLeaveRoom c id r token diskFails) := by
  refine roomCommand_informs hs hc fun u room hroom => ?_
  split
  · exact .refuse (.refl u) _
  split
  · exact vacateRoom_informs (.refl u) (Or.inl rfl)
  · rename_i gs _
    have hposts := applyEffect_posts hroom (gs.handleForfeit u.now u.historyRepository diskFails session.playerId)
    dsimp only
    split
    · exact .silent hposts (Or.inl hroom.symm) rfl
    · exact vacateRoom_informs hposts (Or.inl hroom.symm)

/-! ### Getting ready -/

/-- The players of the room hear of the game that starts. -/
theorem startReadyGame_posts (hroom : s.getRoom r = some room) (G : IdSource) :
    ∃ calls, Posts r (some room) s (s.startReadyGame G r room) calls := by
  unfold startReadyGame
  cases s.gameSessions.get r with
  | none => exact ⟨[], .refl s⟩
  | some gs =>
    have hlive : room.resetReady.isExpired s.now = false := (RoomStore.getRoom_eq_some.mp hroom).2
    have hput : Posts r (some room.resetReady) s ((s.putRoom r room.resetReady).drawIds 1) [] :=
      (putRoom_posts s _).then_silent (store_posts rfl rfl rfl rfl rfl rfl)
    have hfound : ((s.putRoom r room.resetReady).drawIds 1).getRoom r = some room.resetReady :=
      (getRoom_putRoom_live s r hlive r).trans (if_pos rfl)
    exact ⟨_, (hput.after_silent (applyEmitted_posts hfound _)).same_slots rfl rfl⟩

theorem becomeReady_informs {symbol : PlayerSymbol} (hposts : Posts r (some room) s u []) (hroom : s.getRoom r = some room)
    (hlive : room.isExpired u.now = false) (G : IdSource) (c : ConnectionId) (id : CommandId) :
    Informs s r (u.becomeReady G c id r symbol (room.markReady symbol)) := by
  have hlive' : (room.markReady symbol).isExpired u.now = false := hlive
  have hmarked : (u.putRoom r (room.markReady symbol)).getRoom r = some (room.markReady symbol) :=
    (getRoom_putRoom_live u r hlive' r).trans (if_pos rfl)
  -- Whatever numbers are drawn, and whether or not the game starts.
  have hstarts : ∀ y, Posts r (some room) u y [] → y.getRoom r = some (room.markReady symbol) → ∀ {ack others},
      ack.payload.apart = true → (∀ d ∈ others, ∀ event, d.event.roomEvent = some event → event.payload.apart = true) →
      Informs s r
        ((if (room.markReady symbol).bothReady then y.startReadyGame G r (room.markReady symbol) else y).respond c id
          (.room ack) others) := by
    intro y hy hfound ack others hack hothers
    have hreports : ∀ {z : Server}, ∀ d ∈ others, ∀ event, d.event.roomEvent = some event → z.Reports r event.payload :=
      fun d hd event hevent => .apart (hothers d hd event hevent)
    split
    · obtain ⟨calls, hstarted⟩ := startReadyGame_posts hfound G
      exact .respond ((hposts.then_silent hy).after_silent (hstarted.same_slots rfl rfl)) (Or.inl hroom.symm) (.apart hack)
        hreports
    · exact .respond (hposts.then_silent hy) (Or.inl hroom.symm) (.apart hack) hreports
  have hone : Posts r (some room) u ((u.putRoom r (room.markReady symbol)).allocateSequence r) [] :=
    (putRoom_posts u _).then_silent (allocateSequence_posts _)
  unfold becomeReady
  dsimp only
  split
  · exact hstarts _ hone hmarked rfl fun d hd => absurd hd List.not_mem_nil
  · refine hstarts _ (hone.then_silent (allocateSequence_posts _)) hmarked rfl fun d hd event hevent => ?_
    rw [List.mem_singleton.mp hd] at hevent
    exact Option.some.inj hevent ▸ rfl

theorem handlePlayerReady_informs (hs : s.getSession token = some session) (hc : s.cached id = none) (c : ConnectionId)
    (r : RoomId) : Informs s r (s.handlePlayerReady G c id r token) := by
  refine roomCommand_informs hs hc fun u room hroom => ?_
  split
  · exact .refuse (.refl u) _
  split
  · exact .refuse (.refl u) _
  dsimp only
  split
  · exact .respond (ensureGameSession_posts u) (Or.inl rfl) (.apart rfl) fun d hd =>
      absurd hd List.not_mem_nil
  · refine becomeReady_informs (ensureGameSession_posts u) hroom ?_ G c id
    rw [ensureGameSession_now]
    exact (RoomStore.getRoom_eq_some.mp hroom).2

/-! ### Moves and rematches -/

theorem handleMakeMove_informs (hs : s.getSession token = some session) (hc : s.cached id = none) (c : ConnectionId)
    (r : RoomId) (gameId : GameId) (position : RawPosition) (diskFails : Bool) :
    Informs s r (s.handleMakeMove c id r gameId position token diskFails) := by
  refine roomCommand_informs hs hc fun u room hroom => ?_
  split
  · exact .refuse (.refl u) _
  · rename_i gs _
    have hposts := applyEffect_posts hroom
      (gs.handleMove u.now u.historyRepository diskFails session.playerId gameId position id).toGameEffect
    dsimp only
    split
    · exact .silent hposts (Or.inl hroom.symm) rfl
    · split
      · exact .silent hposts (Or.inl hroom.symm) rfl
      · exact .silent (hposts.then_silent (recordCommand_posts _ _ _)) (Or.inl hroom.symm) rfl

theorem rematchCommand_informs {drawn : Nat} {refusal : Option GameSession → Option ErrorCode}
    {method : Server → GameSession → RoomRecord → PlayerId → GameSession.RematchOutcome}
    (hs : s.getSession token = some session) (hc : s.cached id = none)
    (hmethod : ∀ u gs room p, Agrees gs room p (method u gs room p)) (c : ConnectionId) (r : RoomId) :
    Informs s r (s.rematchCommand c id r token drawn refusal method) := by
  refine roomCommand_informs hs hc fun u room hroom => ?_
  split
  · exact .refuse (.refl u) _
  · exact .silent (.refl u) (Or.inl rfl) rfl
  rename_i gs _ _
  have hagrees := hmethod u gs room session.playerId
  generalize method u gs room session.playerId = outcome at hagrees
  have hlive : outcome.room.isExpired u.now = false := by
    have h := (RoomStore.getRoom_eq_some.mp hroom).2
    rwa [RoomRecord.isExpired, ← hagrees.lastActivityAt] at h
  have hput : Posts r (some outcome.room) u ((u.putRoom r outcome.room).drawIds drawn) [] :=
    (putRoom_posts u _).then_silent (store_posts rfl rfl rfl rfl rfl rfl)
  have hfound : ((u.putRoom r outcome.room).drawIds drawn).getRoom r = some outcome.room :=
    (getRoom_putRoom_live u r hlive r).trans (if_pos rfl)
  have hposts :=
    (hput.after_silent (applyEmitted_posts hfound outcome.toEmitted)).same_slots hagrees.slots.1 hagrees.slots.2
  dsimp only
  split
  · exact .silent (hposts.then_silent (recordCommand_posts _ _ _)) (Or.inl hroom.symm) rfl
  · exact .silent hposts (Or.inl hroom.symm) rfl

/-! ### Coming back and asking for the state -/

/-- A returning player is announced. -/
theorem restorePresence_posts (hroom : s.getRoom r = some room) (token : SessionToken) (p : PlayerId) :
    ∃ found calls, Posts r found s (s.restorePresence r token p room) calls ∧ SendsOnly RoomPayload.apart calls := by
  have hput : ∀ found, Posts r found s
      ((s.putRoom r (room.setConnected s.now p true)).setSessionRoom token (some r)) [] := fun found =>
    (putRoom_posts s _).then_silent (store_posts rfl rfl rfl rfl rfl rfl)
  have hfound : ((s.putRoom r (room.setConnected s.now p true)).setSessionRoom token (some r)).getRoom r =
      some (room.setConnected s.now p true) := by
    have hlive := RoomRecord.setConnected_live (RoomStore.getRoom_eq_some.mp hroom).2 p true
    exact (getRoom_putRoom_live s r hlive r).trans (if_pos rfl)
  unfold restorePresence
  dsimp only
  split
  · exact ⟨none, [], hput none, .nil⟩
  · rename_i gs _
    exact ⟨_, _, (hput _).after_silent (applyEmitted_posts hfound _),
      GameSession.tellOpponent_sendsOnly _ _ _ _ fun _ _ => rfl⟩

/-- Missed events or the whole state. -/
theorem sync_reports (s : Server) (r : RoomId) (p : PlayerId) (fromSeq toSeq seq : Nat) :
    s.Reports r (match s.replayFor r fromSeq p with
      | some replay => makeStateSyncReplay r fromSeq toSeq replay
      | none => makeStateSyncSnapshot r (s.buildRoomSnapshot r) seq).payload := by
  cases h : s.replayFor r fromSeq p with
  | some replay => exact .replays h
  | none => exact .stands rfl (congrArg Change.all (buildRoomSnapshot_standing s r))

theorem handleReconnect_informs (hs : s.getSession token = some session) (hc : s.cached id = none) (c : ConnectionId)
    (r : RoomId) (lastReceivedSeq : Nat) : Informs s r (s.handleReconnect c id r lastReceivedSeq token) := by
  refine roomCommand_informs hs hc fun u room hroom => ?_
  split
  · exact .refuse (.refl u) _
  obtain ⟨found, calls, hposts, hapart⟩ := restorePresence_posts hroom token session.playerId
  generalize u.restorePresence r token session.playerId room = x at hposts
  refine .respond (hposts.then_silent (allocateSequence_posts x)) (Or.inr hapart)
    (.stands rfl (congrArg Change.all (buildRoomSnapshot_standing _ r))) fun d hd event hevent => ?_
  split at hd
  · rw [List.mem_singleton.mp hd] at hevent
    obtain rfl := Option.some.inj hevent
    exact sync_reports _ r session.playerId (lastReceivedSeq + 1) _ _
  · cases hd

theorem handleSyncRequest_informs (hs : s.getSession token = some session) (hc : s.cached id = none) (c : ConnectionId)
    (r : RoomId) (fromSeq : Nat) : Informs s r (s.handleSyncRequest c id r fromSeq token) := by
  refine roomCommand_informs hs hc fun u room hroom => ?_
  split
  · exact .refuse (.refl u) _
  · exact .respond (.refl u) (Or.inl rfl) (sync_reports u r session.playerId fromSeq _ _) fun d hd =>
      absurd hd List.not_mem_nil

/-! ### Every command about a room -/

/-- What the router dispatches for a command about room `r` that has no earlier answer. -/
theorem dispatch_informs {rec : ConnectionRecord} {command : Command} (hs : s.getSession token = some session)
    (hc : s.cached command.commandId = none) (htoken : rec.sessionToken = some token)
    (hr : command.body.concerns = some r) (c : ConnectionId) (diskFails : Bool) :
    ∃ result, Informs s r result ∧ s.dispatch G c rec command diskFails = linked c rec command.body result := by
  obtain ⟨id, body⟩ := command
  unfold dispatch
  rw [htoken]
  cases body with
  | auth | ping => cases hr
  | joinRoom _ name =>
    cases hr
    exact ⟨_, handleJoinRoom_informs hs hc c r name, rfl⟩
  | leaveRoom =>
    cases hr
    exact ⟨_, handleLeaveRoom_informs hs hc c r diskFails, rfl⟩
  | playerReady =>
    cases hr
    exact ⟨_, handlePlayerReady_informs hs hc c r, rfl⟩
  | makeMove _ gameId position =>
    cases hr
    exact ⟨_, handleMakeMove_informs hs hc c r gameId position diskFails, rfl⟩
  | requestRematch _ gameId =>
    cases hr
    exact ⟨_, rematchCommand_informs hs hc (fun u gs room p => handleRematchRequest_agrees gs u.now room p gameId) c r, rfl⟩
  | acceptRematch _ gameId =>
    cases hr
    exact ⟨_, rematchCommand_informs hs hc
      (fun u gs room p => handleRematchAccept_agrees gs u.now _ room p gameId) c r, rfl⟩
  | declineRematch _ gameId =>
    cases hr
    exact ⟨_, rematchCommand_informs hs hc (fun u gs room p => handleRematchDecline_agrees gs room p gameId) c r, rfl⟩
  | reconnect _ lastReceivedSeq =>
    cases hr
    exact ⟨_, handleReconnect_informs hs hc c r lastReceivedSeq, rfl⟩
  | syncRequest _ fromSeq =>
    cases hr
    exact ⟨_, handleSyncRequest_informs hs hc c r fromSeq, rfl⟩

end Server
end TicTacToe
