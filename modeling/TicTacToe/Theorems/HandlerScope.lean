import TicTacToe.Theorems.StepActs

/-! # What handlers and timers leave alone

They touch neither the clock nor the connections and the registry of players, and a handler puts at most its own
response into the dedup cache. Only an `AUTH` leaves an `AUTH_ACK` there. -/

namespace TicTacToe

/-- The response to a move is a room event. -/
theorem GameSession.handleMove_response {gs : GameSession} {now : Millis} {repository : HistoryRepository}
    {diskFails : Bool} {p : PlayerId} {gameId : GameId} {position : RawPosition} {id : CommandId} {event : Event}
    (h : (gs.handleMove now repository diskFails p gameId position id).response = some event) :
    ∃ e, event = .room e := by
  have hmoving := GameSession.handleMove_moving gs now repository diskFails p gameId position id
  generalize gs.handleMove now repository diskFails p gameId position id = outcome at h hmoving
  cases hmoving with
  | refused => cases h
  | rejected | continued => exact ⟨_, (Option.some.inj h).symm⟩
  | finished =>
    dsimp only at h
    split at h
    · cases h
    · exact ⟨_, (Option.some.inj h).symm⟩

namespace Server
variable {s t u : Server} {P : WireEvent → Prop} {r : RoomId} {G : IdSource} {c : ConnectionId} {id : CommandId}
  {token : SessionToken} {i : Input} {entry : DedupEntry}

/-- Every new entry is one of command `id`, with a response that meets `P`. -/
structure Caches (P : WireEvent → Prop) (id : CommandId) (s t : Server) : Prop where
  now : t.now = s.now
  entry : ∀ id' entry, t.sessions.dedupCache.get id' = some entry →
    s.sessions.dedupCache.get id' = some entry ∨ id' = id ∧ P entry.result

namespace Caches

theorem of_sub (hnow : t.now = s.now) (h : ∀ id' entry, t.sessions.dedupCache.get id' = some entry →
    s.sessions.dedupCache.get id' = some entry) : Caches P id s t :=
  ⟨hnow, fun id' entry he => Or.inl (h id' entry he)⟩

theorem of_same (hnow : t.now = s.now) (h : t.sessions.dedupCache = s.sessions.dedupCache) : Caches P id s t :=
  .of_sub hnow fun _ _ he => h ▸ he

theorem refl (s : Server) : Caches P id s s := .of_same rfl rfl

theorem trans (h₁ : Caches P id s t) (h₂ : Caches P id t u) : Caches P id s u := by
  refine ⟨h₂.now.trans h₁.now, fun id' entry he => ?_⟩
  rcases h₂.entry id' entry he with he | hnew
  · exact h₁.entry id' entry he
  · exact Or.inr hnew

/-- An entry found afterwards was found before, or is new. -/
theorem cached (h : Caches P id s t) {id' : CommandId} (he : t.cached id' = some entry) :
    s.cached id' = some entry ∨ id' = id ∧ P entry.result := by
  obtain ⟨hget, hlive⟩ := JsMap.lookup_eq_some.mp he
  exact (h.entry id' entry hget).imp (fun hget => JsMap.lookup_eq_some.mpr ⟨hget, h.now ▸ hlive⟩) fun hnew => hnew

end Caches

/-- Clock, connections, registry and dedup cache are the same. -/
structure Apart (s t : Server) : Prop where
  now : t.now = s.now
  connections : t.connections = s.connections
  registry : t.playerConnectionRegistry = s.playerConnectionRegistry
  dedupCache : t.sessions.dedupCache = s.sessions.dedupCache

namespace Apart

theorem refl (s : Server) : Apart s s := ⟨rfl, rfl, rfl, rfl⟩

theorem trans (h₁ : Apart s t) (h₂ : Apart t u) : Apart s u :=
  ⟨h₂.now.trans h₁.now, h₂.connections.trans h₁.connections, h₂.registry.trans h₁.registry,
    h₂.dedupCache.trans h₁.dedupCache⟩

end Apart

/-- Clock, connections and registry are the same, and every new entry of the dedup cache is one of command `id`, with a
response that meets `P`. -/
structure Confined (P : WireEvent → Prop) (id : CommandId) (s t : Server) : Prop where
  caches : Caches P id s t
  connections : t.connections = s.connections
  registry : t.playerConnectionRegistry = s.playerConnectionRegistry

namespace Confined

theorem of_same (hnow : t.now = s.now) (hc : t.connections = s.connections)
    (hr : t.playerConnectionRegistry = s.playerConnectionRegistry)
    (h : t.sessions.dedupCache = s.sessions.dedupCache) : Confined P id s t := ⟨.of_same hnow h, hc, hr⟩

theorem refl (s : Server) : Confined P id s s := .of_same rfl rfl rfl rfl

theorem trans (h₁ : Confined P id s t) (h₂ : Confined P id t u) : Confined P id s u :=
  ⟨h₁.caches.trans h₂.caches, h₂.connections.trans h₁.connections, h₂.registry.trans h₁.registry⟩

end Confined

theorem Apart.caches (h : Apart s t) : Caches P id s t := .of_same h.now h.dedupCache

theorem Apart.confined (h : Apart s t) : Confined P id s t := ⟨h.caches, h.connections, h.registry⟩

/-! ### Operations on the stores -/

theorem recordCommand_confined {e : WireEvent} (he : P e) : Confined P id s (s.recordCommand id e) := by
  refine ⟨⟨rfl, fun id' entry hget => ?_⟩, rfl, rfl⟩
  rw [recordCommand, SessionStore.recordCommand, JsMap.get_set] at hget
  split at hget
  · rename_i hid
    obtain rfl := Option.some.inj hget
    exact Or.inr ⟨hid.symm, he⟩
  · exact Or.inl hget

theorem afterLookup_confined (s : Server) (id : CommandId) : Confined P id s (s.afterLookup id) :=
  ⟨.of_sub rfl fun _ _ he => JsMap.get_of_get_evict he, rfl, rfl⟩

@[simp] theorem connections_sendAll (s : Server) (r : RoomId) (calls : List SendCall) :
    (s.sendAll r calls).connections = s.connections := by
  obtain ⟨rooms, w, h, -⟩ := sendAll_frame s r calls
  rw [h]

@[simp] theorem registry_sendAll (s : Server) (r : RoomId) (calls : List SendCall) :
    (s.sendAll r calls).playerConnectionRegistry = s.playerConnectionRegistry := by
  obtain ⟨rooms, w, h, -⟩ := sendAll_frame s r calls
  rw [h]

theorem applyEmitted_apart (s : Server) (r : RoomId) (e : Emitted) : Apart s (s.applyEmitted r e) := by
  refine ⟨?_, ?_, ?_, ?_⟩
  · simp [applyEmitted, putGame]
  · simp [applyEmitted, putGame]
  · simp [applyEmitted, putGame]
  · simp [applyEmitted, putGame]

theorem applyEffect_apart (s : Server) (r : RoomId) (e : GameEffect) : Apart s (s.applyEffect r e) :=
  (applyEmitted_apart s r e.toEmitted).trans ⟨rfl, rfl, rfl, rfl⟩

theorem ensureGameSession_apart (s : Server) (r : RoomId) : Apart s (s.ensureGameSession r) := by
  unfold ensureGameSession
  split
  · exact .refl s
  · exact ⟨rfl, rfl, rfl, rfl⟩

/-! ### Handlers -/

section Handlers
variable {reply : WireEvent → List Delivery}

theorem sessionCommand_confined {handle : Server → PlayerSession → HandlerResult}
    (h : ∀ s session, Confined P id s (handle s session).server) :
    Confined P id s (s.withSession c id token fun s session => s.unlessCached id reply fun s =>
      handle s session).server := by
  unfold withSession
  split
  · exact .of_same rfl rfl rfl rfl
  · rename_i session hs
    rw [afterGetSession_eq_self hs]
    dsimp only
    rcases unlessCached_cases s id reply (fun s => handle s session) with ⟨entry, -, he⟩ | ⟨-, he⟩
    · rw [he]
      exact .refl s
    · rw [he]
      exact (afterLookup_confined s id).trans (h _ session)

theorem withRoom_confined {handle : Server → RoomRecord → HandlerResult}
    (h : ∀ s room, Confined P id s (handle s room).server) : Confined P id s (s.withRoom c id r handle).server := by
  unfold withRoom
  split
  · exact .of_same rfl rfl rfl rfl
  · have hsame : Confined P id s (s.afterGetRoom r) := .of_same rfl rfl rfl rfl
    exact hsame.trans (h _ _)

theorem roomCommand_confined {handle : Server → PlayerSession → RoomRecord → HandlerResult}
    (h : ∀ s session room, Confined P id s (handle s session room).server) :
    Confined P id s (s.roomCommand c id token r reply handle).server :=
  sessionCommand_confined fun _ session => withRoom_confined fun s room => h s session room

end Handlers

/-- The response is no `AUTH_ACK`. -/
def NoAck (e : WireEvent) : Prop := e.acknowledged = none

/-- A room event that a handler records as its response. -/
theorem Confined.respond {event : RoomEvent} (h : Confined NoAck id s t) (c : ConnectionId) (others : List Delivery) :
    Confined NoAck id s (t.respond c id (.room event) others).server := h.trans (recordCommand_confined rfl)

theorem handleJoinRoom_confined (s : Server) (c : ConnectionId) (id : CommandId) (r : RoomId) (name : Option PlayerName)
    (token : SessionToken) : Confined NoAck id s (s.handleJoinRoom c id r name token).server := by
  refine sessionCommand_confined fun s session => ?_
  split
  · exact .of_same rfl rfl rfl rfl
  refine withRoom_confined fun s room => ?_
  split
  · have hsame : Confined NoAck id s (s.allocateSequence r) := .of_same rfl rfl rfl rfl
    exact hsame.respond c _
  split
  · exact .of_same rfl rfl rfl rfl
  split
  · exact .of_same rfl rfl rfl rfl
  rename_i symbol room' _
  have hentered : Confined NoAck id s ((s.putRoom r (room'.touch s.now)).setSessionRoom token (some r)) :=
    .of_same rfl rfl rfl rfl
  have h := hentered.trans (ensureGameSession_apart _ r).confined
  have hnumbered : ∀ u : Server, Confined NoAck id u (u.allocateSequence r) := fun u => .of_same rfl rfl rfl rfl
  unfold enterRoom
  dsimp only
  split
  · exact (h.trans (hnumbered _)).respond c _
  · exact ((h.trans (hnumbered _)).trans (hnumbered _)).respond c _

theorem handleLeaveRoom_confined (s : Server) (c : ConnectionId) (id : CommandId) (r : RoomId) (token : SessionToken)
    (diskFails : Bool) : Confined NoAck id s (s.handleLeaveRoom c id r token diskFails).server := by
  refine roomCommand_confined fun s session room => ?_
  have hvacated : ∀ {u : Server} {slot : PlayerSlot}, Confined NoAck id s u →
      Confined NoAck id s (u.vacateRoom c id r token session.playerId slot room).server := by
    intro u slot h
    have hvacated : Confined NoAck id u ((((u.allocateSequence r).allocateSequence r).putRoom r
      (room.removePlayer u.now session.playerId)).setSessionRoom token none) := .of_same rfl rfl rfl rfl
    exact (h.trans hvacated).respond c _
  split
  · exact .of_same rfl rfl rfl rfl
  split
  · exact hvacated (.refl s)
  · dsimp only
    split
    · exact (applyEffect_apart s r _).confined
    · exact hvacated (applyEffect_apart s r _).confined

theorem startReadyGame_apart (G : IdSource) (s : Server) (r : RoomId) (room : RoomRecord) :
    Apart s (s.startReadyGame G r room) := by
  unfold startReadyGame
  split
  · exact .refl s
  · have hput : Apart s ((s.putRoom r room.resetReady).drawIds 1) := ⟨rfl, rfl, rfl, rfl⟩
    exact hput.trans (applyEmitted_apart _ r _)

theorem handlePlayerReady_confined (G : IdSource) (s : Server) (c : ConnectionId) (id : CommandId) (r : RoomId)
    (token : SessionToken) : Confined NoAck id s (s.handlePlayerReady G c id r token).server := by
  refine roomCommand_confined fun s session room => ?_
  split
  · exact .of_same rfl rfl rfl rfl
  split
  · exact .of_same rfl rfl rfl rfl
  have hensured : Confined NoAck id s (s.ensureGameSession r) := (ensureGameSession_apart s r).confined
  dsimp only
  split
  · exact hensured.respond c _
  rename_i symbol _ _
  refine hensured.trans ?_
  generalize s.ensureGameSession r = s
  have hstarted : ∀ {u : Server} {event : RoomEvent} {others : List Delivery}, Confined NoAck id s u → Confined NoAck id s
      ((if (room.markReady symbol).bothReady then u.startReadyGame G r (room.markReady symbol) else u).respond c id
        (.room event) others).server := by
    intro u event others h
    split
    · exact (h.trans (startReadyGame_apart G u r _).confined).respond c _
    · exact h.respond c _
  unfold becomeReady
  dsimp only
  split
  · exact hstarted (.of_same rfl rfl rfl rfl)
  · exact hstarted (.of_same rfl rfl rfl rfl)

theorem handleMakeMove_confined (s : Server) (c : ConnectionId) (id : CommandId) (r : RoomId) (gameId : GameId)
    (position : RawPosition) (token : SessionToken) (diskFails : Bool) :
    Confined NoAck id s (s.handleMakeMove c id r gameId position token diskFails).server := by
  refine roomCommand_confined fun s session room => ?_
  split
  · exact .of_same rfl rfl rfl rfl
  dsimp only
  split
  · exact (applyEffect_apart s r _).confined
  split
  · exact (applyEffect_apart s r _).confined
  · rename_i event hresponse
    obtain ⟨e, rfl⟩ := GameSession.handleMove_response hresponse
    exact (applyEffect_apart s r _).confined.trans (recordCommand_confined rfl)

theorem rematchCommand_confined (s : Server) (c : ConnectionId) (id : CommandId) (r : RoomId) (token : SessionToken)
    (drawn : Nat) (refusal : Option GameSession → Option ErrorCode)
    (method : Server → GameSession → RoomRecord → PlayerId → GameSession.RematchOutcome) :
    Confined NoAck id s (s.rematchCommand c id r token drawn refusal method).server := by
  refine roomCommand_confined fun s session room => ?_
  split
  · exact .of_same rfl rfl rfl rfl
  · exact .refl s
  rename_i gs _ _
  have hput : Confined NoAck id s ((s.putRoom r (method s gs room session.playerId).room).drawIds drawn) :=
    .of_same rfl rfl rfl rfl
  have h := hput.trans (applyEmitted_apart _ r (method s gs room session.playerId).toEmitted).confined
  dsimp only
  split
  · exact h.trans (recordCommand_confined rfl)
  · exact h

theorem handleReconnect_confined (s : Server) (c : ConnectionId) (id : CommandId) (r : RoomId) (lastReceivedSeq : Nat)
    (token : SessionToken) : Confined NoAck id s (s.handleReconnect c id r lastReceivedSeq token).server := by
  refine roomCommand_confined fun s session room => ?_
  split
  · exact .of_same rfl rfl rfl rfl
  have hrestored : Confined NoAck id s (s.restorePresence r token session.playerId room) := by
    unfold restorePresence
    dsimp only
    split
    · exact .of_same rfl rfl rfl rfl
    · have hput : Confined NoAck id s ((s.putRoom r (room.setConnected s.now session.playerId true)).setSessionRoom token
        (some r)) := .of_same rfl rfl rfl rfl
      exact hput.trans (applyEmitted_apart _ r _).confined
  have hnumbered : ∀ u : Server, Confined NoAck id u (u.allocateSequence r) := fun u => .of_same rfl rfl rfl rfl
  exact (hrestored.trans (hnumbered _)).respond c _

theorem handleSyncRequest_confined (s : Server) (c : ConnectionId) (id : CommandId) (r : RoomId) (fromSeq : Nat)
    (token : SessionToken) : Confined NoAck id s (s.handleSyncRequest c id r fromSeq token).server := by
  refine roomCommand_confined fun s session room => ?_
  split
  · exact .of_same rfl rfl rfl rfl
  · have hsame : Confined NoAck id s s := .refl s
    exact hsame.respond c _

/-- What `AUTH` records acknowledges a session. -/
theorem handleAuth_confined (G : IdSource) (s : Server) (c : ConnectionId) (id : CommandId)
    (guestToken : Option SessionToken) :
    Confined (fun e => ∃ token p, e.acknowledged = some (token, p)) id s (s.handleAuth G c id guestToken).server := by
  have hack : ∀ (u : Server) session, Confined (fun e => ∃ token p, e.acknowledged = some (token, p)) id u
      (u.acknowledgeAuth c id session).server := by
    intro u session
    have hfound : Confined (fun e => ∃ token p, e.acknowledged = some (token, p)) id u
        ((u.touchSession session.sessionToken).existingRoom session).1 := by
      unfold existingRoom
      split
      · exact .of_same rfl rfl rfl rfl
      · dsimp only
        split
        · exact .of_same rfl rfl rfl rfl
        · exact .of_same rfl rfl rfl rfl
    exact hfound.trans (recordCommand_confined ⟨_, _, rfl⟩)
  unfold handleAuth
  rcases unlessCached_cases s id (resend c) _ with ⟨entry, -, he⟩ | ⟨-, he⟩
  · rw [he]
    exact .refl s
  rw [he]
  refine (afterLookup_confined s id).trans ?_
  generalize s.afterLookup id = u
  dsimp only
  split
  · split
    · exact .of_same rfl rfl rfl rfl
    · have hlooked : ∀ token,
          Confined (fun e => ∃ token p, e.acknowledged = some (token, p)) id u (u.afterGetSession token) :=
        fun token => .of_same rfl rfl rfl rfl
      exact (hlooked _).trans (hack _ _)
  · have hcreated : Confined (fun e => ∃ token p, e.acknowledged = some (token, p)) id u
        { u with sessions := u.sessions.createSession u.now (G.sessionToken u.nextId) (G.playerId u.nextId),
                 nextId := u.nextId + 1 } := .of_same rfl rfl rfl rfl
    exact hcreated.trans (hack _ _)

/-- What the handlers other than `handleAuth` leave alone. -/
theorem dispatch_confined {rec : ConnectionRecord} (htoken : rec.sessionToken = some token) (c : ConnectionId)
    (command : Command) (diskFails : Bool) (hbody : isAuthExempt command.body = false) :
    ∃ result, Confined NoAck command.commandId s result.server ∧
      s.dispatch G c rec command diskFails = linked c rec command.body result := by
  obtain ⟨id, body⟩ := command
  unfold dispatch
  rw [htoken]
  cases body with
  | auth | ping => cases hbody
  | joinRoom r name => exact ⟨_, handleJoinRoom_confined s c id r name token, rfl⟩
  | leaveRoom r => exact ⟨_, handleLeaveRoom_confined s c id r token diskFails, rfl⟩
  | playerReady r => exact ⟨_, handlePlayerReady_confined G s c id r token, rfl⟩
  | makeMove r gameId position => exact ⟨_, handleMakeMove_confined s c id r gameId position token diskFails, rfl⟩
  | requestRematch r gameId => exact ⟨_, rematchCommand_confined s c id r token _ _ _, rfl⟩
  | acceptRematch r gameId => exact ⟨_, rematchCommand_confined s c id r token _ _ _, rfl⟩
  | declineRematch r gameId => exact ⟨_, rematchCommand_confined s c id r token _ _ _, rfl⟩
  | reconnect r lastReceivedSeq => exact ⟨_, handleReconnect_confined s c id r lastReceivedSeq token, rfl⟩
  | syncRequest r fromSeq => exact ⟨_, handleSyncRequest_confined s c id r fromSeq token, rfl⟩

/-! ### Disconnects and windows -/

theorem handleDisconnect_apart (s : Server) (token : SessionToken) : Apart s (s.handleDisconnect token) := by
  unfold handleDisconnect
  dsimp only
  split
  · split
    · exact ⟨rfl, rfl, rfl, rfl⟩
    have hput : ∀ r room, Apart s (((s.afterGetSession token).afterGetRoom r).putRoom r room) :=
      fun _ _ => ⟨rfl, rfl, rfl, rfl⟩
    split
    · exact hput _ _
    · split
      · exact (hput _ _).trans (applyEmitted_apart _ _ _)
      · exact hput _ _
  · exact ⟨rfl, rfl, rfl, rfl⟩

theorem fireReconnectWindow_apart (s : Server) (r : RoomId) (gs : GameSession) (p : PlayerId) (timer : ReconnectTimer)
    (diskFails : Bool) : Apart s (s.fireReconnectWindow r gs p timer diskFails).1 := by
  unfold fireReconnectWindow
  dsimp only
  have h : Apart s (s.applyEffect r (gs.expireReconnectWindow s.now s.historyRepository diskFails p timer.symbol)) :=
    applyEffect_apart s r _
  split
  · exact h
  refine h.trans ?_
  generalize s.applyEffect r (gs.expireReconnectWindow s.now s.historyRepository diskFails p timer.symbol) = u
  obtain ⟨hnow, -, -, hconnections, hregistry⟩ := onPlayerLeft_rest u r p
  refine ⟨hnow, hconnections, hregistry, ?_⟩
  rcases onPlayerLeft_sessions u r p with ⟨-, hs⟩ | ⟨token, session, -, -, hs⟩
  · rw [hs]
  · rw [hs]
    rfl

end Server
end TicTacToe
