import TicTacToe.Theorems.RoomMail
import TicTacToe.Theorems.SoundSessions

/-! # A sound server

The server keeps ids in their formats and sound events only. This file holds the invariant, how the primitive operations
keep it, and how the handlers of commands do. -/

namespace TicTacToe

/-- The generators of game and player ids yield UUIDs. -/
structure IdSource.Uuids (G : IdSource) : Prop where
  gameId : ∀ n, isUuid (utf16 (G.gameId n)) = true
  playerId : ∀ n, isUuid (utf16 (G.playerId n)) = true

structure PlayerSession.Sound (session : PlayerSession) : Prop where
  playerId : isUuid (utf16 session.playerId) = true
  roomId : ∀ r, session.roomId = some r → isRoomCode (utf16 r) = true

def WireEvent.Sound : WireEvent → Prop
  | event e => Event.Sound e
  | processed => True

/-- The ids of a command have their formats, and its numbers are finite. -/
def CommandBody.Sound : CommandBody → Prop
  | auth _ => True
  | joinRoom roomId _ => isRoomCode (utf16 roomId) = true
  | leaveRoom roomId => isRoomCode (utf16 roomId) = true
  | playerReady roomId => isRoomCode (utf16 roomId) = true
  | makeMove roomId _ position => isRoomCode (utf16 roomId) = true ∧ position.Finite
  | requestRematch roomId gameId => isRoomCode (utf16 roomId) = true ∧ isUuid (utf16 gameId) = true
  | acceptRematch roomId _ => isRoomCode (utf16 roomId) = true
  | declineRematch roomId gameId => isRoomCode (utf16 roomId) = true ∧ isUuid (utf16 gameId) = true
  | ping clientTime => clientTime.isFinite = true
  | reconnect roomId _ => isRoomCode (utf16 roomId) = true
  | syncRequest roomId _ => isRoomCode (utf16 roomId) = true

/-! ### The session store -/

structure SessionStore.Sound (store : SessionStore) : Prop where
  sessions : ∀ token session, store.sessions.get token = some session → session.Sound
  cache : ∀ id entry, store.dedupCache.get id = some entry → entry.result.Sound

namespace SessionStore
variable {store : SessionStore} {now : Millis} {token : SessionToken}

namespace Sound

theorem getSession (h : store.Sound) {session : PlayerSession} (hs : store.getSession now token = some session) :
    session.Sound := h.sessions token session (JsMap.lookup_eq_some.mp hs).1

theorem createSession (h : store.Sound) {p : PlayerId} (hp : isUuid (utf16 p) = true) (now : Millis)
    (token : SessionToken) : (store.createSession now token p).Sound := by
  refine ⟨fun token' session hs => ?_, h.cache⟩
  simp only [SessionStore.createSession, JsMap.get_set] at hs
  split at hs
  · rw [← Option.some.inj hs]
    exact ⟨hp, fun r hr => by cases hr⟩
  · exact h.sessions token' session hs

theorem afterGetSession (h : store.Sound) (now : Millis) (token : SessionToken) :
    (store.afterGetSession now token).Sound :=
  ⟨fun token' session hs => h.sessions token' session (JsMap.get_of_get_evict hs), h.cache⟩

/-- The session of a token is changed and stays sound. -/
theorem modify (h : store.Sound) {f : PlayerSession → PlayerSession}
    (hf : ∀ session, session.Sound → (f session).Sound) (token : SessionToken) :
    SessionStore.Sound { store with sessions := store.sessions.modify token f } := by
  refine ⟨fun token' session hs => ?_, h.cache⟩
  simp only [JsMap.get_modify] at hs
  split at hs
  · obtain ⟨session', hs', rfl⟩ := Option.map_eq_some_iff.mp hs
    exact hf session' (h.sessions token' session' hs')
  · exact h.sessions token' session hs

theorem touch (h : store.Sound) (now : Millis) (token : SessionToken) : (store.touch now token).Sound :=
  h.modify (f := fun session => { session with lastSeenAt := now }) (fun _ hs => ⟨hs.playerId, hs.roomId⟩) token

theorem setRoom (h : store.Sound) {roomId : Option RoomId} (hr : ∀ r, roomId = some r → isRoomCode (utf16 r) = true)
    (token : SessionToken) : (store.setRoom token roomId).Sound :=
  h.modify (f := fun session => { session with roomId := roomId }) (fun _ hs => ⟨hs.playerId, hr⟩) token

theorem recordCommand (h : store.Sound) {e : WireEvent} (he : e.Sound) (now : Millis) (id : CommandId) :
    (store.recordCommand now id e).Sound := by
  refine ⟨h.sessions, fun id' entry hentry => ?_⟩
  simp only [SessionStore.recordCommand, JsMap.get_set] at hentry
  split at hentry
  · exact Option.some.inj hentry ▸ he
  · exact h.cache id' entry hentry

theorem getCachedResult (h : store.Sound) {id : CommandId} {e : WireEvent}
    (he : store.getCachedResult now id = some e) : e.Sound := by
  obtain ⟨entry, hentry, rfl⟩ := Option.map_eq_some_iff.mp he
  exact h.cache id entry (JsMap.lookup_eq_some.mp hentry).1

theorem afterGetCachedResult (h : store.Sound) (now : Millis) (id : CommandId) :
    (store.afterGetCachedResult now id).Sound :=
  ⟨h.sessions, fun id' entry hentry => h.cache id' entry (JsMap.get_of_get_evict hentry)⟩

theorem purgeExpired (h : store.Sound) (now : Millis) : (store.purgeExpired now).Sound :=
  ⟨fun token session hs => h.sessions token session (JsMap.get_of_get_purge hs),
    fun id entry hentry => h.cache id entry (JsMap.get_of_get_purge hentry)⟩

end Sound
end SessionStore

namespace Server
variable {s t u : Server} {r : RoomId} {G : IdSource} {c : ConnectionId} {id : CommandId} {token : SessionToken}
  {p : PlayerId} {room : RoomRecord} {gs : GameSession}

/-- Every id that the server keeps has its format, and every event that it keeps or has sent is sound. -/
structure Sound (s : Server) : Prop where
  sessions : s.sessions.Sound
  games : ∀ r gs, s.gameSessions.get r = some gs → gs.Sound
  sendLog : ∀ entry ∈ s.sendLog, entry.2.event.Sound
  wire : ∀ entry ∈ s.wire, entry.2.Sound

theorem start_sound (now : Millis) (version : String) (repository : HistoryRepository) :
    (start now version repository).Sound where
  sessions := ⟨fun _ _ h => (by cases h), fun _ _ h => (by cases h)⟩
  games _ _ h := by cases h
  sendLog _ h := by cases h
  wire _ h := by cases h

/-! ### Primitive operations -/

namespace Sound

theorem of_eq (h : s.Sound) (hsessions : t.sessions = s.sessions) (hgames : t.gameSessions = s.gameSessions)
    (hlog : t.sendLog = s.sendLog) (hwire : t.wire = s.wire) : t.Sound :=
  ⟨hsessions ▸ h.sessions, hgames ▸ h.games, hlog ▸ h.sendLog, hwire ▸ h.wire⟩

theorem withSessions (h : s.Sound) {sessions : SessionStore} (hs : sessions.Sound) :
    Server.Sound { s with sessions := sessions } := ⟨hs, h.games, h.sendLog, h.wire⟩

theorem afterGetSession (h : s.Sound) (token : SessionToken) : (s.afterGetSession token).Sound :=
  h.withSessions (h.sessions.afterGetSession _ _)

theorem touchSession (h : s.Sound) (token : SessionToken) : (s.touchSession token).Sound :=
  h.withSessions (h.sessions.touch _ _)

theorem setSessionRoom (h : s.Sound) {roomId : Option RoomId}
    (hr : ∀ r, roomId = some r → isRoomCode (utf16 r) = true) (token : SessionToken) :
    (s.setSessionRoom token roomId).Sound := h.withSessions (h.sessions.setRoom hr token)

theorem clearSessionRoom (h : s.Sound) (token : SessionToken) : (s.setSessionRoom token none).Sound :=
  h.setSessionRoom (fun _ hr => by cases hr) token

theorem enterSessionRoom (h : s.Sound) (hr : isRoomCode (utf16 r) = true) (token : SessionToken) :
    (s.setSessionRoom token (some r)).Sound := h.setSessionRoom (fun _ he => Option.some.inj he ▸ hr) token

theorem recordCommand (h : s.Sound) {e : WireEvent} (he : e.Sound) (id : CommandId) : (s.recordCommand id e).Sound :=
  h.withSessions (h.sessions.recordCommand he _ _)

theorem afterGetRoom (h : s.Sound) (r : RoomId) : (s.afterGetRoom r).Sound := h.of_eq rfl rfl rfl rfl

theorem putRoom (h : s.Sound) (r : RoomId) (room : RoomRecord) : (s.putRoom r room).Sound := h.of_eq rfl rfl rfl rfl

theorem drawIds (h : s.Sound) (n : Nat) : (s.drawIds n).Sound := h.of_eq rfl rfl rfl rfl

theorem putGame (h : s.Sound) (hg : gs.Sound) (r : RoomId) : (s.putGame r gs).Sound := by
  refine ⟨h.sessions, fun r' gs' hgs => ?_, h.sendLog, h.wire⟩
  simp only [Server.putGame, JsMap.get_set] at hgs
  split at hgs
  · exact Option.some.inj hgs ▸ hg
  · exact h.games r' gs' hgs

theorem ensureGameSession (h : s.Sound) (hr : isRoomCode (utf16 r) = true) : (s.ensureGameSession r).Sound := by
  unfold Server.ensureGameSession
  split
  · exact h
  · exact h.putGame (.new hr _) r

theorem allocateSequence (h : s.Sound) (r : RoomId) : (s.allocateSequence r).Sound := by
  refine ⟨h.sessions, fun r' gs hgs => ?_, h.sendLog, h.wire⟩
  simp only [Server.allocateSequence, JsMap.get_modify] at hgs
  split at hgs
  · obtain ⟨gs', hgs', rfl⟩ := Option.map_eq_some_iff.mp hgs
    exact (h.games r' gs' hgs').nextSeq
  · exact h.games r' gs hgs

theorem send (h : s.Sound) {e : WireEvent} (he : e.Sound) (c : ConnectionId) : (s.send c e).Sound := by
  unfold Server.send
  split
  · refine ⟨h.sessions, h.games, h.sendLog, fun entry hentry => ?_⟩
    rcases List.mem_append.mp hentry with hentry | hentry
    · exact h.wire entry hentry
    · rw [List.mem_singleton.mp hentry]
      exact he
  · exact h

theorem sendToPlayerConnections (h : s.Sound) {e : WireEvent} (he : e.Sound) (p : PlayerId) :
    (s.sendToPlayerConnections p e).Sound := by
  unfold Server.sendToPlayerConnections
  generalize s.getPlayerConnectionIds p = connections
  induction connections generalizing s with
  | nil => exact h
  | cons c connections ih => exact ih (h.send he c)

theorem close (h : s.Sound) {e : Option WireEvent} (he : ∀ x, e = some x → x.Sound) (c : ConnectionId) :
    (s.close c e).Sound := by
  cases e with
  | none => exact h.of_eq rfl rfl rfl rfl
  | some x => exact (h.send (he x rfl) c).of_eq rfl rfl rfl rfl

theorem sendFn (h : s.Sound) {call : SendCall} (hcall : call.event.Sound) (r : RoomId) : (s.sendFn r call).Sound := by
  have hevent : (WireEvent.event call.event).Sound := hcall
  have hlogged : Server.Sound { s.afterGetRoom r with sendLog := s.sendLog ++ [(r, call)] } := by
    refine ⟨h.sessions, h.games, fun entry hentry => ?_, h.wire⟩
    rcases List.mem_append.mp hentry with hentry | hentry
    · exact h.sendLog entry hentry
    · rw [List.mem_singleton.mp hentry]
      exact hcall
  unfold Server.sendFn
  dsimp only
  split
  · exact hlogged
  · rename_i room hroom
    generalize { s.afterGetRoom r with sendLog := s.sendLog ++ [(r, call)] } = u at hlogged
    generalize recipients room call = players
    induction players generalizing u with
    | nil => exact hlogged
    | cons p players ih => exact ih _ (hlogged.sendToPlayerConnections hevent p)

theorem sendAll (h : s.Sound) {calls : List SendCall} (hcalls : SoundCalls calls) (r : RoomId) :
    (s.sendAll r calls).Sound := by
  unfold Server.sendAll
  induction calls generalizing s with
  | nil => exact h
  | cons call calls ih =>
    exact ih (h.sendFn (hcalls call List.mem_cons_self) r) fun x hx => hcalls x (List.mem_cons_of_mem _ hx)

theorem applyEmitted (h : s.Sound) {e : Emitted} (he : e.Sound) (r : RoomId) : (s.applyEmitted r e).Sound :=
  (h.putGame he.session r).sendAll he.sends r

theorem applyEffect (h : s.Sound) {e : GameEffect} (he : e.toEmitted.Sound) (r : RoomId) : (s.applyEffect r e).Sound :=
  (h.applyEmitted he r).of_eq rfl rfl rfl rfl

end Sound

/-! ### Numbers at the send sites -/

/-- A number that has just been allocated, or the fallback. -/
theorem allocateSequence_pos (s : Server) (r : RoomId) {default : Nat} (h : 1 ≤ default) :
    1 ≤ (s.allocateSequence r).sequenceOr r default := by
  unfold sequenceOr allocateSequence
  rw [JsMap.get_modify, if_pos rfl]
  cases s.gameSessions.get r with
  | none => exact h
  | some gs => exact Nat.le_add_left 1 gs.sessionSeq

/-- Whoever holds a slot of the room has been answered with a number. -/
def Greeted (s : Server) (r : RoomId) : Prop :=
  ∀ room p, (s.view r).room = some room → room.Holds p → 1 ≤ s.counter r

theorem Greeted.of_quiet (hg : s.Greeted r) (hq : Quiet s t) : t.Greeted r := by
  intro room p hroom hheld
  rw [hq.view] at hroom
  rw [hq.counter]
  exact hg room p hroom hheld

/-- The number of a session that has been used, without a new one. -/
theorem Greeted.sequenceOr_pos (hg : s.Greeted r) (hroom : s.getRoom r = some room) (hheld : room.Holds p)
    (default : Nat) : 1 ≤ s.sequenceOr r default := by
  have hpos := hg room p (view_room_of_getRoom hroom) hheld
  cases hgame : s.gameSessions.get r with
  | none => simp [counter, sequenceOr, hgame] at hpos
  | some gs =>
    rw [sequenceOr_counter (by simp [hgame])]
    exact hpos

/-! ### Handlers -/

/-- A handler that leaves a sound server and delivers sound events. -/
structure SoundResult (result : HandlerResult) : Prop where
  server : result.server.Sound
  deliveries : ∀ d ∈ result.deliveries, d.event.Sound

namespace SoundResult

theorem ok (h : s.Sound) {deliveries : List Delivery} (hd : ∀ d ∈ deliveries, d.event.Sound) :
    SoundResult (s.ok deliveries) := ⟨h, hd⟩

theorem refuse (h : s.Sound) (c : ConnectionId) (code : ErrorCode) (id : CommandId) :
    SoundResult (s.refuse c code id) := by
  refine ⟨h, fun d hd => ?_⟩
  rw [List.mem_singleton.mp hd]
  trivial

theorem respond (h : s.Sound) {e : Event} (he : e.Sound) {others : List Delivery}
    (hothers : ∀ d ∈ others, d.event.Sound) : SoundResult (s.respond c id e others) := by
  have hevent : (WireEvent.event e).Sound := he
  refine ⟨h.recordCommand hevent id, fun d hd => ?_⟩
  rcases List.mem_cons.mp hd with rfl | hd
  · exact hevent
  · exact hothers d hd

/-- A response and nothing else. -/
theorem answer (h : s.Sound) {event : Event} (he : event.Sound) : SoundResult (s.respond c id event []) :=
  respond h he fun _ hd => (by cases hd)

/-- A response and an event for the holders of some slots. -/
theorem tell (h : s.Sound) {event told : RoomEvent} (he : event.Sound) (htold : told.Sound) (slots : List PlayerSlot) :
    SoundResult
      (s.respond c id (.room event) (slots.map fun slot => .broadcast slot.playerId (.event (.room told)))) := by
  have hevent : Event.Sound (.room event) := he
  refine respond h hevent fun d hd => ?_
  obtain ⟨slot, -, rfl⟩ := List.mem_map.mp hd
  exact htold

end SoundResult

theorem withSession_sound {handle : Server → PlayerSession → HandlerResult} (h : s.Sound)
    (hh : ∀ session, s.getSession token = some session → session.Sound →
      SoundResult (handle (s.afterGetSession token) session)) : SoundResult (s.withSession c id token handle) := by
  unfold withSession
  split
  · exact .refuse (h.afterGetSession token) _ _ _
  · rename_i session hs
    exact hh session hs (h.sessions.getSession hs)

/-- The games in a snapshot do not decide about an event. -/
theorem reread_sound {e : WireEvent} (he : e.Sound) (s : Server) : (s.reread e).Sound := by
  rcases e with (_ | _ | _ | event) | _ <;> try exact he
  obtain ⟨payload, hreread, hpayload⟩ := reread_room_cases s event
  rw [hreread]
  refine ⟨he.roomId, he.numbered, ?_⟩
  rcases hpayload with rfl | ⟨gs, -, rfl⟩
  · exact he.payload
  · have hsound : event.payload.Sound := he.payload
    revert hsound
    cases event.payload <;> exact id

theorem unlessCached_sound {reply : WireEvent → List Delivery} {handle : Server → HandlerResult} (h : s.Sound)
    (hreply : ∀ e, e.Sound → ∀ d ∈ reply e, d.event.Sound) (hh : SoundResult (handle (s.afterLookup id))) :
    SoundResult (s.unlessCached id reply handle) := by
  unfold unlessCached
  dsimp only
  split
  · rename_i e he
    exact .ok (h.withSessions (h.sessions.afterGetCachedResult _ _))
      (hreply _ (reread_sound (h.sessions.getCachedResult he) s))
  · exact hh

theorem resend_sound {e : WireEvent} (he : e.Sound) : ∀ d ∈ resend c e, d.event.Sound := by
  intro d hd
  rw [List.mem_singleton.mp hd]
  exact he

theorem afterLookup_sound (h : s.Sound) (id : CommandId) : (s.afterLookup id).Sound :=
  h.withSessions (h.sessions.afterGetCachedResult _ _)

/-- After the lookups, the server of a room command is sound and nothing has happened. -/
theorem roomCommand_sound {reply : WireEvent → List Delivery}
    {handle : Server → PlayerSession → RoomRecord → HandlerResult} (h : s.Sound) (hg : s.Greeted r)
    (hreply : ∀ e, e.Sound → ∀ d ∈ reply e, d.event.Sound)
    (hh : ∀ u session room, u.Sound → u.Greeted r → session.Sound → u.getRoom r = some room →
      SoundResult (handle u session room)) : SoundResult (s.roomCommand c id token r reply handle) := by
  refine withSession_sound h fun session hs hsession => unlessCached_sound (h.afterGetSession token) hreply ?_
  have hu := afterLookup_sound (h.afterGetSession token) id
  have hq : Quiet s ((s.afterGetSession token).afterLookup id) :=
    (afterGetSession_quiet s token).trans (afterLookup_quiet _ id)
  generalize (s.afterGetSession token).afterLookup id = u at hu hq ⊢
  unfold withRoom
  split
  · exact .refuse (hu.afterGetRoom r) _ _ _
  · rename_i room hroom
    have hqr := afterGetRoom_quiet u r
    exact hh _ session room (hu.afterGetRoom r) (hg.of_quiet (hq.trans hqr)) hsession ((hqr.getRoom r).trans hroom)

/-! ### Authentication -/

theorem existingRoom_sound (h : s.Sound) {session : PlayerSession} (hs : session.Sound) :
    (s.existingRoom session).1.Sound ∧
      ∀ room, (s.existingRoom session).2 = some room → isRoomCode (utf16 room.roomId) = true := by
  unfold existingRoom
  split
  · exact ⟨h, fun _ hr => by cases hr⟩
  · rename_i r hr
    dsimp only
    split
    · refine ⟨h.afterGetRoom r, fun room hroom => ?_⟩
      rw [← Option.some.inj hroom]
      exact hs.roomId r hr
    · exact ⟨(h.afterGetRoom r).clearSessionRoom _, fun _ hr => by cases hr⟩

theorem acknowledgeAuth_sound (h : s.Sound) {session : PlayerSession} (hs : session.Sound) (c : ConnectionId)
    (id : CommandId) : SoundResult (s.acknowledgeAuth c id session) := by
  have hfound := existingRoom_sound (h.touchSession session.sessionToken) hs
  exact .answer hfound.1 ⟨hs.playerId, hfound.2⟩

theorem handleAuth_sound (hG : G.Uuids) (h : s.Sound) (c : ConnectionId) (id : CommandId)
    (guestToken : Option SessionToken) : SoundResult (s.handleAuth G c id guestToken) := by
  refine unlessCached_sound h (fun _ he => resend_sound he) ?_
  have hu := afterLookup_sound h id
  generalize s.afterLookup id = u at hu ⊢
  split
  · rename_i token _
    split
    · exact .refuse (hu.afterGetSession token) _ _ _
    · rename_i session hs
      exact acknowledgeAuth_sound (hu.afterGetSession token) (hu.sessions.getSession hs) c id
  · have hcreated : Server.Sound { u with
        sessions := u.sessions.createSession u.now (G.sessionToken u.nextId) (G.playerId u.nextId)
        nextId := u.nextId + 1 } :=
      ⟨hu.sessions.createSession (hG.playerId _) _ _, hu.games, hu.sendLog, hu.wire⟩
    refine acknowledgeAuth_sound hcreated ⟨?_, fun _ hr => (by cases hr)⟩ c id
    exact hG.playerId u.nextId

/-! ### Rooms -/

theorem rejoinRoom_sound (h : s.Sound) (hr : isRoomCode (utf16 r) = true) (hp : isUuid (utf16 p) = true)
    (c : ConnectionId) (id : CommandId) (slot : PlayerSlot) : SoundResult (s.rejoinRoom c id r p slot) := by
  have hevent : RoomEvent.Sound (makeRoomJoined r p slot.symbol (s.buildRoomSnapshot r)
      ((s.allocateSequence r).sequenceOr r 1) id) := ⟨hr, allocateSequence_pos s r (Nat.le_refl 1), hp⟩
  exact .answer (h.allocateSequence r) hevent

theorem enterRoom_sound (h : s.Sound) (hr : isRoomCode (utf16 r) = true) (hp : isUuid (utf16 p) = true)
    (c : ConnectionId) (id : CommandId) (token : SessionToken) (name : Option PlayerName) (symbol : PlayerSymbol)
    (room : RoomRecord) : SoundResult (s.enterRoom c id r token p name symbol room) := by
  unfold enterRoom
  dsimp only
  have hu := (((h.putRoom r (room.touch s.now)).enterSessionRoom hr token).ensureGameSession hr)
  generalize ((s.putRoom r (room.touch s.now)).setSessionRoom token (some r)).ensureGameSession r = u at hu ⊢
  have hjoined : RoomEvent.Sound (makeRoomJoined r p symbol ((u.allocateSequence r).buildRoomSnapshot r)
      ((u.allocateSequence r).sequenceOr r 1) id) := ⟨hr, allocateSequence_pos u r (Nat.le_refl 1), hp⟩
  split
  · exact .answer (hu.allocateSequence r) hjoined
  · rename_i otherSlot _
    have htold : RoomEvent.Sound (makePlayerJoined r p symbol name (playerCount room)
        (((u.allocateSequence r).allocateSequence r).sequenceOr r 1)) :=
      ⟨hr, allocateSequence_pos _ r (Nat.le_refl 1), hp⟩
    have htwice := (hu.allocateSequence r).allocateSequence r
    exact SoundResult.tell htwice hjoined htold [otherSlot]

theorem handleJoinRoom_sound (h : s.Sound) (hr : isRoomCode (utf16 r) = true) (c : ConnectionId) (id : CommandId)
    (name : Option PlayerName) (token : SessionToken) : SoundResult (s.handleJoinRoom c id r name token) := by
  refine withSession_sound h fun session _ hs =>
    unlessCached_sound (h.afterGetSession token) (fun _ he => resend_sound he) ?_
  have hu := afterLookup_sound (h.afterGetSession token) id
  generalize (s.afterGetSession token).afterLookup id = u at hu ⊢
  split
  · exact .refuse hu _ _ _
  unfold withRoom
  have hv := hu.afterGetRoom r
  split
  · exact .refuse hv _ _ _
  dsimp only
  split
  · exact rejoinRoom_sound hv hr hs.playerId _ _ _
  split
  · exact .refuse hv _ _ _
  split
  · exact .refuse hv _ _ _
  · exact enterRoom_sound hv hr hs.playerId _ _ _ _ _ _

theorem vacateRoom_sound (h : s.Sound) (hr : isRoomCode (utf16 r) = true) (hp : isUuid (utf16 p) = true)
    (c : ConnectionId) (id : CommandId) (token : SessionToken) (slot : PlayerSlot) (room : RoomRecord) :
    SoundResult (s.vacateRoom c id r token p slot room) := by
  have hseq := allocateSequence_pos s r (Nat.le_refl 1)
  have hgone : RoomEvent.Sound (makeRoomLeft r ((s.allocateSequence r).sequenceOr r 1) id) := ⟨hr, hseq, trivial⟩
  have hleft : ∀ reason, RoomEvent.Sound (makePlayerLeft r p slot.symbol reason
      (((s.allocateSequence r).allocateSequence r).sequenceOr r ((s.allocateSequence r).sequenceOr r 1 + 1))) :=
    fun reason => ⟨hr, allocateSequence_pos _ r (Nat.le_add_left 1 _), hp⟩
  have htwice := (h.allocateSequence r).allocateSequence r
  have hvacated := (htwice.putRoom r (room.removePlayer s.now p)).clearSessionRoom token
  exact SoundResult.tell hvacated hgone (hleft _) (getOpponentSlot room p).toList

theorem handleLeaveRoom_sound (h : s.Sound) (hg : s.Greeted r) (hr : isRoomCode (utf16 r) = true) (c : ConnectionId)
    (id : CommandId) (token : SessionToken) (diskFails : Bool) :
    SoundResult (s.handleLeaveRoom c id r token diskFails) := by
  refine roomCommand_sound h hg (fun _ he => resend_sound he) fun u session room hu _ hs _ => ?_
  split
  · exact .refuse hu _ _ _
  split
  · exact vacateRoom_sound hu hr hs.playerId _ _ _ _ _
  · rename_i gs hgs
    have hended : (gs.handleForfeit u.now u.historyRepository diskFails session.playerId).toEmitted.Sound :=
      (hu.games r gs hgs).handleEnd _ _ _ _ _ _
    have happlied := hu.applyEffect hended r
    dsimp only
    split
    · exact ⟨happlied, fun d hd => (by cases hd)⟩
    · exact vacateRoom_sound happlied hr hs.playerId _ _ _ _ _

/-! ### Ready and moves -/

theorem startReadyGame_sound (hG : G.Uuids) (h : s.Sound) (r : RoomId) (room : RoomRecord) :
    (s.startReadyGame G r room).Sound := by
  unfold startReadyGame
  split
  · exact h
  · rename_i gs hgs
    exact ((h.putRoom r _).drawIds 1).applyEmitted ((h.games r gs hgs).startGame (hG.gameId _) _ _ _) r

theorem becomeReady_sound (hG : G.Uuids) (h : s.Sound) (hr : isRoomCode (utf16 r) = true) (c : ConnectionId)
    (id : CommandId) (symbol : PlayerSymbol) (room : RoomRecord) :
    SoundResult (s.becomeReady G c id r symbol room) := by
  unfold becomeReady
  dsimp only
  have hu := h.putRoom r room
  generalize s.putRoom r room = u at hu ⊢
  have hack : RoomEvent.Sound (makePlayerReadyAck r room.readySymbols ((u.allocateSequence r).sequenceOr r 1) id) :=
    ⟨hr, allocateSequence_pos u r (Nat.le_refl 1), trivial⟩
  have hstarted : ∀ v : Server, v.Sound → (if room.bothReady then v.startReadyGame G r room else v).Sound := by
    intro v hv
    split
    · exact startReadyGame_sound hG hv r room
    · exact hv
  split
  · exact .answer (hstarted _ (hu.allocateSequence r)) hack
  · rename_i oppSlot _
    have htold : RoomEvent.Sound (makeOpponentReady r symbol room.readySymbols
        (((u.allocateSequence r).allocateSequence r).sequenceOr r 1)) :=
      ⟨hr, allocateSequence_pos _ r (Nat.le_refl 1), trivial⟩
    have htwice := hstarted _ ((hu.allocateSequence r).allocateSequence r)
    exact SoundResult.tell htwice hack htold [oppSlot]

theorem handlePlayerReady_sound (hG : G.Uuids) (h : s.Sound) (hg : s.Greeted r) (hr : isRoomCode (utf16 r) = true)
    (c : ConnectionId) (id : CommandId) (token : SessionToken) : SoundResult (s.handlePlayerReady G c id r token) := by
  refine roomCommand_sound h hg (fun _ he => resend_sound he) fun u session room hu hgu hs hroom => ?_
  split
  · exact .refuse hu _ _ _
  split
  · exact .refuse hu _ _ _
  rename_i symbol hsymbol
  dsimp only
  split
  · -- The player has been answered before, so the session is there and its number is not 0.
    have hpos := hgu.sequenceOr_pos hroom (RoomRecord.holds_of_symbol hsymbol) 1
    have hsame : (u.ensureGameSession r).sequenceOr r 1 = u.sequenceOr r 1 := by
      unfold ensureGameSession
      split
      · rfl
      · rename_i hhas
        have hcounted := hgu room session.playerId (view_room_of_getRoom hroom) (RoomRecord.holds_of_symbol hsymbol)
        rw [counter, sequenceOr, Option.not_isSome_iff_eq_none.mp hhas] at hcounted
        cases hcounted
    have hack : RoomEvent.Sound (makePlayerReadyAck r room.readySymbols ((u.ensureGameSession r).sequenceOr r 1) id) :=
      ⟨hr, hsame ▸ hpos, trivial⟩
    exact .answer (hu.ensureGameSession hr) hack
  · exact becomeReady_sound hG (hu.ensureGameSession hr) hr _ _ _ _

theorem handleMakeMove_sound (h : s.Sound) (hg : s.Greeted r) {position : RawPosition} (hposition : position.Finite)
    (c : ConnectionId) (id : CommandId) (gameId : GameId) (token : SessionToken) (diskFails : Bool) :
    SoundResult (s.handleMakeMove c id r gameId position token diskFails) := by
  refine roomCommand_sound h hg (fun _ he => resend_sound he) fun u session room hu _ hs _ => ?_
  split
  · exact .refuse hu _ _ _
  rename_i gs hgs
  obtain ⟨hmoved, hresponse⟩ :=
    (hu.games r gs hgs).handleMove hs.playerId hposition u.now u.historyRepository diskFails gameId id
  have happlied := hu.applyEffect hmoved r
  dsimp only
  split
  · exact ⟨happlied, fun d hd => (by cases hd)⟩
  split
  · exact .ok happlied fun d hd => (by cases hd)
  · rename_i response hr
    have hevent : (WireEvent.event response).Sound := hresponse response hr
    exact .ok (happlied.recordCommand hevent id) fun d hd => (by cases hd)

/-! ### Rematch -/

theorem rematchCommand_sound {drawn : Nat} {refusal : Option GameSession → Option ErrorCode}
    {method : Server → GameSession → RoomRecord → PlayerId → GameSession.RematchOutcome} (h : s.Sound)
    (hg : s.Greeted r) (hmethod : ∀ u gs room p, gs.Sound → (method u gs room p).toEmitted.Sound) (c : ConnectionId)
    (id : CommandId) (token : SessionToken) : SoundResult (s.rematchCommand c id r token drawn refusal method) := by
  refine roomCommand_sound h hg (fun _ _ d hd => (by cases hd)) fun u session room hu _ _ _ => ?_
  split
  · exact .refuse hu _ _ _
  · exact .ok hu fun d hd => (by cases hd)
  · rename_i gs hgs _
    have happlied := ((hu.putRoom r (method u gs room session.playerId).room).drawIds drawn).applyEmitted
      (hmethod u gs room session.playerId (hu.games r gs hgs)) r
    dsimp only
    split
    · exact .ok (happlied.recordCommand (e := .processed) trivial id) fun d hd => (by cases hd)
    · exact .ok happlied fun d hd => (by cases hd)

/-! ### Reconnect and sync -/

theorem replayFor_sound (h : s.Sound) {fromSeq : Nat} {events : List RoomEvent}
    (hreplay : s.replayFor r fromSeq p = some events) : ∀ event ∈ events, event.Sound := by
  obtain ⟨hbound, -⟩ := Option.filter_eq_some_iff.mp hreplay
  obtain ⟨gs, hgs, hevents⟩ := Option.bind_eq_some_iff.mp hbound
  exact (h.games r gs hgs).getReplayEvents hevents

theorem restorePresence_sound (h : s.Sound) (hr : isRoomCode (utf16 r) = true) (token : SessionToken) (p : PlayerId)
    (room : RoomRecord) : (s.restorePresence r token p room).Sound := by
  unfold restorePresence
  dsimp only
  have hu := (h.putRoom r (room.setConnected s.now p true)).enterSessionRoom hr token
  split
  · exact hu
  · rename_i gs hgs
    exact hu.applyEmitted (((hu.games r gs hgs).clearReconnectWindow p).notifyOpponentReconnected _ _) r

theorem handleReconnect_sound (h : s.Sound) (hg : s.Greeted r) (hr : isRoomCode (utf16 r) = true) (c : ConnectionId)
    (id : CommandId) (lastReceivedSeq : Nat) (token : SessionToken) :
    SoundResult (s.handleReconnect c id r lastReceivedSeq token) := by
  refine roomCommand_sound h hg (fun _ he => resend_sound he) fun u session room hu _ hs _ => ?_
  split
  · exact .refuse hu _ _ _
  rename_i slot _
  dsimp only
  have hx := restorePresence_sound hu hr token session.playerId room
  generalize u.restorePresence r token session.playerId room = x at hx ⊢
  have hseq := allocateSequence_pos x r (Nat.le_refl 1)
  have hy := hx.allocateSequence r
  generalize x.allocateSequence r = y at hseq hy ⊢
  have hack : RoomEvent.Sound (makeReconnectAck r session.playerId slot.symbol (y.buildRoomSnapshot r)
      (y.sequenceOr r 1) id) := ⟨hr, hseq, hs.playerId⟩
  refine SoundResult.respond (e := .room _) hy hack fun d hd => ?_
  split at hd
  · rw [List.mem_singleton.mp hd]
    split
    · rename_i events hevents
      exact ⟨hr, hseq, fun event he v hv => (replayFor_sound hy hevents event he).stable hv⟩
    · exact ⟨hr, hseq, trivial⟩
  · cases hd

theorem handleSyncRequest_sound (h : s.Sound) (hg : s.Greeted r) (hr : isRoomCode (utf16 r) = true) (c : ConnectionId)
    (id : CommandId) (fromSeq : Nat) (token : SessionToken) :
    SoundResult (s.handleSyncRequest c id r fromSeq token) := by
  refine roomCommand_sound h hg (fun _ he => resend_sound he) fun u session room hu hgu hs hroom => ?_
  split
  · exact .refuse hu _ _ _
  rename_i slot hslot
  have hseq : ∀ default, 1 ≤ u.sequenceOr r default := hgu.sequenceOr_pos hroom (RoomRecord.holds_of_getSlot hslot)
  refine .answer hu ?_
  split
  · rename_i events hevents
    exact ⟨hr, hseq _, fun event he v hv => (replayFor_sound hu hevents event he).stable hv⟩
  · exact ⟨hr, hseq _, trivial⟩

end Server
end TicTacToe
