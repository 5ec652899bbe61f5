import TicTacToe.Theorems.ServerFrame

/-! # Quiet evolutions

Expiry on access, time stamps, rate counters and writes to sockets are invisible to every lookup. A handler
runs its checks in a state that is quiet against the one it was called in. -/

namespace TicTacToe

/-- A session up to the time it was last seen. -/
def PlayerSession.forgetSeen (session : PlayerSession) : PlayerSession := { session with lastSeenAt := 0 }

/-- Whom a connection acts for. -/
def ConnectionRecord.identity (rec : ConnectionRecord) : Option SessionToken × Option PlayerId × Bool :=
  (rec.sessionToken, rec.playerId, rec.authenticated)

/-- The session and the player that an `AUTH_ACK` tells. -/
def WireEvent.acknowledged : WireEvent → Option (SessionToken × PlayerId)
  | .event (.authAck token playerId _ _ _) => some (token, playerId)
  | _ => none

/-- `token` and `p` come from one of the first `n` draws. -/
def IdSource.Issued (G : IdSource) (n : Nat) (token : SessionToken) (p : PlayerId) : Prop :=
  ∃ k < n, token = G.sessionToken k ∧ p = G.playerId k

theorem IdSource.Issued.mono {G : IdSource} {m n : Nat} {token : SessionToken} {p : PlayerId} (h : G.Issued m token p)
    (hmn : m ≤ n) : G.Issued n token p := by
  obtain ⟨k, hk, he⟩ := h
  exact ⟨k, Nat.lt_of_lt_of_le hk hmn, he⟩

namespace Server
variable {s t u : Server}

/-- The unexpired dedup entry of a command. -/
def cached (s : Server) (commandId : CommandId) : Option DedupEntry := s.sessions.getCachedEntry s.now commandId

/-- The valid session of a token, up to the time it was last seen. -/
def session (s : Server) (token : SessionToken) : Option PlayerSession :=
  (s.getSession token).map PlayerSession.forgetSeen

/-- Every session belongs to the player of the draw that its token comes from, and so does every cached
`AUTH_ACK`. -/
structure Issuing (G : IdSource) (s : Server) : Prop where
  session : ∀ token session, s.sessions.sessions.get token = some session →
    session.sessionToken = token ∧ G.Issued s.nextId token session.playerId
  ack : ∀ commandId entry token p, s.sessions.dedupCache.get commandId = some entry →
    entry.result.acknowledged = some (token, p) → G.Issued s.nextId token p

/-- `t` gives the same answers as `s`. -/
structure Quiet (s t : Server) : Prop where
  now : t.now = s.now
  nextId : s.nextId ≤ t.nextId
  object : ∀ r, t.rooms.object r = s.rooms.object r
  getRoom : ∀ r, t.getRoom r = s.getRoom r
  session : ∀ token, t.session token = s.session token
  cached : ∀ commandId, t.cached commandId = s.cached commandId
  gameSessions : t.gameSessions = s.gameSessions
  historyRepository : t.historyRepository = s.historyRepository
  registry : t.playerConnectionRegistry = s.playerConnectionRegistry
  connections : ∀ c, (t.connections.get c).map ConnectionRecord.identity =
    (s.connections.get c).map ConnectionRecord.identity
  sendLog : t.sendLog = s.sendLog
  issued : ∀ G, s.Issuing G → t.Issuing G

theorem Quiet.refl (s : Server) : Quiet s s :=
  ⟨rfl, Nat.le_refl _, fun _ => rfl, fun _ => rfl, fun _ => rfl, fun _ => rfl, rfl, rfl, rfl, fun _ => rfl, rfl,
    fun _ => id⟩

theorem Quiet.trans (h₁ : Quiet s t) (h₂ : Quiet t u) : Quiet s u where
  now := h₂.now.trans h₁.now
  nextId := h₁.nextId.trans h₂.nextId
  object r := (h₂.object r).trans (h₁.object r)
  getRoom r := (h₂.getRoom r).trans (h₁.getRoom r)
  session token := (h₂.session token).trans (h₁.session token)
  cached id := (h₂.cached id).trans (h₁.cached id)
  gameSessions := h₂.gameSessions.trans h₁.gameSessions
  historyRepository := h₂.historyRepository.trans h₁.historyRepository
  registry := h₂.registry.trans h₁.registry
  connections c := (h₂.connections c).trans (h₁.connections c)
  sendLog := h₂.sendLog.trans h₁.sendLog
  issued G := h₂.issued G ∘ h₁.issued G

/-- A session found in `t` was found in `s`, up to its time stamp. -/
theorem Quiet.session_of_some (h : Quiet s t) {token : SessionToken} {session : PlayerSession}
    (hs : t.getSession token = some session) :
    ∃ session₀, s.getSession token = some session₀ ∧ session₀.playerId = session.playerId ∧
      session₀.roomId = session.roomId ∧ session₀.sessionToken = session.sessionToken := by
  have hm : (t.getSession token).map _ = (s.getSession token).map _ := h.session token
  rw [hs, Option.map_some] at hm
  obtain ⟨session₀, h₀, he⟩ := Option.map_eq_some_iff.mp hm.symm
  refine ⟨session₀, h₀, ?_, ?_, ?_⟩
  · simpa [PlayerSession.forgetSeen] using congrArg PlayerSession.playerId he
  · simpa [PlayerSession.forgetSeen] using congrArg PlayerSession.roomId he
  · simpa [PlayerSession.forgetSeen] using congrArg PlayerSession.sessionToken he

/-- A session found in `s` is found in `t`, up to its time stamp. -/
theorem Quiet.session_to_some (h : Quiet s t) {token : SessionToken} {session : PlayerSession}
    (hs : s.getSession token = some session) :
    ∃ session', t.getSession token = some session' ∧ session'.playerId = session.playerId ∧
      session'.roomId = session.roomId := by
  have hm : (t.getSession token).map PlayerSession.forgetSeen = (s.getSession token).map PlayerSession.forgetSeen :=
    h.session token
  rw [hs, Option.map_some] at hm
  obtain ⟨session', h', he⟩ := Option.map_eq_some_iff.mp hm
  refine ⟨session', h', ?_, ?_⟩
  · simpa [PlayerSession.forgetSeen] using congrArg PlayerSession.playerId he
  · simpa [PlayerSession.forgetSeen] using congrArg PlayerSession.roomId he

/-! ### The quiet operations -/

/-- Ids stay issued when the stores lose entries and time stamps change. -/
theorem Issuing.of_sub {G : IdSource} (h : s.Issuing G) (hid : s.nextId ≤ t.nextId)
    (hsession : ∀ token session, t.sessions.sessions.get token = some session →
      ∃ session₀, s.sessions.sessions.get token = some session₀ ∧ session.sessionToken = session₀.sessionToken ∧
        session.playerId = session₀.playerId)
    (hentry : ∀ commandId entry, t.sessions.dedupCache.get commandId = some entry →
      s.sessions.dedupCache.get commandId = some entry) : t.Issuing G where
  session token session hs := by
    obtain ⟨session₀, h₀, ht, hp⟩ := hsession token session hs
    obtain ⟨htoken, hissued⟩ := h.session token session₀ h₀
    exact ⟨ht.trans htoken, hp ▸ hissued.mono hid⟩
  ack commandId entry token p he hack := (h.ack commandId entry token p (hentry _ _ he) hack).mono hid

theorem Issuing.of_same {G : IdSource} (h : s.Issuing G) (hid : s.nextId ≤ t.nextId) (hs : t.sessions = s.sessions) :
    t.Issuing G :=
  h.of_sub hid (fun _ session hsession => ⟨session, hs ▸ hsession, rfl, rfl⟩) fun _ _ he => hs ▸ he

theorem wire_quiet (s : Server) (w : List (ConnectionId × WireEvent)) : Quiet s { s with wire := w } :=
  ⟨rfl, Nat.le_refl _, fun _ => rfl, fun _ => rfl, fun _ => rfl, fun _ => rfl, rfl, rfl, rfl, fun _ => rfl, rfl,
    fun _ h => h.of_same (Nat.le_refl _) rfl⟩

theorem send_quiet (s : Server) (c : ConnectionId) (e : WireEvent) : Quiet s (s.send c e) := by
  obtain ⟨w, hw⟩ := send_frame s c e
  exact hw ▸ wire_quiet s _

theorem deliver_quiet (s : Server) (ds : List Delivery) : Quiet s (s.deliver ds) := by
  obtain ⟨w, hw⟩ := deliver_frame s ds
  exact hw ▸ wire_quiet s _

theorem drawIds_quiet (s : Server) (n : Nat) : Quiet s (s.drawIds n) :=
  ⟨rfl, Nat.le_add_right _ _, fun _ => rfl, fun _ => rfl, fun _ => rfl, fun _ => rfl, rfl, rfl, rfl, fun _ => rfl, rfl,
    fun _ h => h.of_same (Nat.le_add_right _ _) rfl⟩

theorem afterGetRoom_quiet (s : Server) (r : RoomId) : Quiet s (s.afterGetRoom r) :=
  ⟨rfl, Nat.le_refl _, fun _ => RoomStore.object_afterGetRoom, fun _ => RoomStore.getRoom_afterGetRoom,
    fun _ => rfl, fun _ => rfl, rfl, rfl, rfl, fun _ => rfl, rfl, fun _ h => h.of_same (Nat.le_refl _) rfl⟩

theorem getSession_afterGetSession (s : Server) (token token' : SessionToken) :
    (s.afterGetSession token).getSession token' = s.getSession token' := JsMap.lookup_evict _ _ _

theorem afterGetSession_quiet (s : Server) (token : SessionToken) : Quiet s (s.afterGetSession token) :=
  ⟨rfl, Nat.le_refl _, fun _ => rfl, fun _ => rfl,
    fun token' => congrArg _ (getSession_afterGetSession s token token'), fun _ => rfl, rfl, rfl, rfl, fun _ => rfl, rfl,
    fun _ h => h.of_sub (Nat.le_refl _) (fun _ session hs => ⟨session, JsMap.get_of_get_evict hs, rfl, rfl⟩)
      fun _ _ he => he⟩

theorem getSession_touchSession (s : Server) (token token' : SessionToken) :
    (s.touchSession token).getSession token' =
      if token = token' then (s.getSession token').map fun session => { session with lastSeenAt := s.now }
      else s.getSession token' := by
  simp only [touchSession, getSession, SessionStore.getSession, SessionStore.touch, JsMap.lookup, JsMap.get_modify]
  split
  · cases hget : s.sessions.sessions.get token' with
    | none => rfl
    | some session => cases hx : session.isExpired s.now <;> simp [Option.filter, PlayerSession.isExpired] at hx ⊢
  · rfl

theorem touchSession_quiet (s : Server) (token : SessionToken) : Quiet s (s.touchSession token) where
  now := rfl
  nextId := Nat.le_refl _
  object _ := rfl
  getRoom _ := rfl
  session token' := by
    rw [session, getSession_touchSession]
    split
    · rw [session]
      cases s.getSession token' <;> rfl
    · rfl
  cached _ := rfl
  gameSessions := rfl
  historyRepository := rfl
  registry := rfl
  connections _ := rfl
  sendLog := rfl
  issued _ h := by
    refine h.of_sub (Nat.le_refl _) (fun token' session hs => ?_) fun _ _ he => he
    simp only [touchSession, SessionStore.touch, JsMap.get_modify] at hs
    split at hs
    · obtain ⟨session₀, h₀, rfl⟩ := Option.map_eq_some_iff.mp hs
      exact ⟨session₀, h₀, rfl, rfl⟩
    · exact ⟨session, hs, rfl, rfl⟩

/-- Changing a connection's time stamps and counters. -/
theorem modifyConnection_quiet (s : Server) (c : ConnectionId) (f : ConnectionRecord → ConnectionRecord)
    (hf : ∀ rec, (f rec).identity = rec.identity) : Quiet s { s with connections := s.connections.modify c f } where
  now := rfl
  nextId := Nat.le_refl _
  object _ := rfl
  getRoom _ := rfl
  session _ := rfl
  cached _ := rfl
  gameSessions := rfl
  historyRepository := rfl
  registry := rfl
  issued _ h := h.of_same (Nat.le_refl _) rfl
  connections c' := by
    rw [JsMap.get_modify]
    split
    · cases s.connections.get c' with
      | none => rfl
      | some rec => exact congrArg some (hf rec)
    · rfl
  sendLog := rfl

theorem touchConnection_quiet (s : Server) (c : ConnectionId) : Quiet s (s.touchConnection c) :=
  modifyConnection_quiet s c _ fun _ => rfl

theorem countFrame_quiet (s : Server) (c : ConnectionId) : Quiet s (s.countFrame c) :=
  modifyConnection_quiet s c _ fun _ => rfl

/-! ### The checks of a handler -/

variable {c : ConnectionId} {commandId : CommandId} {token : SessionToken} {r : RoomId}
  {reply : WireEvent → List Delivery}

/-- The server after a dedup lookup: an expired entry is deleted. -/
def afterLookup (s : Server) (commandId : CommandId) : Server :=
  { s with sessions := s.sessions.afterGetCachedResult s.now commandId }

theorem afterLookup_quiet (s : Server) (commandId : CommandId) : Quiet s (s.afterLookup commandId) :=
  ⟨rfl, Nat.le_refl _, fun _ => rfl, fun _ => rfl, fun _ => rfl, fun _ => JsMap.lookup_evict _ _ _, rfl, rfl, rfl,
    fun _ => rfl, rfl, fun _ h => h.of_sub (Nat.le_refl _) (fun _ session hs => ⟨session, hs, rfl, rfl⟩)
      fun _ _ he => JsMap.get_of_get_evict he⟩

/-- A valid session survives its lookup. -/
theorem afterGetSession_eq_self {session : PlayerSession} (h : s.getSession token = some session) :
    s.afterGetSession token = s := by
  have hsame : s.sessions.sessions.evict (PlayerSession.isExpired s.now) token = s.sessions.sessions :=
    JsMap.evict_eq_self h
  simp only [afterGetSession, SessionStore.afterGetSession, hsame]

/-- An unexpired dedup entry survives its lookup. -/
theorem afterLookup_eq_self {entry : DedupEntry} (h : s.cached commandId = some entry) :
    s.afterLookup commandId = s := by
  have hsame : s.sessions.dedupCache.evict (DedupEntry.isExpired s.now) commandId = s.sessions.dedupCache :=
    JsMap.evict_eq_self h
  simp only [afterLookup, SessionStore.afterGetCachedResult, hsame]

/-- A live room survives its lookup. -/
theorem afterGetRoom_eq_self {room : RoomRecord} (h : s.getRoom r = some room) : s.afterGetRoom r = s := by
  have hsame : s.rooms.afterGetRoom s.now r = s.rooms := RoomStore.afterGetRoom_eq_self h
  simp only [afterGetRoom, hsame]

/-- The handler refuses the command: its only delivery is an error, and no lookup gives another answer. -/
def Refuses (s : Server) (c : ConnectionId) (commandId : CommandId) (result : HandlerResult) : Prop :=
  ∃ t code, Quiet s t ∧ t.wire = s.wire ∧ result = t.refuse c code commandId

theorem Refuses.of_quiet {result : HandlerResult} (hq : Quiet s t) (hw : t.wire = s.wire)
    (h : Refuses t c commandId result) : Refuses s c commandId result := by
  obtain ⟨u, code, hq', hw', he⟩ := h
  exact ⟨u, code, hq.trans hq', hw'.trans hw, he⟩

theorem Refuses.refuse (hq : Quiet s t) (hw : t.wire = s.wire) (code : ErrorCode) :
    Refuses s c commandId (t.refuse c code commandId) := ⟨t, code, hq, hw, rfl⟩

/-- Without an unexpired session a handler refuses; otherwise it goes on with the session. -/
theorem withSession_cases (s : Server) (c : ConnectionId) (commandId : CommandId) (token : SessionToken)
    (handle : Server → PlayerSession → HandlerResult) :
    (s.getSession token = none ∧ Refuses s c commandId (s.withSession c commandId token handle)) ∨
    ∃ session, s.getSession token = some session ∧ s.withSession c commandId token handle = handle s session := by
  unfold withSession
  cases hs : s.getSession token with
  | none => exact Or.inl ⟨rfl, _, _, afterGetSession_quiet s token, rfl, rfl⟩
  | some session => exact Or.inr ⟨session, rfl, by rw [afterGetSession_eq_self hs]⟩

/-- A cached response is answered as it reads now. -/
theorem unlessCached_cases (s : Server) (commandId : CommandId) (reply : WireEvent → List Delivery)
    (handle : Server → HandlerResult) :
    (∃ entry, s.cached commandId = some entry ∧
      s.unlessCached commandId reply handle = s.ok (reply (s.reread entry.result))) ∨
    (s.cached commandId = none ∧ s.unlessCached commandId reply handle = handle (s.afterLookup commandId)) := by
  unfold unlessCached
  have hlooked : { s with sessions := s.sessions.afterGetCachedResult s.now commandId } = s.afterLookup commandId := rfl
  rw [hlooked]
  cases hc : s.cached commandId with
  | some entry =>
    have hr : s.sessions.getCachedResult s.now commandId = some entry.result := by
      simp only [SessionStore.getCachedResult]
      exact congrArg (Option.map DedupEntry.result) hc
    exact Or.inl ⟨entry, rfl, by simp only [hr, afterLookup_eq_self hc]⟩
  | none =>
    have hr : s.sessions.getCachedResult s.now commandId = none := by
      simp only [SessionStore.getCachedResult]
      exact congrArg (Option.map DedupEntry.result) hc
    exact Or.inr ⟨rfl, by simp only [hr]⟩

theorem withRoom_cases (s : Server) (c : ConnectionId) (commandId : CommandId) (r : RoomId)
    (handle : Server → RoomRecord → HandlerResult) :
    (s.getRoom r = none ∧ Refuses s c commandId (s.withRoom c commandId r handle)) ∨
    ∃ room, s.getRoom r = some room ∧ s.withRoom c commandId r handle = handle s room := by
  unfold withRoom
  cases hr : s.getRoom r with
  | none => exact Or.inl ⟨rfl, _, _, afterGetRoom_quiet s r, rfl, rfl⟩
  | some room => exact Or.inr ⟨room, rfl, by rw [afterGetRoom_eq_self hr]⟩

/-! ### Cached objects -/

theorem reread_congr (h : t.gameSessions = s.gameSessions) (e : WireEvent) : t.reread e = s.reread e := by
  unfold reread
  simp only [h]

/-- What a room event reads as is a room event of the same number, in answer to the same command. -/
theorem reread_room_cases (s : Server) (event : RoomEvent) :
    ∃ payload, s.reread (.event (.room event)) = .event (.room { event with payload := payload }) ∧
      (payload = event.payload ∨ ∃ gs, s.gameSessions.get event.roomId = some gs ∧
        payload = event.payload.withHistory gs.history) := by
  unfold reread
  dsimp only
  cases s.gameSessions.get event.roomId with
  | none => exact ⟨event.payload, rfl, Or.inl rfl⟩
  | some gs => exact ⟨_, rfl, Or.inr ⟨gs, rfl, rfl⟩⟩

/-- What reads as a room event is one. -/
theorem eq_of_reread_room {e : WireEvent} {event : RoomEvent} (h : s.reread e = .event (.room event)) :
    ∃ event₀, e = .event (.room event₀) ∧ event.roomId = event₀.roomId ∧
      (event.payload = event₀.payload ∨ ∃ games, event.payload = event₀.payload.withHistory games) := by
  rcases e with (_ | _ | _ | event₀) | _ <;> try cases h
  obtain ⟨payload, he, hpayload⟩ := reread_room_cases s event₀
  obtain rfl := Event.room.inj (WireEvent.event.inj (he.symm.trans h))
  exact ⟨event₀, rfl, rfl, hpayload.imp_right fun ⟨gs, _, hp⟩ => ⟨gs.history, hp⟩⟩

/-- The snapshot in `e`, if any, shows the games of the session of its room. -/
def Shows (s : Server) (e : WireEvent) : Prop :=
  ∀ event roomState, e = .event (.room event) → event.payload.roomState = some roomState →
    ∃ gs, s.gameSessions.get event.roomId = some gs ∧ roomState.gameHistory = gs.history

theorem Shows.congr {e : WireEvent} (h : s.Shows e) (ht : t.gameSessions = s.gameSessions) : t.Shows e :=
  fun event roomState he hstate => ht ▸ h event roomState he hstate

theorem Shows.reread {e : WireEvent} (h : s.Shows e) : s.reread e = e := by
  rcases e with (_ | _ | _ | event) | _ <;> try rfl
  obtain ⟨r, seq, correlationId, payload⟩ := event
  unfold Server.reread
  dsimp only
  cases hg : s.gameSessions.get r with
  | none => rfl
  | some gs =>
    have hhistory : ∀ roomState, payload.roomState = some roomState → roomState.gameHistory = gs.history := by
      intro roomState hstate
      obtain ⟨gs', hg', hsame⟩ := h _ roomState rfl hstate
      rwa [Option.some.inj (hg.symm.trans hg')]
    cases payload with
    | roomJoined | reconnectAck | stateSyncSnapshot => simp only [RoomPayload.withHistory, ← hhistory _ rfl]
    | _ => rfl

/-- An event without a snapshot. -/
theorem Shows.of_plain {event : RoomEvent} (h : event.payload.roomState = none) :
    s.Shows (.event (.room event)) := by
  intro event' roomState he hstate
  obtain rfl := Event.room.inj (WireEvent.event.inj he)
  rw [h] at hstate
  cases hstate

/-- An event with a snapshot of the session's games. -/
theorem Shows.of_snapshot {event : RoomEvent} {roomState : RoomStateSnapshot}
    (hstate : event.payload.roomState = some roomState)
    (h : ∃ gs, s.gameSessions.get event.roomId = some gs ∧ roomState.gameHistory = gs.history) :
    s.Shows (.event (.room event)) := by
  intro event' roomState' he hstate'
  obtain rfl := Event.room.inj (WireEvent.event.inj he)
  obtain rfl := Option.some.inj (hstate.symm.trans hstate')
  exact h

/-- A room with players has its session. -/
def Equipped (s : Server) : Prop :=
  ∀ r room p, s.getRoom r = some room → getSlotByPlayerId room p ≠ none → s.gameSessions.get r ≠ none

theorem Equipped.to_quiet (hq : Quiet s t) (h : s.Equipped) : t.Equipped := by
  intro r room p hroom hslot
  rw [hq.gameSessions]
  exact h r room p ((hq.getRoom r).symm.trans hroom) hslot

/-- The snapshot of a room is built where its session is there; it is sent with the same games in the session. -/
theorem buildRoomSnapshot_history {r : RoomId} (hgame : s.gameSessions.get r ≠ none)
    (h : (t.gameSessions.get r).map GameSession.history = (s.gameSessions.get r).map GameSession.history) :
    ∃ gs, t.gameSessions.get r = some gs ∧ (s.buildRoomSnapshot r).gameHistory = gs.history := by
  obtain ⟨gs, hg⟩ := Option.ne_none_iff_exists'.mp hgame
  rw [hg, Option.map_some] at h
  obtain ⟨gs', hg', hsame⟩ := Option.map_eq_some_iff.mp h
  exact ⟨gs', hg', by simp only [buildRoomSnapshot, hg, Option.map_some, Option.getD_some, hsame]⟩

theorem allocateSequence_history (s : Server) (r r' : RoomId) :
    ((s.allocateSequence r).gameSessions.get r').map GameSession.history =
      (s.gameSessions.get r').map GameSession.history := by
  simp only [allocateSequence, JsMap.get_modify]
  split
  · rw [Option.map_map]
    rfl
  · rfl

theorem reread_of_acknowledged {e : WireEvent} {x : SessionToken × PlayerId} (h : e.acknowledged = some x) :
    s.reread e = e := by
  rcases e with (_ | _ | _ | event) | _ <;> first | rfl | cases h

theorem Shows.of_isError {e : WireEvent} (h : e.isError = true) : s.Shows e := by
  rintro event roomState rfl -
  cases h

@[simp] theorem isError_reread (s : Server) (e : WireEvent) : (s.reread e).isError = e.isError := by
  rcases e with (_ | _ | _ | event) | _ <;> try rfl
  obtain ⟨payload, he, -⟩ := reread_room_cases s event
  rw [he]
  rfl

@[simp] theorem acknowledged_reread (s : Server) (e : WireEvent) : (s.reread e).acknowledged = e.acknowledged := by
  rcases e with (_ | _ | _ | event) | _ <;> try rfl
  obtain ⟨payload, he, -⟩ := reread_room_cases s event
  rw [he]
  rfl

/-! ### Handling a command -/

/-- The response to a command: what the handler delivers to the asking connection, or what the room's session has
sent to the player itself. -/
def answer (s : Server) (result : HandlerResult) : Option WireEvent :=
  if result.threw then none
  else match result.deliveries with
    | .connection _ e :: _ => some e
    | _ => (result.server.sendLog.drop s.sendLog.length).head?.bind fun (_, call) =>
      if call.target = .player then some (.event call.event) else none

/-- A response that is no error is recorded for the command, at the time of the call, and a snapshot in it shows the
games of its session; nothing else is recorded but the mark of a rematch command. A handler that throws records
nothing. -/
structure Records (s : Server) (commandId : CommandId) (result : HandlerResult) : Prop where
  recorded : ∀ e, s.answer result = some e → e.isError = false →
    result.server.cached commandId = some ⟨commandId, e, s.now⟩
  current : s.Equipped → ∀ e, s.answer result = some e → result.server.Shows e
  only : ∀ entry, result.server.cached commandId = some entry →
    s.cached commandId = some entry ∨ entry.result = .processed ∨ s.answer result = some entry.result
  threw : result.threw = true → ∀ id, result.server.cached id = s.cached id

theorem cached_recordCommand (s : Server) (commandId : CommandId) (e : WireEvent) :
    (s.recordCommand commandId e).cached commandId = some ⟨commandId, e, s.now⟩ := by
  have hfresh : (⟨commandId, e, s.now⟩ : DedupEntry).isExpired s.now = false := by
    simp [DedupEntry.isExpired, COMMAND_DEDUP_TTL_MS]
  simp only [cached, recordCommand, SessionStore.recordCommand, SessionStore.getCachedEntry, JsMap.lookup,
    JsMap.get_set_self, Option.filter, hfresh, Bool.not_false, ↓reduceIte]

theorem Records.respond {event : Event} {others : List Delivery} (hnow : t.now = s.now)
    (hshows : s.Equipped → t.Shows (.event event)) :
    Records s commandId (t.respond c commandId event others) := by
  have hrecorded := cached_recordCommand t commandId (.event event)
  refine ⟨fun e he _ => ?_, fun hs e he => ?_, fun entry hentry => ?_, fun hthrew => by simp [Server.respond, ok] at hthrew⟩
  · obtain rfl : WireEvent.event event = e := Option.some.inj he
    exact hrecorded.trans (by rw [hnow])
  · obtain rfl : WireEvent.event event = e := Option.some.inj he
    exact hshows hs
  · obtain rfl := Option.some.inj (hrecorded.symm.trans hentry)
    exact Or.inr (Or.inr rfl)

/-- A handler that has thrown gives no response. -/
theorem Records.of_threw {deliveries : List Delivery} (hcached : ∀ id, t.cached id = s.cached id) :
    Records s commandId ⟨t, deliveries, true⟩ := by
  have hnone : s.answer ⟨t, deliveries, true⟩ = none := rfl
  refine ⟨fun e he => ?_, fun _ e he => ?_, fun entry hentry => ?_, fun _ => hcached⟩
  · simp [hnone] at he
  · simp [hnone] at he
  · exact Or.inl ((hcached commandId).symm.trans hentry)

/-- A handler that leaves the response to the room's session, which has told the player first. -/
theorem Records.told {r : RoomId} {p : PlayerId} {e : Event} {rest : List SendCall} (hnow : t.now = s.now)
    (hlog : t.sendLog = s.sendLog ++ (⟨.player, p, e⟩ :: rest).map (r, ·)) (hshows : t.Shows (.event e)) :
    Records s commandId ((t.recordCommand commandId (.event e)).ok []) := by
  have hrecorded := cached_recordCommand t commandId (.event e)
  have hdrop : t.sendLog.drop s.sendLog.length = (r, ⟨.player, p, e⟩) :: rest.map (r, ·) := by
    rw [hlog, List.drop_left, List.map_cons]
  have hanswer : s.answer ((t.recordCommand commandId (.event e)).ok []) = some (.event e) := by
    simp [answer, ok, recordCommand, hdrop]
  refine ⟨fun e' he _ => ?_, fun _ e' he => ?_, fun entry hentry => ?_, fun hthrew => by simp [ok] at hthrew⟩
  · obtain rfl := Option.some.inj (hanswer.symm.trans he)
    exact hrecorded.trans (by rw [hnow])
  · obtain rfl := Option.some.inj (hanswer.symm.trans he)
    exact hshows
  · obtain rfl := Option.some.inj (hrecorded.symm.trans hentry)
    exact Or.inr (Or.inr hanswer)

/-- A handler that leaves the response to the room's session, which has told the player about an error. -/
theorem Records.erred {r : RoomId} {p : PlayerId} {e : Event} {rest : List SendCall}
    (hlog : t.sendLog = s.sendLog ++ (⟨.player, p, e⟩ :: rest).map (r, ·))
    (herror : (WireEvent.event e).isError = true) (hcached : ∀ id, t.cached id = s.cached id) :
    Records s commandId (t.ok []) := by
  have hdrop : t.sendLog.drop s.sendLog.length = (r, ⟨.player, p, e⟩) :: rest.map (r, ·) := by
    rw [hlog, List.drop_left, List.map_cons]
  have hanswer : s.answer (t.ok []) = some (.event e) := by simp [answer, ok, hdrop]
  refine ⟨fun e' he hok => ?_, fun _ e' he => ?_, fun entry hentry => ?_, fun hthrew => by simp [ok] at hthrew⟩
  · obtain rfl := Option.some.inj (hanswer.symm.trans he)
    exact absurd herror (by simp [hok])
  · obtain rfl := Option.some.inj (hanswer.symm.trans he)
    exact .of_isError herror
  · exact Or.inl ((hcached commandId).symm.trans hentry)

/-- A handler after which the room's session has told everybody the same. -/
theorem Records.broadcasts {r : RoomId} {calls : List SendCall} (hlog : t.sendLog = s.sendLog ++ calls.map (r, ·))
    (hcalls : ∀ call ∈ calls, call.target = .broadcast)
    (honly : ∀ entry, t.cached commandId = some entry → s.cached commandId = some entry ∨ entry.result = .processed) :
    Records s commandId (t.ok []) := by
  have hdrop : t.sendLog.drop s.sendLog.length = calls.map (r, ·) := by rw [hlog, List.drop_left]
  have hnone : s.answer (t.ok []) = none := by
    cases calls with
    | nil => simp [answer, ok, hdrop]
    | cons call calls => simp [answer, ok, hdrop, hcalls call List.mem_cons_self]
  refine ⟨fun e he => ?_, fun _ e he => ?_, fun entry hentry => ?_, fun hthrew => by simp [ok] at hthrew⟩
  · simp [hnone] at he
  · simp [hnone] at he
  · exact (honly entry hentry).imp_right Or.inl

/-- The session of `token` is valid, belongs to `p`, and has not had `commandId` answered before. -/
structure Processed (s : Server) (token : SessionToken) (commandId : CommandId) (p : PlayerId) : Prop where
  session : ∃ session, s.getSession token = some session ∧ session.playerId = p
  uncached : s.cached commandId = none

theorem Processed.of_quiet {p : PlayerId} (hq : Quiet s t) (h : Processed t token commandId p) :
    Processed s token commandId p := by
  obtain ⟨session, hs, hp⟩ := h.session
  obtain ⟨session₀, hs₀, hp₀, -, -⟩ := hq.session_of_some hs
  exact ⟨⟨session₀, hs₀, hp₀.trans hp⟩, (hq.cached commandId).symm.trans h.uncached⟩

theorem Processed.to_quiet {p : PlayerId} (hq : Quiet s t) (h : Processed s token commandId p) :
    Processed t token commandId p := by
  obtain ⟨session, hs, hp⟩ := h.session
  obtain ⟨session', hs', hp', -⟩ := hq.session_to_some hs
  exact ⟨⟨session', hs', hp'.trans hp⟩, (hq.cached commandId).trans h.uncached⟩

/-- How a handler deals with a command of the session of `token`: it refuses it, answers it from the cache, or
processes it for the session's player, with `done` about the result. -/
inductive Handling (s : Server) (c : ConnectionId) (commandId : CommandId) (token : SessionToken)
    (reply : WireEvent → List Delivery) (done : PlayerId → HandlerResult → Prop) (result : HandlerResult) : Prop
  | refused (h : Refuses s c commandId result) (hs : s.getSession token = none ∨ s.cached commandId = none)
  | recalled {session : PlayerSession} {entry : DedupEntry} (hs : s.getSession token = some session)
    (hc : s.cached commandId = some entry) (h : result = s.ok (reply (s.reread entry.result)))
  | processed {p : PlayerId} (hp : s.Processed token commandId p) (h : done p result)

theorem Handling.mono {done done' : PlayerId → HandlerResult → Prop} {result : HandlerResult}
    (h : Handling s c commandId token reply done result) (hd : ∀ p, done p result → done' p result) :
    Handling s c commandId token reply done' result := by
  cases h with
  | refused h hs => exact .refused h hs
  | recalled hs hc h => exact .recalled hs hc h
  | processed hp h => exact .processed hp (hd _ h)

/-- The checks on the session and the dedup cache, around a handler that refuses or is done. -/
theorem sessionCommand_handling (handle : Server → PlayerSession → HandlerResult)
    {done : PlayerId → HandlerResult → Prop}
    (hhandle : ∀ session, s.getSession token = some session → s.cached commandId = none →
      Refuses s c commandId (handle (s.afterLookup commandId) session) ∨
        done session.playerId (handle (s.afterLookup commandId) session)) :
    Handling s c commandId token reply done (s.withSession c commandId token fun s session =>
      s.unlessCached commandId reply fun s => handle s session) := by
  rcases withSession_cases s c commandId token (fun s session => s.unlessCached commandId reply fun s =>
    handle s session) with ⟨hnone, h⟩ | ⟨session, hs, he⟩
  · exact .refused h (Or.inl hnone)
  rw [he]
  rcases unlessCached_cases s commandId reply (fun s => handle s session) with ⟨entry, hc, he⟩ | ⟨hc, he⟩
  · exact .recalled hs hc he
  rw [he]
  rcases hhandle session hs hc with h | h
  · exact .refused h (Or.inr hc)
  · exact .processed ⟨⟨session, hs, rfl⟩, hc⟩ h

/-- The same with the lookup of a room; the handler starts in a server that the lookups have left. -/
theorem roomCommand_handling {handle : Server → PlayerSession → RoomRecord → HandlerResult}
    {done : PlayerId → HandlerResult → Prop}
    (hhandle : ∀ t session room, Quiet s t → t.wire = s.wire → t.getSession token = some session →
      t.getRoom r = some room → t.cached commandId = none →
      Refuses s c commandId (handle t session room) ∨ done session.playerId (handle t session room)) :
    Handling s c commandId token reply done (s.roomCommand c commandId token r reply handle) := by
  refine sessionCommand_handling (fun s session => s.withRoom c commandId r fun s room => handle s session room)
    fun session hs hc => ?_
  rcases withRoom_cases (s.afterLookup commandId) c commandId r (fun s room => handle s session room) with
    ⟨-, h⟩ | ⟨room, hroom, he⟩
  · exact Or.inl (h.of_quiet (afterLookup_quiet s commandId) rfl)
  · rw [he]
    have hq := afterLookup_quiet s commandId
    exact hhandle _ session room hq rfl hs hroom ((hq.cached commandId).trans hc)

end Server
end TicTacToe
