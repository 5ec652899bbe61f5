import TicTacToe.Theorems.Routing

/-! # Steps of the server

Every step of the server but the passing of time is a step of the room machine for one room, with a cause
among the inputs. -/

namespace TicTacToe

/-- Whether saving to disk fails during the step. -/
def Input.diskFails : Input → Bool
  | .frame _ _ diskFails => diskFails
  | .reconnectWindow _ _ diskFails => diskFails
  | _ => false

namespace Server
variable {s t u : Server} {r r' : RoomId} {G : IdSource} {c : ConnectionId} {commandId : CommandId}
  {token : SessionToken} {p : PlayerId} {i : Input}

/-! ### Timers and maintenance -/

/-- First the slot is freed, if the room is live; then the player's session is cleared, if there is one. -/
theorem onPlayerLeft_cases (s : Server) (r : RoomId) (p : PlayerId) : ∃ freed,
    (s.getRoom r = none ∧ freed = s.afterGetRoom r ∨
      ∃ room, s.getRoom r = some room ∧ freed = (s.afterGetRoom r).putRoom r (room.removePlayer s.now p)) ∧
    (s.sessions.getTokenByPlayerId p = none ∧ s.onPlayerLeft r p = freed ∨
      ∃ token, s.sessions.getTokenByPlayerId p = some token ∧ s.onPlayerLeft r p = freed.setSessionRoom token none) := by
  unfold onPlayerLeft
  cases hroom : s.getRoom r with
  | none =>
    refine ⟨_, Or.inl ⟨rfl, rfl⟩, ?_⟩
    cases htoken : s.sessions.getTokenByPlayerId p with
    | none => exact Or.inl ⟨rfl, by simp only [afterGetRoom, htoken]⟩
    | some token => exact Or.inr ⟨token, rfl, by simp only [afterGetRoom, htoken]⟩
  | some room =>
    refine ⟨_, Or.inr ⟨room, rfl, rfl⟩, ?_⟩
    cases htoken : s.sessions.getTokenByPlayerId p with
    | none => exact Or.inl ⟨rfl, by simp only [afterGetRoom, putRoom, htoken]⟩
    | some token => exact Or.inr ⟨token, rfl, by simp only [afterGetRoom, putRoom, htoken]⟩

theorem onPlayerLeft_view (s : Server) (r r' : RoomId) (p : PlayerId) :
    (s.onPlayerLeft r p).view r' = if r = r' then
      ⟨((s.getRoom r).map fun room => room.removePlayer s.now p).or (s.view r).room, (s.view r).game, (s.view r).records⟩
      else s.view r' := by
  obtain ⟨freed, hfreed, hleft⟩ := onPlayerLeft_cases s r p
  have hview : (s.onPlayerLeft r p).view r' = freed.view r' := by
    rcases hleft with ⟨-, h⟩ | ⟨token, -, h⟩
    · rw [h]
    · rw [h]
      rfl
  rw [hview]
  rcases hfreed with ⟨hroom, rfl⟩ | ⟨room, hroom, rfl⟩
  · rw [(afterGetRoom_quiet s r).view, hroom]
    split
    · rename_i hr
      rw [hr]
      rfl
    · rfl
  · rw [view_putRoom, (afterGetRoom_quiet s r).view, hroom]
    split
    · rename_i hr
      rw [hr]
      rfl
    · rfl

theorem onPlayerLeft_getRoom (s : Server) (r r' : RoomId) (p : PlayerId) :
    (s.onPlayerLeft r p).getRoom r' =
      if r = r' then (s.getRoom r).map fun room => room.removePlayer s.now p else s.getRoom r' := by
  obtain ⟨freed, hfreed, hleft⟩ := onPlayerLeft_cases s r p
  have hroom' : (s.onPlayerLeft r p).getRoom r' = freed.getRoom r' := by
    rcases hleft with ⟨-, h⟩ | ⟨token, -, h⟩
    · rw [h]
    · rw [h]
      rfl
  rw [hroom']
  rcases hfreed with ⟨hroom, rfl⟩ | ⟨room, hroom, rfl⟩
  · rw [(afterGetRoom_quiet s r).getRoom]
    split
    · rename_i hr
      rw [← hr, hroom]
      rfl
    · rfl
  · have hx : (room.removePlayer s.now p).isExpired (s.afterGetRoom r).now = false :=
      RoomRecord.removePlayer_live _ _ _
    rw [getRoom_putRoom, hx, (afterGetRoom_quiet s r).getRoom, hroom]
    rfl

/-- The session of the player that a window has removed is associated with no room. -/
theorem onPlayerLeft_sessions (s : Server) (r : RoomId) (p : PlayerId) :
    (∀ token session, s.sessions.sessions.get token = some session → session.playerId ≠ p) ∧
        (s.onPlayerLeft r p).sessions = s.sessions ∨
      ∃ token session, s.sessions.sessions.get token = some session ∧ session.playerId = p ∧
        (s.onPlayerLeft r p).sessions = s.sessions.setRoom token none := by
  obtain ⟨freed, hfreed, hleft⟩ := onPlayerLeft_cases s r p
  have hsame : freed.sessions = s.sessions := by
    rcases hfreed with ⟨-, rfl⟩ | ⟨room, -, rfl⟩ <;> rfl
  rcases hleft with ⟨htoken, h⟩ | ⟨token, htoken, h⟩
  · exact Or.inl ⟨fun token session hs => SessionStore.getTokenByPlayerId_none htoken hs, h ▸ hsame⟩
  · obtain ⟨session, hs, hp⟩ := SessionStore.getTokenByPlayerId_some htoken
    exact Or.inr ⟨token, session, hs, hp, by rw [h, ← hsame]; rfl⟩

/-- The rest of the server is as before. -/
theorem onPlayerLeft_rest (s : Server) (r : RoomId) (p : PlayerId) :
    (s.onPlayerLeft r p).now = s.now ∧ (s.onPlayerLeft r p).nextId = s.nextId ∧
      (s.onPlayerLeft r p).sendLog = s.sendLog ∧ (s.onPlayerLeft r p).connections = s.connections ∧
      (s.onPlayerLeft r p).playerConnectionRegistry = s.playerConnectionRegistry := by
  obtain ⟨freed, hfreed, hleft⟩ := onPlayerLeft_cases s r p
  rcases hfreed with ⟨-, rfl⟩ | ⟨room, -, rfl⟩ <;> rcases hleft with ⟨-, h⟩ | ⟨token, -, h⟩ <;> rw [h] <;>
    exact ⟨rfl, rfl, rfl, rfl, rfl⟩

theorem fireReconnectWindow_acts {gs : GameSession} {timer : ReconnectTimer} {diskFails : Bool} (hk : s.Keyed)
    (hg : s.gameSessions.get r = some gs) (htimer : gs.reconnectTimers.get p = some timer)
    (hdue : timer.deadline ≤ s.now) (hthrew : (s.fireReconnectWindow r gs p timer diskFails).2 = false) :
    Acts G s (s.fireReconnectWindow r gs p timer diskFails).1 r (.windowFired p) := by
  unfold fireReconnectWindow at hthrew ⊢
  generalize he : gs.expireReconnectWindow s.now s.historyRepository diskFails p timer.symbol = expired at hthrew ⊢
  dsimp only at hthrew ⊢
  split at hthrew
  · cases hthrew
  rename_i hfine
  simp only [hfine, Bool.false_eq_true, ↓reduceIte]
  have hid : gs.roomId = r := hk r gs hg
  have hview := view_applyEffect_self (r := r) s (e := expired) fun r' hr =>
    he ▸ GameSession.expireReconnectWindow_load_other (hid ▸ Ne.symm hr)
  have hlive : ∀ r', (s.applyEffect r expired).getRoom r' = s.getRoom r' := fun r' => getRoom_applyEffect s r r' expired
  have hnow : (s.applyEffect r expired).now = s.now := by simp [applyEffect, applyEmitted, putGame]
  have hsessions : (s.applyEffect r expired).sessions = s.sessions := by simp [applyEffect, applyEmitted, putGame]
  have hnext : (s.applyEffect r expired).nextId = s.nextId := by simp [applyEffect, applyEmitted, putGame]
  have hfinal : ∀ r', ((s.applyEffect r expired).onPlayerLeft r p).view r' = if r = r' then
      ⟨((s.getRoom r).map fun room => room.removePlayer s.now p).or (s.view r).room, some expired.session,
        expired.historyRepository.loadCompletedGames r⟩ else s.view r' := by
    intro r'
    rw [onPlayerLeft_view, hview r, if_pos rfl, hlive, hnow, hview r']
    split <;> rfl
  have hleft : ∀ room', ((s.applyEffect r expired).onPlayerLeft r p).getRoom r = some room' →
      ∃ room, s.getRoom r = some room ∧ room' = room.removePlayer s.now p := by
    intro room' hroom'
    rw [onPlayerLeft_getRoom, if_pos rfl, hlive, hnow] at hroom'
    obtain ⟨room, hroom, rfl⟩ := Option.map_eq_some_iff.mp hroom'
    exact ⟨room, hroom, rfl⟩
  obtain ⟨hnow₁, hnext₁, hlog₁, -, -⟩ := onPlayerLeft_rest (s.applyEffect r expired) r p
  have hnow' : ((s.applyEffect r expired).onPlayerLeft r p).now = s.now := hnow₁.trans hnow
  have hframe : Frame G s ((s.applyEffect r expired).onPlayerLeft r p) := by
    have hnext' : s.nextId ≤ ((s.applyEffect r expired).onPlayerLeft r p).nextId := by omega
    rcases onPlayerLeft_sessions (s.applyEffect r expired) r p with ⟨-, h⟩ | ⟨token, session, -, -, h⟩
    · exact .of_sessions hnow' hnext' (h.trans hsessions)
    · exact .of_setRoom hnow' hnext' (hsessions ▸ h)
  refine ⟨hframe, fun r' hr => (hfinal r').trans (if_neg (Ne.symm hr)), ⟨expired.sends, ?_, ?_⟩, fun r' => Or.inr ?_,
    by simp [RoomAction.onLive], fun hn hi => ⟨?_, hleft⟩⟩
  · rw [hfinal r, if_pos rfl, ← he]
    refine .windowFired hg htimer hdue rfl ?_ (he ▸ Bool.eq_false_iff.mpr hfine)
    cases hroom : s.getRoom r with
    | none => exact Or.inl rfl
    | some room => exact Or.inr ⟨room, view_room_of_getRoom hroom, rfl⟩
  · rw [hlog₁]
    simp [applyEffect, applyEmitted, putGame]
  · rw [onPlayerLeft_getRoom, hlive, hlive]
    split
    · rename_i hr
      subst hr
      simp
    · rfl
  · rcases onPlayerLeft_sessions (s.applyEffect r expired) r p with ⟨hnone, h⟩ | ⟨token, session, hs, rfl, h⟩
    · intro token
      have hsame : ((s.applyEffect r expired).onPlayerLeft r p).session token = s.session token :=
        session_of_sessions hnow' (h.trans hsessions) token
      rw [hsame]
      cases hs : s.getSession token with
      | none => simp [Server.session, hs]
      | some session =>
        have hne : session.playerId ≠ p := hnone token session (hsessions ▸ stored_of_getSession hs)
        simp [Server.session, hs, PlayerSession.forgetSeen, hne]
    · exact .of_setRoom hn hi (hsessions ▸ hs) hnow' (hsessions ▸ h)

theorem rematchTimer_acts {gs : GameSession} {room : RoomRecord} {proposal : RematchProposal}
    (hg : s.gameSessions.get r = some gs) (hroom : s.rooms.object r = some room) (hp : gs.rematch = some proposal)
    (hdue : proposal.expiresAt ≤ s.now) :
    Acts G s (s.applyEmitted r (gs.expireRematch room proposal.gameId)) r .rematchFired := by
  refine .of_view ?_ ?_ ?_ (.rematchFired hroom hg hp hdue) (fun r' => ?_) ?_ (applyEmitted_live _ _ _) id
    (by simp [RoomAction.onLive])
  · simp [applyEmitted, putGame]
  · simp [applyEmitted, putGame]
  · simp [applyEmitted, putGame]
  · rw [view_applyEmitted]
    split
    · rename_i hr
      subst hr
      rfl
    · rfl
  · simp [applyEmitted, putGame]

theorem createRoom_acts (s : Server) :
    Acts G s { s with rooms := s.rooms.createRoom s.now (G.roomId s.nextId), nextId := s.nextId + 1 }
      (G.roomId s.nextId) .created := by
  have hview : ∀ r', ({ s with
      rooms := s.rooms.createRoom s.now (G.roomId s.nextId), nextId := s.nextId + 1 } : Server).view r' =
      if G.roomId s.nextId = r' then { s.view r' with room := some (.fresh r' s.now) } else s.view r' := by
    intro r'
    simp only [view, RoomStore.object_createRoom]
    split
    · rename_i hr
      rw [hr]
    · rfl
  refine ⟨.of_sessions rfl (Nat.le_succ _) rfl, fun r' hr => (hview r').trans (if_neg (Ne.symm hr)), ⟨[], ?_, by simp⟩,
    fun r' => ?_, by simp [RoomAction.onLive], fun _ _ => fun _ => rfl⟩
  · rw [hview, if_pos rfl]
    exact .created rfl (Nat.le_refl _) (Nat.lt_succ_self _)
  · by_cases hr : r' = G.roomId s.nextId
    · exact Or.inl ⟨hr, rfl⟩
    · refine Or.inr ?_
      simp only [getRoom, RoomStore.getRoom, RoomStore.createRoom, JsMap.lookup, JsMap.get_set, Ne.symm hr, ↓reduceIte]

theorem maintenance_still (s : Server) :
    Still G s { s with sessions := s.sessions.purgeExpired s.now, rooms := s.rooms.purgeExpired s.now } where
  now := rfl
  nextId := Nat.le_refl _
  cached _ _ he := (JsMap.lookup_purge _ _).trans he
  issued hi := hi.of_sub (Nat.le_refl _) (fun _ session hs => ⟨session, JsMap.get_of_get_purge hs, rfl, rfl⟩)
    fun _ _ he => JsMap.get_of_get_purge he
  view r := by simp only [view, RoomStore.object_purgeExpired]
  getRoom _ := RoomStore.getRoom_purgeExpired
  sendLog := rfl
  session token := congrArg (Option.map PlayerSession.forgetSeen) (JsMap.lookup_purge _ _)

/-! ### Causes -/

/-- Input `i` brings `command` to its handler, with a session of `p` and without an earlier answer to it. -/
def Handles (s : Server) (i : Input) (command : Command) (p : PlayerId) : Prop :=
  ∃ c rec token, s.Routed i c rec command ∧ rec.sessionToken = some token ∧ s.Processed token command.commandId p

/-- Input `i` is the cause of an action in room `r`. -/
def Cause (s : Server) (i : Input) (r : RoomId) : RoomAction → Prop
  | .created => i = .createRoom
  | .disconnected _ => ∃ c, i = .socketClosed c
  | .windowFired p => ∃ diskFails, i = .reconnectWindow r p diskFails
  | .rematchFired => i = .rematchTimer r
  | a => a.Commanded (s.Handles i) i.diskFails r

theorem Cause.of_commanded {a : RoomAction} (h : a.Commanded (s.Handles i) i.diskFails r) : s.Cause i r a := by
  cases a with
  | created | disconnected | windowFired | rematchFired => exact h.elim
  | _ => exact h

theorem dispatch_acts (hk : s.Keyed) (c : ConnectionId) (rec : ConnectionRecord) (command : Command) (diskFails : Bool) :
    ∃ r a, Acts G s (s.dispatch G c rec command diskFails).server r a ∧ a.Commanded
      (fun cmd p => cmd = command ∧ ∃ token, rec.sessionToken = some token ∧ s.Processed token command.commandId p)
      diskFails r := by
  cases hbody : isAuthExempt command.body with
  | true =>
    obtain ⟨id, body⟩ := command
    cases body with
    | auth guestToken =>
      exact ⟨"", .idle, (handleAuth_acts s c id guestToken "").trans_still (bindConnection_still _ _), trivial⟩
    | ping clientTime => exact ⟨"", .idle, (Still.refl s).acts "", trivial⟩
    | _ => cases hbody
  | false =>
    cases htoken : rec.sessionToken with
    | none =>
      have hnone : s.dispatch G c rec command diskFails = s.ok [] := dispatch_unbound htoken hbody diskFails
      exact ⟨"", .idle, hnone ▸ (Still.refl s).acts "", trivial⟩
    | some token =>
      obtain ⟨result, hhandling, he⟩ := dispatch_handling (G := G) hk htoken c command diskFails hbody
      have hlinked := linked_still (G := G) c rec command.body result
      rw [he]
      cases hhandling with
      | refused h => exact ⟨"", .idle, (h.still.trans hlinked).acts "", trivial⟩
      | recalled hs hc h =>
        subst h
        exact ⟨"", .idle, hlinked.acts "", trivial⟩
      | processed hp h =>
        rcases h.acts with h | ⟨r, a, -, hacts, hcommanded⟩
        · exact ⟨"", .idle, (h.trans hlinked).acts "", trivial⟩
        refine ⟨r, a, hacts.trans_still hlinked, hcommanded.mono ?_⟩
        rintro cmd q ⟨rfl, rfl⟩
        exact ⟨rfl, token, rfl, hp⟩

theorem handleFrame_acts (hk : s.Keyed) (c : ConnectionId) (frame : RawFrame) (diskFails : Bool) :
    ∃ r a, Acts G s (s.handleFrame G c frame diskFails) r a ∧ s.Cause (.frame c frame diskFails) r a := by
  rcases handleFrame_cases (G := G) s c frame diskFails with
    ⟨u, code, id, -, hq, -, he⟩ | ⟨hq, -⟩ | ⟨rec, command, hrouted⟩
  · exact ⟨"", .idle, he ▸ (hq.still.trans (sendError_still u c code id)).acts "", trivial⟩
  · exact ⟨"", .idle, hq.still.acts "", trivial⟩
  · have hq := arrived_quiet s c rec
    have hku : (s.arrived c rec).Keyed := fun r gs hg => hk r gs (hq.gameSessions ▸ hg)
    obtain ⟨r, a, hacts, hcommanded⟩ := dispatch_acts (G := G) hku c rec command diskFails
    refine ⟨r, a, ?_, .of_commanded (hcommanded.mono ?_)⟩
    · rw [handleFrame_routed hrouted]
      exact (hq.still.trans_acts hacts).trans_still (conclude_quiet G c command.commandId _).still
    · rintro _ p ⟨rfl, token, htoken, hp⟩
      exact ⟨c, rec, token, hrouted, htoken, hp.of_quiet hq⟩

/-- Whom a close disconnects: nobody, or the session of the connection. -/
theorem handleClose_cases (s : Server) (c : ConnectionId) :
    (∃ u, Still G s u ∧ s.handleClose c = u.unregister c) ∨
    ∃ u rec token, Still G s u ∧ s.connections.get c = some rec ∧ rec.sessionToken = some token ∧
      s.handleClose c = (u.handleDisconnect token).unregister c := by
  unfold handleClose
  cases hrec : s.connections.get c with
  | none => exact Or.inl ⟨s, .refl s, rfl⟩
  | some rec =>
    dsimp only
    cases htoken : rec.sessionToken with
    | none => exact Or.inl ⟨s, .refl s, rfl⟩
    | some token =>
      cases hp : rec.playerId with
      | none => exact Or.inr ⟨s, rec, token, .refl s, rfl, htoken, rfl⟩
      | some p =>
        have hu := unregisterPlayerConnection_still (G := G) s p c
        dsimp only
        split
        · exact Or.inl ⟨_, hu, rfl⟩
        · exact Or.inr ⟨_, rec, token, hu, rfl, htoken, rfl⟩

theorem handleClose_acts (s : Server) (c : ConnectionId) :
    ∃ r a, Acts G s (s.handleClose c) r a ∧ s.Cause (.socketClosed c) r a := by
  rcases handleClose_cases (G := G) s c with ⟨u, hu, he⟩ | ⟨u, rec, token, hu, -, -, he⟩
  · exact ⟨"", .idle, he ▸ (hu.trans (unregister_still u c)).acts "", trivial⟩
  · have hx := unregister_still (G := G) (u.handleDisconnect token) c
    rcases handleDisconnect_acts (G := G) u token with ⟨h, -⟩ | ⟨session, r, room, -, -, -, h⟩
    · exact ⟨"", .idle, he ▸ ((hu.trans h).trans hx).acts "", trivial⟩
    · exact ⟨r, .disconnected session.playerId, he ▸ (hu.trans_acts h).trans_still hx, c, rfl⟩

/-- A window that fires is a step of its room. -/
theorem reconnectWindow_acts {diskFails : Bool} (hk : s.Keyed)
    (h : s.step G (.reconnectWindow r p diskFails) = some t) : Acts G s t r (.windowFired p) := by
  simp only [step] at h
  cases hg : s.gameSessions.get r with
  | none => simp [hg] at h
  | some gs =>
    cases htimer : gs.reconnectTimers.get p with
    | none => simp [hg, htimer] at h
    | some timer =>
      simp only [hg, htimer] at h
      split at h
      · rename_i hdue
        split at h
        · cases h
        · rename_i hthrew
          have hacts := fireReconnectWindow_acts (G := G) hk hg htimer hdue (Bool.eq_false_iff.mpr hthrew)
          exact Option.some.inj h ▸ hacts
      · cases h

/-- Time passes, or one room takes a step for a reason. -/
theorem step_acts (hk : s.Keyed) (h : s.step G i = some t) :
    (∃ elapsed, i = .tick elapsed ∧ t = { s with now := s.now + elapsed }) ∨
    ∃ r a, Acts G s t r a ∧ s.Cause i r a := by
  unfold step at h
  cases i with
  | tick elapsed => exact Or.inl ⟨elapsed, rfl, (Option.some.inj h).symm⟩
  | connect =>
    refine Or.inr ⟨"", .idle, Still.acts (Option.some.inj h ▸ ?_) "", trivial⟩
    exact ⟨.of_sessions rfl (Nat.le_succ _) rfl, fun _ => rfl, fun _ => rfl, rfl, fun _ => rfl⟩
  | frame c frame diskFails => exact Or.inr (Option.some.inj h ▸ handleFrame_acts hk c frame diskFails)
  | socketClosed c => exact Or.inr (Option.some.inj h ▸ handleClose_acts s c)
  | authTimeout c =>
    dsimp only at h
    split at h
    · exact Or.inr ⟨"", .idle, Still.acts (Option.some.inj h ▸ close_still s c _) "", trivial⟩
    · cases h
  | idleTimeout c =>
    dsimp only at h
    split at h
    · exact Or.inr ⟨"", .idle, Still.acts (Option.some.inj h ▸ close_still s c _) "", trivial⟩
    · cases h
  | wsPong c => exact Or.inr ⟨"", .idle, (Option.some.inj h ▸ touchConnection_quiet s c).still.acts "", trivial⟩
  | reconnectWindow r p diskFails => exact Or.inr ⟨r, .windowFired p, reconnectWindow_acts hk h, diskFails, rfl⟩
  | rematchTimer r =>
    dsimp only at h
    cases hg : s.gameSessions.get r with
    | none => simp [hg] at h
    | some gs =>
      cases hroom : s.rooms.object r with
      | none => simp [hg, hroom] at h
      | some room =>
        simp only [hg, hroom] at h
        cases hp : gs.rematch with
        | none => simp [hp] at h
        | some proposal =>
          simp only [hp] at h
          split at h
          · rename_i hdue
            exact Or.inr ⟨r, .rematchFired, Option.some.inj h ▸ rematchTimer_acts hg hroom hp hdue, rfl⟩
          · cases h
  | createRoom => exact Or.inr ⟨_, .created, Option.some.inj h ▸ createRoom_acts s, rfl⟩
  | httpGetRoom r => exact Or.inr ⟨r, .idle, (Option.some.inj h ▸ afterGetRoom_quiet s r).still.acts r, trivial⟩
  | maintenance => exact Or.inr ⟨"", .idle, Still.acts (Option.some.inj h ▸ maintenance_still s) "", trivial⟩

end Server
end TicTacToe
