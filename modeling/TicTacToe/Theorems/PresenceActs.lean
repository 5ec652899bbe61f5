import TicTacToe.Theorems.GameActs

/-! # Presence drives the room machine

Authentication, reconnects, disconnects and the timers. -/

namespace TicTacToe
namespace Server
variable {s t u : Server} {r r' : RoomId} {G : IdSource} {c : ConnectionId} {commandId : CommandId}
  {token : SessionToken} {p : PlayerId}

/-! ### Authentication -/

/-- An association with a room in which the player has no slot is cleared. -/
theorem existingRoom_acts {session stored : PlayerSession} (r : RoomId)
    (hstored : s.sessions.sessions.get token = some stored) (hp : stored.playerId = session.playerId)
    (htoken : stored.sessionToken = session.sessionToken) (hhas : s.HasSession session.playerId session.roomId) :
    Acts G s (s.existingRoom session).1 r .idle := by
  unfold existingRoom
  cases hr : session.roomId with
  | none => exact (Still.refl s).acts r
  | some r' =>
    dsimp only
    split
    · exact (afterGetRoom_quiet s r').still.acts r
    · rename_i hnone
      have hq := afterGetRoom_quiet s r'
      refine hq.still.trans_acts ⟨.of_setRoom rfl (Nat.le_refl _) rfl, fun _ _ => rfl, ?_, fun _ => Or.inr rfl,
        by simp [RoomAction.onLive], fun hn hi => ?_⟩
      · exact ⟨[], .idle, by simp [setSessionRoom]⟩
      · refine Or.inr (Or.inl ⟨session.playerId, r', hr ▸ hhas, fun room hroom => ?_, ?_⟩)
        · rw [hq.getRoom] at hroom
          simpa [hroom] using hnone
        · rw [← hp]
          exact .of_setRoom hn hi hstored rfl (by rw [← htoken, (hi.session token stored hstored).1]; rfl)

theorem acknowledgeAuth_acts {session : PlayerSession} (r : RoomId) (hc : s.cached commandId = none)
    (hsession : s.getSession token = some session) :
    Acts G s (s.acknowledgeAuth c commandId session).server r .idle := by
  have hq := touchSession_quiet s session.sessionToken
  have hstored : ∃ stored, (s.touchSession session.sessionToken).sessions.sessions.get token = some stored ∧
      stored.playerId = session.playerId ∧ stored.sessionToken = session.sessionToken := by
    simp only [touchSession, SessionStore.touch, JsMap.get_modify, stored_of_getSession hsession]
    split
    · exact ⟨_, rfl, rfl, rfl⟩
    · exact ⟨_, rfl, rfl, rfl⟩
  obtain ⟨stored, hget, hp, htoken⟩ := hstored
  have hhas : (s.touchSession session.sessionToken).HasSession session.playerId session.roomId := by
    obtain ⟨token', session', hs, hx⟩ := HasSession.of_getSession hsession
    exact ⟨token', session', (hq.session token').trans hs, hx⟩
  have hroom : Acts G s ((s.touchSession session.sessionToken).existingRoom session).1 r .idle :=
    hq.still.trans_acts (existingRoom_acts r hget hp htoken hhas)
  refine hroom.record hc fun token' p hack hi => ?_
  obtain ⟨rfl, rfl⟩ := Prod.mk.inj (Option.some.inj hack)
  obtain ⟨he, hissued⟩ := hi.session token session (stored_of_getSession hsession)
  obtain ⟨k, hk, ht, hp⟩ := hissued.mono hroom.nextId
  exact ⟨k, hk, he.trans ht, hp⟩

/-- The session that an `AUTH` without a guest token creates. -/
theorem createSession_acts (s : Server) (r : RoomId) :
    Acts G s { s with
      sessions := s.sessions.createSession s.now (G.sessionToken s.nextId) (G.playerId s.nextId)
      nextId := s.nextId + 1 } r .idle := by
  refine ⟨⟨rfl, Nat.le_succ _, fun _ _ => id, fun hi => ⟨fun token session hs => ?_, fun id entry token p he hack => ?_⟩⟩,
    fun _ _ => rfl, ⟨[], .idle, by simp⟩, fun _ => Or.inr rfl, by simp [RoomAction.onLive], fun _ _ =>
      Or.inr (Or.inr ⟨s.nextId, Nat.le_refl _, Nat.lt_succ_self _, fun token => ?_⟩)⟩
  · simp only [SessionStore.createSession, JsMap.get_set] at hs
    split at hs
    · rename_i ht
      subst ht
      obtain rfl := Option.some.inj hs
      exact ⟨rfl, s.nextId, Nat.lt_succ_self _, rfl, rfl⟩
    · obtain ⟨ht, hissued⟩ := hi.session token session hs
      exact ⟨ht, hissued.mono (Nat.le_succ _)⟩
  · exact (hi.ack id entry token p he hack).mono (Nat.le_succ _)
  · simp only [Server.session, getSession, SessionStore.getSession, SessionStore.createSession, JsMap.lookup,
      JsMap.get_set]
    split
    · rename_i ht
      subst ht
      simp [Option.filter, PlayerSession.isExpired, SessionStore.newSession, SESSION_TTL_MS]
    · rfl

theorem acknowledgeAuth_records {session : PlayerSession} (hnow : t.now = s.now) :
    Records s commandId (t.acknowledgeAuth c commandId session) := by
  have hsame : ((t.touchSession session.sessionToken).existingRoom session).1.now = s.now := by
    unfold existingRoom
    cases session.roomId with
    | none => exact hnow
    | some r =>
      dsimp only
      split
      · exact hnow
      · exact hnow
  exact .respond hsame fun _ event _ he => by cases he

/-- An `AUTH` is answered from the cache, refused, or acknowledged. -/
theorem handleAuth_cases (s : Server) (c : ConnectionId) (commandId : CommandId) (guestToken : Option SessionToken) :
    (∃ entry, s.cached commandId = some entry ∧
      s.handleAuth G c commandId guestToken = s.ok (resend c (s.reread entry.result))) ∨
    s.cached commandId = none ∧
      (Refuses s c commandId (s.handleAuth G c commandId guestToken) ∨
        (∀ r, Acts G s (s.handleAuth G c commandId guestToken).server r .idle) ∧
          Records s commandId (s.handleAuth G c commandId guestToken)) := by
  unfold handleAuth
  rcases unlessCached_cases s commandId (resend c) _ with ⟨entry, hc, he⟩ | ⟨hc, he⟩
  · exact Or.inl ⟨entry, hc, he⟩
  right
  refine ⟨hc, ?_⟩
  rw [he]
  have hq := afterLookup_quiet s commandId
  have hw : (s.afterLookup commandId).wire = s.wire := rfl
  generalize s.afterLookup commandId = t at hq hw
  have hct : t.cached commandId = none := (hq.cached commandId).trans hc
  cases guestToken.filter (· ≠ "") with
  | some token =>
    have hq₂ := afterGetSession_quiet t token
    dsimp only
    cases hs : t.getSession token with
    | none => exact Or.inl (.refuse (hq.trans hq₂) hw _)
    | some session =>
      right
      refine ⟨fun r => (hq.trans hq₂).still.trans_acts ?_, acknowledgeAuth_records (hq₂.now.trans hq.now)⟩
      have hst : (t.afterGetSession token).getSession token = some session :=
        (getSession_afterGetSession t token token).trans hs
      exact acknowledgeAuth_acts r ((hq₂.cached commandId).trans hct) hst
  | none =>
    right
    refine ⟨fun r => hq.still.trans_acts ?_, acknowledgeAuth_records hq.now⟩
    -- The new session has no room, so it is only touched and acknowledged.
    have hcreated := createSession_acts (G := G) t r
    refine Acts.record (hcreated.trans_still (touchSession_quiet _ _).still) hct fun token p hack hi => ?_
    obtain ⟨rfl, rfl⟩ := Prod.mk.inj (Option.some.inj hack)
    exact ⟨t.nextId, Nat.lt_succ_self _, rfl, rfl⟩

theorem handleAuth_acts (s : Server) (c : ConnectionId) (commandId : CommandId) (guestToken : Option SessionToken)
    (r : RoomId) : Acts G s (s.handleAuth G c commandId guestToken).server r .idle := by
  rcases handleAuth_cases (G := G) s c commandId guestToken with ⟨entry, -, he⟩ | ⟨-, hrefused | ⟨hacts, -⟩⟩
  · rw [he]
    exact (Still.refl s).acts r
  · exact hrefused.still.acts r
  · exact hacts r

/-! ### Reconnecting and syncing -/

theorem restorePresence_acts {room : RoomRecord} {session : PlayerSession} (hsession : s.getSession token = some session)
    (hlive : s.getRoom r = some room) (hslot : getSlotByPlayerId room session.playerId ≠ none) :
    Acts G s ((s.restorePresence r token session.playerId room).allocateSequence r) r
      (.reconnected session.playerId) := by
  have hroom : (s.view r).room = some room := view_room_of_getRoom hlive
  have hput : SameLive s (s.putRoom r (room.setConnected s.now session.playerId true)) :=
    putRoom_live hlive (RoomRecord.setConnected_live (RoomStore.getRoom_eq_some.mp hlive).2 _ _)
  unfold restorePresence
  cases hg : s.gameSessions.get r with
  | none =>
    have hgame : (s.view r).game = none := hg
    have hg' : ((s.putRoom r (room.setConnected s.now session.playerId true)).setSessionRoom token
        (some r)).gameSessions.get r = none := hg
    simp only [hg']
    refine .of_setRoom rfl (Nat.le_refl _) (stored_of_getSession hsession) rfl (.reconnectedIdle hroom hslot hgame)
      (fun r' => ?_) (by simp [allocateSequence, setSessionRoom, putRoom]) hput id
      (fun _ => Option.isSome_of_eq_some hlive)
    have hs : ∀ u : Server, (u.setSessionRoom token (some r)).view r' = u.view r' := fun _ => rfl
    rw [view_allocateSequence, hs, view_putRoom]
    split
    · rename_i hr
      subst hr
      rw [hgame]
      simp
    · rfl
  | some gs =>
    have hgame : (s.view r).game = some gs := hg
    have hg' : ((s.putRoom r (room.setConnected s.now session.playerId true)).setSessionRoom token
        (some r)).gameSessions.get r = some gs := hg
    simp only [hg']
    refine .of_setRoom ?_ ?_ (stored_of_getSession hsession) ?_ (.reconnected hroom hslot hgame) (fun r' => ?_) ?_ ?_ id
      (fun _ => Option.isSome_of_eq_some hlive)
    · simp [allocateSequence, applyEmitted, putGame, setSessionRoom, putRoom]
    · simp [allocateSequence, applyEmitted, putGame, setSessionRoom, putRoom]
    · simp [allocateSequence, applyEmitted, putGame, setSessionRoom, putRoom]
    · have hs : ∀ u : Server, (u.setSessionRoom token (some r)).view r' = u.view r' := fun _ => rfl
      rw [view_allocateSequence, view_applyEmitted, hs, view_putRoom]
      split
      · rename_i hr
        subst hr
        rfl
      · rfl
    · simp [allocateSequence, applyEmitted, putGame, setSessionRoom, putRoom]
    · exact hput.trans (applyEmitted_live _ r _)

theorem restorePresence_now {room : RoomRecord} : (s.restorePresence r token p room).now = s.now := by
  unfold restorePresence
  dsimp only
  split
  · rfl
  · simp [applyEmitted, putGame, setSessionRoom, putRoom]

theorem restorePresence_game {room : RoomRecord} (h : s.gameSessions.get r ≠ none) :
    ((s.restorePresence r token p room).allocateSequence r).gameSessions.get r ≠ none := by
  obtain ⟨gs, hg⟩ := Option.ne_none_iff_exists'.mp h
  have hg' : ((s.putRoom r (room.setConnected s.now p true)).setSessionRoom token (some r)).gameSessions.get r =
    some gs := hg
  unfold restorePresence
  dsimp only
  simp only [hg']
  have hview := congrArg RoomView.game (view_allocateSequence
    (((s.putRoom r (room.setConnected s.now p true)).setSessionRoom token (some r)).applyEmitted r
      ((gs.clearReconnectWindow p).notifyOpponentReconnected (room.setConnected s.now p true) p)) r r)
  rw [if_pos rfl, view_applyEmitted, if_pos rfl] at hview
  exact Option.ne_none_iff_exists'.mpr ⟨_, hview⟩

theorem handleReconnect_handling (s : Server) (c : ConnectionId) (commandId : CommandId) (r : RoomId)
    (lastReceivedSeq : Nat) (token : SessionToken) :
    Handling s c commandId token (resend c) (fun p result =>
      Acts G s result.server r (.reconnected p) ∧ Records s commandId result)
      (s.handleReconnect c commandId r lastReceivedSeq token) := by
  unfold handleReconnect
  refine roomCommand_handling fun t session room hq hw hst hlive hct => ?_
  cases hslot : getSlotByPlayerId room session.playerId with
  | none => exact Or.inl (.refuse hq hw _)
  | some slot =>
    right
    have hnow : ((t.restorePresence r token session.playerId room).allocateSequence r).now = s.now :=
      restorePresence_now.trans hq.now
    have hrestored := restorePresence_acts (G := G) hst hlive (by simp [hslot])
    refine ⟨hq.still.trans_acts (hrestored.respond hct c _ _), .respond hnow fun hs => .of_snapshot rfl ?_⟩
    refine buildRoomSnapshot_history ?_ rfl
    exact restorePresence_game (hs.to_quiet hq r room session.playerId hlive (by simp [hslot]))

theorem handleSyncRequest_handling (s : Server) (c : ConnectionId) (commandId : CommandId) (r : RoomId) (fromSeq : Nat)
    (token : SessionToken) :
    Handling s c commandId token (resend c) (fun _ result => Still G s result.server ∧ Records s commandId result)
      (s.handleSyncRequest c commandId r fromSeq token) := by
  unfold handleSyncRequest
  refine roomCommand_handling fun t session room hq hw _ hlive hct => ?_
  cases hslot : getSlotByPlayerId room session.playerId with
  | none => exact Or.inl (.refuse hq hw _)
  | some slot =>
    refine Or.inr ⟨hq.still.record ((hq.cached commandId).symm.trans hct) rfl, .respond hq.now fun hs => ?_⟩
    cases t.replayFor r fromSeq session.playerId with
    | some replay => exact .of_plain rfl
    | none =>
      have hequipped := hs.to_quiet hq r room session.playerId hlive (by simp [hslot])
      exact .of_snapshot rfl (buildRoomSnapshot_history hequipped rfl)

/-! ### Disconnects and timers -/

/-- A disconnect marks the slot of a player whose session is associated with a live room; with a game running,
it arms a window. -/
theorem handleDisconnect_acts (s : Server) (token : SessionToken) :
    (Still G s (s.handleDisconnect token) ∧ ∀ session r, s.getSession token = some session → session.roomId = some r →
      s.getRoom r = none) ∨
    ∃ session r room, s.getSession token = some session ∧ session.roomId = some r ∧ s.getRoom r = some room ∧
      Acts G s (s.handleDisconnect token) r (.disconnected session.playerId) := by
  unfold handleDisconnect
  have hq := afterGetSession_quiet s token
  cases hs : s.getSession token with
  | none => exact Or.inl ⟨hq.still, by simp⟩
  | some session =>
    cases hr : session.roomId with
    | none =>
      -- Without an association there is nobody to mark.
      simp only [Option.bind_some, hr]
      exact Or.inl ⟨hq.still, fun session' r h hr' => by
        rw [← Option.some.inj h, hr] at hr'
        cases hr'⟩
    | some r =>
      simp only [Option.bind_some, hr]
      have hq₂ := hq.trans (afterGetRoom_quiet _ r)
      have hsame : (s.afterGetSession token).getRoom r = s.getRoom r := rfl
      rw [hsame]
      cases hroom : s.getRoom r with
      | none =>
        refine Or.inl ⟨hq₂.still, fun session' r' h hr' => ?_⟩
        rw [← Option.some.inj h, hr] at hr'
        exact Option.some.inj hr' ▸ hroom
      | some room =>
        refine Or.inr ⟨session, r, room, rfl, hr, hroom, hq₂.still.trans_acts ?_⟩
        -- The action starts in `u`, after the two lookups.
        generalize hu : (s.afterGetSession token).afterGetRoom r = u at hq₂
        have hlive : u.getRoom r = some room := (hq₂.getRoom r).trans hroom
        have hvroom : (u.view r).room = some room := view_room_of_getRoom hlive
        have hhas : u.HasSession session.playerId (some r) := by
          obtain ⟨token', session', h, hx⟩ := HasSession.of_getSession hs
          exact ⟨token', session', (hq₂.session token').trans h, hr ▸ hx⟩
        have hput : SameLive u (u.putRoom r (room.setConnected u.now session.playerId false)) :=
          putRoom_live hlive (RoomRecord.setConnected_live (RoomStore.getRoom_eq_some.mp hlive).2 _ _)
        dsimp only
        cases hg : u.gameSessions.get r with
        | none =>
          have hg' : (u.putRoom r (room.setConnected u.now session.playerId false)).gameSessions.get r = none := hg
          simp only [hg']
          -- No game has been played here: the slot is all that changes.
          refine .of_view rfl (Nat.le_refl _) rfl (.disconnected hvroom fun gs hgs => ?_) (fun r' => ?_)
            (by simp [putRoom]) hput (fun h => ⟨hhas, h⟩) (fun _ => Option.isSome_of_eq_some hlive)
          · have hgs : u.gameSessions.get r = some gs := hgs
            simp [hg] at hgs
          · rw [view_putRoom]
            split
            · rename_i hr
              subst hr
              rfl
            · rfl
        | some gs =>
          have hg' : (u.putRoom r (room.setConnected u.now session.playerId false)).gameSessions.get r = some gs := hg
          simp only [hg']
          split
          · -- The game runs: the opponent is told, which adds to the log of the session.
            rename_i hactive
            refine .of_view ?_ ?_ ?_ (.windowArmed hvroom hg hactive) (fun r' => ?_) ?_
              (hput.trans (applyEmitted_live _ _ _)) (fun h => ⟨hhas, h⟩) (fun _ => Option.isSome_of_eq_some hlive)
            · simp [applyEmitted, putGame, putRoom]
            · simp [applyEmitted, putGame, putRoom]
            · simp [applyEmitted, putGame, putRoom]
            · rw [view_applyEmitted, view_putRoom]
              split
              · rename_i hr
                subst hr
                rfl
              · rfl
            · simp [applyEmitted, putGame, putRoom]
          · -- It does not, and there is no window.
            rename_i hactive
            refine .of_view rfl (Nat.le_refl _) rfl (.disconnected hvroom fun gs' hgs => ?_) (fun r' => ?_)
              (by simp [putRoom]) hput (fun h => ⟨hhas, h⟩) (fun _ => Option.isSome_of_eq_some hlive)
            · obtain rfl := Option.some.inj (hg.symm.trans hgs)
              simpa using hactive
            · rw [view_putRoom]
              split
              · rename_i hr
                subst hr
                rfl
              · rfl

end Server
end TicTacToe
