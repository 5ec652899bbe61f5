import TicTacToe.Theorems.FreshEvents
import TicTacToe.Theorems.RoomAge

/-! # Game sessions and their rooms

A room that is too old is dropped from the store when it is looked up, in a handler, by a timer or over HTTP, and by the
maintenance job. Its game session stays in the map of the sessions, with its timers. -/

namespace TicTacToe

/-- The view gains a session only by an action on a live room. -/
theorem RoomStep.onLive_of_new_game {G : IdSource} {now : Millis} {r : RoomId} {lo hi : Nat} {v v' : RoomView}
    {a : RoomAction} {sends : List SendCall} (h : RoomStep G now r lo hi v a sends v') (hnone : v.game = none)
    (hgame : v'.game ≠ none) : a.onLive = true := by
  cases h with
  | idle | created => exact absurd hnone hgame
  | windowFired hsome | rematchFired _ hsome => cases hnone.symm.trans hsome
  | _ => rfl

namespace Server
variable {s t : Server} {r : RoomId} {G : IdSource} {c : ConnectionId} {i : Input} {token : SessionToken}

/-! ### What a step looks up -/

/-- The room that the close of connection `c` looks up, when it is the last connection of its player. -/
def closedRoom (s : Server) (c : ConnectionId) : Option RoomId :=
  (s.connections.get c).bind fun rec =>
    if rec.playerId.any fun p => (s.unregisterPlayerConnection p c).getPlayerConnectionIds p ≠ [] then none
    else (rec.sessionToken.bind s.getSession).bind PlayerSession.roomId

/-- The session that connection `c` acts in is in another room than `r`. -/
def playsElsewhere (s : Server) (c : ConnectionId) (r : RoomId) : Bool :=
  (((s.connections.get c).bind ConnectionRecord.sessionToken).bind s.getSession).any fun session =>
    session.roomId.any (· ≠ r)

/-- The room that a command looks up which the router passes on for connection `c`. -/
def commandRoom (s : Server) (c : ConnectionId) (command : Command) : Option RoomId :=
  if (s.cached command.commandId).isSome then none
  else match command.body with
    | .auth guestToken => ((guestToken.filter (· ≠ "")).bind s.getSession).bind PlayerSession.roomId
    | .joinRoom r _ => if s.playsElsewhere c r then none else some r
    | body => body.concerns

/-- Step `i` looks room `r` up in the store, or purges the store. -/
def looksUp (s : Server) (r : RoomId) : Input → Bool
  | .frame c frame _ => (s.frameError c frame).isNone &&
    match frame.parseResult with
    | .ok command => s.commandRoom c command = some r
    | .error _ => false
  | .socketClosed c => s.closedRoom c = some r
  | .reconnectWindow r' _ _ => r' = r
  | .rematchTimer r' => r' = r && (s.rooms.object r).any fun room => (room.playerX.or room.playerO).isSome
  | .httpGetRoom r' => r' = r
  | .maintenance => true
  | _ => false

/-- The step looks up a room that is too old and has a game session. -/
def dropsPlayedRoom (s : Server) (i : Input) : Bool :=
  s.rooms.rooms.entries.any fun e => e.2.isExpired s.now && s.gameSessions.has e.1 && s.looksUp e.1 i

/-! ### Rooms that are not looked up -/

theorem handleDisconnect_stored (hk : s.Keyed) (hb : s.Backed)
    (hr : (s.getSession token).bind PlayerSession.roomId ≠ some r) :
    (s.handleDisconnect token).rooms.rooms.get r = s.rooms.rooms.get r := by
  cases hsession : s.getSession token with
  | none => simp [handleDisconnect, hsession, afterGetSession]
  | some session =>
    cases hroom : session.roomId with
    | none => simp [handleDisconnect, hsession, hroom, afterGetSession]
    | some r' =>
      obtain ⟨found, calls, hposts, -⟩ := handleDisconnect_posts (P := fun _ => True) hk hb hsession hroom
      refine hposts.stored r fun he => hr ?_
      rw [hsession, Option.bind_some, hroom, he]

theorem handleClose_stored (hk : s.Keyed) (hb : s.Backed) (hr : s.closedRoom c ≠ some r) :
    (s.handleClose c).rooms.rooms.get r = s.rooms.rooms.get r := by
  unfold handleClose
  cases hrec : s.connections.get c with
  | none => rfl
  | some rec =>
    simp only [closedRoom, hrec, Option.bind_some] at hr
    cases htoken : rec.sessionToken with
    | none =>
      simp only [htoken]
      rfl
    | some token =>
      simp only [htoken, Option.bind_some] at hr
      cases hp : rec.playerId with
      | none =>
        simp only [hp, Option.any_none, Bool.false_eq_true, ↓reduceIte] at hr
        simp only [htoken, hp]
        exact handleDisconnect_stored hk hb hr
      | some p =>
        simp only [hp, Option.any_some, decide_eq_true_eq] at hr
        obtain ⟨registry, hu⟩ := unregisterPlayerConnection_frame s p c
        simp only [htoken, hp]
        split
        · rw [hu]
          rfl
        · rename_i hempty
          rw [if_neg hempty] at hr
          have hkx : (s.unregisterPlayerConnection p c).Keyed := hu ▸ hk
          have hbx : (s.unregisterPlayerConnection p c).Backed := hu ▸ hb
          have hsame : (s.unregisterPlayerConnection p c).getSession token = s.getSession token := hu ▸ rfl
          have hrooms : (s.unregisterPlayerConnection p c).rooms = s.rooms := hu ▸ rfl
          exact (handleDisconnect_stored hkx hbx (hsame ▸ hr)).trans (by rw [hrooms])

theorem existingRoom_stored {session : PlayerSession} (hr : session.roomId ≠ some r) :
    (s.existingRoom session).1.rooms.rooms.get r = s.rooms.rooms.get r := by
  unfold existingRoom
  cases hroom : session.roomId with
  | none => rfl
  | some r' =>
    have hget : (s.afterGetRoom r').rooms.rooms.get r = s.rooms.rooms.get r := by
      refine RoomStore.rooms_get_afterGetRoom.trans (if_neg fun he => hr ?_)
      rw [hroom, he]
    dsimp only
    split
    · exact hget
    · exact hget

theorem handleAuth_stored {id : CommandId} {guestToken : Option SessionToken} (hc : s.cached id = none)
    (hr : ((guestToken.filter (· ≠ "")).bind s.getSession).bind PlayerSession.roomId ≠ some r) :
    (s.handleAuth G c id guestToken).server.rooms.rooms.get r = s.rooms.rooms.get r := by
  unfold handleAuth
  rcases unlessCached_cases s id (resend c) _ with ⟨entry, hentry, -⟩ | ⟨-, he⟩
  · cases hc.symm.trans hentry
  rw [he]
  cases hguest : guestToken.filter (· ≠ "") with
  | none => exact existingRoom_stored (by simp [SessionStore.newSession])
  | some token =>
    rw [hguest, Option.bind_some] at hr
    have hsession : (s.afterLookup id).getSession token = s.getSession token := rfl
    cases hs : s.getSession token with
    | none =>
      rw [hs] at hsession
      simp only [hsession]
      rfl
    | some session =>
      rw [hs] at hsession
      rw [hs, Option.bind_some] at hr
      simp only [hsession]
      exact existingRoom_stored hr

/-- A command about another room. -/
theorem dispatch_stored {rec : ConnectionRecord} {command : Command} {r' : RoomId} (hk : s.Keyed) (hb : s.Backed)
    (hc : s.cached command.commandId = none) (htoken : rec.sessionToken = some token)
    (hconcerns : command.body.concerns = some r') (hr : r' ≠ r) (c : ConnectionId) (diskFails : Bool) :
    (s.dispatch G c rec command diskFails).server.rooms.rooms.get r = s.rooms.rooms.get r := by
  obtain ⟨result, hmailing, hdispatch⟩ := dispatch_mailing (G := G) hc hk hb htoken hconcerns c diskFails
  obtain ⟨connections, registry, hserver, -⟩ := (linked_relinked c rec command.body result).server
  rw [hdispatch, hserver]
  cases hmailing with
  | errs h => exact h.stored r hr
  | mails _ h => exact h.posts.stored r hr

/-- Who plays in another room is turned away before the room is looked up. -/
theorem handleJoinRoom_elsewhere {id : CommandId} {name : Option PlayerName} {session : PlayerSession} {r' : RoomId}
    (hc : s.cached id = none) (hs : s.getSession token = some session)
    (hroom : session.roomId.any (· ≠ r') = true) (c : ConnectionId) :
    (s.handleJoinRoom c id r' name token).server.rooms = s.rooms := by
  unfold handleJoinRoom withSession
  rw [afterGetSession_eq_self hs]
  simp only [hs]
  rcases unlessCached_cases s id (resend c) _ with ⟨entry, hentry, -⟩ | ⟨-, he⟩
  · cases hc.symm.trans hentry
  rw [he, if_pos hroom]
  rfl

theorem dispatch_sessionless {rec : ConnectionRecord} {command : Command} (htoken : rec.sessionToken = none)
    (hbody : isAuthExempt command.body = false) (c : ConnectionId) (diskFails : Bool) :
    s.dispatch G c rec command diskFails = s.ok [] := by
  obtain ⟨id, body⟩ := command
  unfold dispatch
  rw [htoken]
  cases body with
  | auth | ping => cases hbody
  | _ => rfl

/-- A command that has been answered before is answered without the store. -/
theorem dispatch_recalled_stored {rec : ConnectionRecord} {command : Command} {entry : DedupEntry} (hk : s.Keyed)
    (hc : s.cached command.commandId = some entry)
    (hsession : isAuthExempt command.body = false → ∀ token, rec.sessionToken = some token →
      ∃ session, s.getSession token = some session) (diskFails : Bool) :
    (s.dispatch G c rec command diskFails).server.rooms = s.rooms := by
  by_cases hping : ∃ clientTime, command.body = .ping clientTime
  · obtain ⟨clientTime, hping⟩ := hping
    simp only [dispatch, hping]
    rfl
  by_cases hnone : isAuthExempt command.body = false ∧ rec.sessionToken = none
  · rw [dispatch_sessionless hnone.2 hnone.1]
    rfl
  have hlink : Relinked (s.ok (replies c command.body (s.reread entry.result))) (s.dispatch G c rec command diskFails) := by
    refine dispatch_recalled hk hc (fun clientTime h => hping ⟨clientTime, h⟩) fun hbody => ?_
    obtain ⟨token, htoken⟩ := Option.ne_none_iff_exists'.mp fun h => hnone ⟨hbody, h⟩
    obtain ⟨session, hs⟩ := hsession hbody token htoken
    exact ⟨token, session, htoken, hs⟩
  obtain ⟨connections, registry, hserver, -⟩ := hlink.server
  rw [hserver]
  rfl

/-- The room of a session, seen from a state that gives the same answers. -/
theorem Quiet.session_room (h : Quiet s t) (token : SessionToken) :
    (t.getSession token).bind PlayerSession.roomId = (s.getSession token).bind PlayerSession.roomId := by
  cases hs : t.getSession token with
  | some session =>
    obtain ⟨session', hs', -, hroom, -⟩ := h.session_of_some hs
    rw [hs', Option.bind_some, Option.bind_some, hroom]
  | none =>
    cases hs' : s.getSession token with
    | none => rfl
    | some session =>
      obtain ⟨session', h', -⟩ := h.session_to_some hs'
      cases hs.symm.trans h'

/-- A routed command leaves a room alone that it does not look up. -/
theorem Routed.stored {rec : ConnectionRecord} {command : Command} (hrouted : s.Routed i c rec command) (hk : s.Keyed)
    (hb : s.Backed) (hr : s.commandRoom c command ≠ some r) (diskFails : Bool) :
    (conclude G c command.commandId ((s.arrived c rec).dispatch G c rec command diskFails)).rooms.rooms.get r =
      s.rooms.rooms.get r := by
  have hq := arrived_quiet s c rec
  obtain ⟨connections, sessions, harrived, -⟩ := arrived_frame s c rec
  have hrooms : (s.arrived c rec).rooms = s.rooms := by rw [harrived]
  have hbound : isAuthExempt command.body = false → ∀ token, rec.sessionToken = some token →
      ∃ session, s.getSession token = some session := fun hbody token htoken =>
    Option.isSome_iff_exists.mp (hrouted.session token (hrouted.permitted.resolve_right (by simp [hbody])) htoken)
  have hvalid : isAuthExempt command.body = false → ∀ token, rec.sessionToken = some token →
      ∃ session, (s.arrived c rec).getSession token = some session := by
    intro hbody token htoken
    obtain ⟨session, hs⟩ := hbound hbody token htoken
    obtain ⟨session', hs', -⟩ := hq.session_to_some hs
    exact ⟨session', hs'⟩
  suffices h : ((s.arrived c rec).dispatch G c rec command diskFails).server.rooms.rooms.get r =
      (s.arrived c rec).rooms.rooms.get r by
    obtain ⟨w, n, hconclude, -⟩ := conclude_frame G c command.commandId
      ((s.arrived c rec).dispatch G c rec command diskFails)
    rw [hconclude, ← hrooms]
    exact h
  unfold commandRoom at hr
  cases hc : s.cached command.commandId with
  | some entry => rw [dispatch_recalled_stored (hk.arrived c rec) ((hq.cached _).trans hc) hvalid]
  | none =>
    have hcu : (s.arrived c rec).cached command.commandId = none := (hq.cached _).trans hc
    rw [hc, if_neg (by simp)] at hr
    have hother : ∀ r', command.body.concerns = some r' → r' ≠ r →
        ((s.arrived c rec).dispatch G c rec command diskFails).server.rooms.rooms.get r =
          (s.arrived c rec).rooms.rooms.get r := by
      intro r' hconcerns hne
      cases htoken : rec.sessionToken with
      | none =>
        rw [dispatch_sessionless htoken (concerns_not_exempt hconcerns)]
        rfl
      | some token => exact dispatch_stored (hk.arrived c rec) (hb.of_quiet hq) hcu htoken hconcerns hne c diskFails
    obtain ⟨id, body⟩ := command
    cases body with
    | ping clientTime => rfl
    | auth guestToken =>
      obtain ⟨connections, registry, hserver, -⟩ :=
        (bindConnection_relinked c ((s.arrived c rec).handleAuth G c id guestToken)).server
      have hauth : ((s.arrived c rec).handleAuth G c id guestToken).server.rooms.rooms.get r =
          (s.arrived c rec).rooms.rooms.get r := by
        refine handleAuth_stored hcu ?_
        cases hguest : guestToken.filter (· ≠ "") with
        | none => simp
        | some token =>
          simp only [hguest, Option.bind_some] at hr ⊢
          rwa [hq.session_room]
      change (bindConnection c ((s.arrived c rec).handleAuth G c id guestToken)).server.rooms.rooms.get r = _
      rw [hserver]
      exact hauth
    | joinRoom r' name =>
      by_cases hne : r' = r
      · subst hne
        -- The room is not looked up, so the session must be in another room.
        cases htoken : rec.sessionToken with
        | none =>
          rw [dispatch_sessionless htoken rfl]
          rfl
        | some token =>
          obtain ⟨session, hs⟩ := hbound rfl token htoken
          obtain ⟨session', hs', -, hroom⟩ := hq.session_to_some hs
          have helsewhere : session.roomId.any (· ≠ r') = true := by
            by_contra h
            refine hr (if_neg ?_)
            simpa [playsElsewhere, hrouted.connection, htoken, hs] using h
          have hjoin : (s.arrived c rec).dispatch G c rec ⟨id, .joinRoom r' name⟩ diskFails =
              (s.arrived c rec).handleJoinRoom c id r' name token := by
            simp only [dispatch, htoken]
          rw [hjoin, handleJoinRoom_elsewhere hcu hs' (hroom ▸ helsewhere)]
      · exact hother r' rfl hne
    | leaveRoom r' | playerReady r' | makeMove r' | requestRematch r' | acceptRematch r' | declineRematch r'
    | reconnect r' | syncRequest r' => exact hother r' rfl fun he => hr (congrArg some he)

/-! ### Every step -/

theorem close_rooms (s : Server) (c : ConnectionId) (e : Option WireEvent) : (s.close c e).rooms = s.rooms := by
  cases e with
  | none => rfl
  | some e =>
    obtain ⟨w, hw⟩ := send_frame s c e
    rw [close, hw]
    rfl

theorem handleFrame_stored {frame : RawFrame} {diskFails : Bool} (hk : s.Keyed) (hb : s.Backed)
    (hr : s.looksUp r (.frame c frame diskFails) = false) :
    (s.handleFrame G c frame diskFails).rooms.rooms.get r = s.rooms.rooms.get r := by
  rcases handleFrame_cases (G := G) s c frame diskFails with
    ⟨u, code, id, -, -, ⟨-, hrooms⟩, he⟩ | ⟨-, -, hrooms⟩ | ⟨rec, command, hrouted⟩
  · obtain ⟨connections, w, hw, -⟩ := sendError_frame u c code id
    rw [he, hw, ← hrooms]
  · rw [hrooms]
  · obtain ⟨hparse, herror⟩ := hrouted.frameError
    rw [handleFrame_routed hrouted]
    refine hrouted.stored hk hb (fun hlooked => ?_) diskFails
    simp [looksUp, hparse, herror, hlooked] at hr

/-- The proposal that expires in a room without players is not announced. -/
theorem expireRematch_sends_none {room : RoomRecord} (hroom : (room.playerX.or room.playerO).isSome = false)
    (gs : GameSession) (gameId : GameId) : (gs.expireRematch room gameId).sends = [] := by
  unfold GameSession.expireRematch
  split
  · rfl
  · rw [Option.isSome_eq_false_iff.mp hroom |> Option.isNone_iff_eq_none.mp]
    rfl

/-- A step leaves a room alone that it neither looks up nor creates. -/
theorem step_stored (hk : s.Keyed) (hb : s.Backed) (h : s.step G i = some t) (hr : s.looksUp r i = false)
    (hcreate : i ≠ .createRoom) : t.rooms.rooms.get r = s.rooms.rooms.get r := by
  cases i with
  | tick elapsed | connect | wsPong c =>
    obtain rfl := Option.some.inj h
    rfl
  | createRoom => exact absurd rfl hcreate
  | maintenance => cases hr
  | httpGetRoom r' =>
    obtain rfl := Option.some.inj h
    exact RoomStore.rooms_get_afterGetRoom.trans (if_neg (of_decide_eq_false hr))
  | socketClosed c =>
    obtain rfl := Option.some.inj h
    exact handleClose_stored hk hb (of_decide_eq_false hr)
  | authTimeout c | idleTimeout c =>
    simp only [step] at h
    split at h
    · obtain rfl := Option.some.inj h
      exact congrArg (fun store => store.rooms.get r) (close_rooms s c _)
    · cases h
  | frame c frame diskFails =>
    obtain rfl := Option.some.inj h
    exact handleFrame_stored hk hb hr
  | reconnectWindow r' p diskFails =>
    have hne : r' ≠ r := of_decide_eq_false hr
    simp only [step] at h
    split at h
    · cases h
    split at h
    · cases h
    split at h
    · split at h
      · cases h
      rename_i hfired
      obtain rfl := Option.some.inj h
      unfold fireReconnectWindow at hfired ⊢
      dsimp only at hfired ⊢
      split at hfired
      · exact absurd rfl hfired
      · rename_i hthrew
        rw [if_neg hthrew]
        exact ((applyEffect_posts rfl _).then_silent (onPlayerLeft_posts _ p)).stored r hne
    · cases h
  | rematchTimer r' =>
    simp only [step] at h
    split at h
    · rename_i gs room _ hroom
      split at h
      · cases h
      split at h
      · obtain rfl := Option.some.inj h
        by_cases hne : r' = r
        · subst hne
          have hempty : (room.playerX.or room.playerO).isSome = false := by simpa [looksUp, hroom] using hr
          rw [applyEmitted, expireRematch_sends_none hempty]
          rfl
        · exact (applyEmitted_posts rfl _).stored r hne
      · cases h
    · cases h

/-- A step that does not look up a room that is too old drops no room that has a session. -/
theorem stored_of_step (hk : s.Keyed) (hb : s.Backed) (h : s.step G i = some t) (hi : s.dropsPlayedRoom i = false)
    (hgame : s.gameSessions.get r ≠ none) (hstored : s.rooms.rooms.get r ≠ none) : t.rooms.rooms.get r ≠ none := by
  obtain ⟨room, hroom⟩ := Option.ne_none_iff_exists'.mp hstored
  by_cases hcreate : i = .createRoom
  · subst hcreate
    obtain rfl := Option.some.inj h
    change (s.rooms.rooms.set _ _).get r ≠ none
    rw [JsMap.get_set]
    split
    · exact Option.some_ne_none _
    · exact hstored
  cases hlooked : s.looksUp r i with
  | false => exact fun hnone => hstored ((step_stored hk hb h hlooked hcreate).symm.trans hnone)
  | true =>
    have hlive : room.isExpired s.now = false := by
      simp only [dropsPlayedRoom, List.any_eq_false] at hi
      have hkept := hi (r, room) ((JsMap.mem_entries_iff _).mpr hroom)
      simpa [hlooked, JsMap.has, Option.isSome_iff_ne_none.mpr hgame] using hkept
    intro hnone
    have hnow : t.now = s.now := by
      rcases step_acts hk h with ⟨elapsed, rfl, -⟩ | ⟨r', a, hacts, -⟩
      · cases hlooked
      · exact hacts.now
    have hdead : t.getRoom r = none := by
      by_contra hsome
      obtain ⟨room', hroom'⟩ := Option.ne_none_iff_exists'.mp hsome
      cases (RoomStore.getRoom_eq_some.mp hroom').1.symm.trans hnone
    have hexpired := expired_of_lost hk h (RoomStore.getRoom_eq_some.mpr ⟨hroom, hlive⟩) hdead
    rw [hnow, hlive] at hexpired
    cases hexpired

/-- A session is created for a live room only. -/
theorem live_of_new_game (hk : s.Keyed) (h : s.step G i = some t) (hnone : s.gameSessions.get r = none)
    (hgame : t.gameSessions.get r ≠ none) : t.rooms.rooms.get r ≠ none := by
  rcases step_view hk h r with hview | ⟨a, hacts, -⟩
  · exact absurd ((congrArg RoomView.game hview).trans hnone) hgame
  obtain ⟨sends, hstep, -⟩ := hacts.step
  have hlive := hacts.onLive (hstep.onLive_of_new_game hnone hgame)
  have halive : (t.getRoom r).isSome = true := by
    rcases hacts.alive r with ⟨-, rfl⟩ | hsame
    · cases hstep.onLive_of_new_game hnone hgame
    · exact hsame.trans hlive
  obtain ⟨room, hroom⟩ := Option.isSome_iff_exists.mp halive
  rw [(RoomStore.getRoom_eq_some.mp hroom).1]
  exact Option.some_ne_none _

/-! ### Runs -/

/-- Every game session is one of a room that is in the store. -/
def Housed (s : Server) : Prop := ∀ r, s.gameSessions.get r ≠ none → s.rooms.rooms.get r ≠ none

end Server

open Server

/-- Every game session has its room in the store, as long as no room is looked up that is too old and has a session. -/
theorem sessions_housed {G : IdSource} {now : Millis} {version : String} {repository : HistoryRepository} {s : Server}
    (hrun : Runs G (fun s i => s.dropsPlayedRoom i = false) (start now version repository) s) : s.Housed := by
  refine (hrun.invariant (P := fun s => (s.Keyed ∧ s.Backed) ∧ s.Housed)
    ⟨⟨start_keyed now version repository, start_backed now version repository⟩, fun r h => absurd rfl h⟩
    fun s t i hs hi hstep => ?_).2
  obtain ⟨⟨hk, hb⟩, hhoused⟩ := hs
  refine ⟨⟨hk.step hstep, hb.step hk hstep⟩, fun r hgame => ?_⟩
  by_cases hnone : s.gameSessions.get r = none
  · exact live_of_new_game hk hstep hnone hgame
  · exact stored_of_step hk hb hstep hi hnone (hhoused r hnone)

/-- A room in which a game is played, beside one that nobody has entered and that the maintenance job drops. -/
theorem sessions_housed_maintenance : ∃ s,
    Runs tallies (fun s i => s.dropsPlayedRoom i = false) fresh s ∧ s.Housed ∧
    s.rooms.rooms.get (tally 'r' 0) = none ∧ s.gameSessions.get (tally 'r' 5) ≠ none ∧
    s.rooms.rooms.get (tally 'r' 5) ≠ none := by
  have hcheck : (Transition.run (step tallies) (fun s i => !s.dropsPlayedRoom i) fresh
      [.createRoom, .tick 86400001, .connect, asks 1 "auth1" (.auth none), .connect, asks 3 "auth2" (.auth none),
        .createRoom, asks 1 "join1" (.joinRoom (tally 'r' 5) none), asks 3 "join2" (.joinRoom (tally 'r' 5) none),
        .maintenance]).any
      (fun s => (s.rooms.rooms.get (tally 'r' 0)).isNone && (s.gameSessions.get (tally 'r' 5)).isSome) = true := by
    decide +kernel
  obtain ⟨s, hrun, hs⟩ := Transition.exists_run (C := fun s i => s.dropsPlayedRoom i = false)
    (fun _ _ h => by simpa using h) hcheck
  simp only [Bool.and_eq_true, Option.isNone_iff_eq_none, Option.isSome_iff_ne_none] at hs
  obtain ⟨hdropped, hgame⟩ := hs
  have hhoused := sessions_housed hrun
  exact ⟨s, hrun, hhoused, hdropped, hgame, hhoused _ hgame⟩

/-- Player 1 has joined a room and gone away. A day later the maintenance job drops the room and forgets its session. -/
theorem session_outlives_room : ∃ s t, Runs tallies (fun _ _ => True) fresh s ∧ s.step tallies .maintenance = some t ∧
    s.rooms.rooms.get (tally 'r' 2) ≠ none ∧ t.rooms.rooms.get (tally 'r' 2) = none ∧
    t.gameSessions.get (tally 'r' 2) ≠ none ∧ ¬t.Housed := by
  have hcheck : (Transition.run (step tallies) (fun _ _ => true) fresh
      [.connect, asks 0 "auth1" (.auth none), .createRoom, asks 0 "join1" (.joinRoom (tally 'r' 2) none),
        .socketClosed (tally 'c' 0), .tick 86400001]).any (fun s =>
      (s.rooms.rooms.get (tally 'r' 2)).isSome && ((s.rooms.purgeExpired s.now).rooms.get (tally 'r' 2)).isNone &&
      (s.gameSessions.get (tally 'r' 2)).isSome) = true := by decide +kernel
  obtain ⟨s, hrun, hs⟩ := Transition.exists_run (C := fun _ _ => True) (fun _ _ _ => trivial) hcheck
  simp only [Bool.and_eq_true, Option.isNone_iff_eq_none, Option.isSome_iff_ne_none] at hs
  obtain ⟨⟨hstored, hpurged⟩, hgame⟩ := hs
  exact ⟨s, _, hrun, rfl, hstored, hpurged, hgame, fun h => h (tally 'r' 2) hgame hpurged⟩

end TicTacToe
