import TicTacToe.Theorems.Receipts

/-! # Fresh events

An event of a room is fresh unless it repeats what has been sent before: a response from the dedup cache, a `STATE_SYNC`,
or the answer to the `PLAYER_READY` of a player who is ready already. The steps that write fresh events are the commands
and the timers of a room, and the close of a player's last connection. -/

namespace TicTacToe

/-- The connection that has sent the frame. -/
def Input.sender : Input → Option ConnectionId
  | .frame connectionId _ _ => some connectionId
  | _ => none

namespace Server
variable {s t u : Server} {r : RoomId} {G : IdSource} {c : ConnectionId} {id : CommandId} {token : SessionToken}
  {p : PlayerId} {room : RoomRecord} {found : Option RoomRecord} {calls : List SendCall} {deliveries : List Delivery}
  {i : Input} {result result' : HandlerResult} {Q : RoomEvent → Prop}

/-- The connection acts for a player who is marked as ready in the live room `r`. -/
def isReady (s : Server) (c : ConnectionId) (r : RoomId) : Bool :=
  (s.actsFor c).any fun p => (s.getRoom r).any fun room =>
    (getSymbolForPlayer room p).any fun symbol => symbol ∈ room.readySymbols

/-- The event repeats a number: it is a `STATE_SYNC`, or it answers a player who is ready already. -/
def repeatsNumber (s : Server) (i : Input) (event : RoomEvent) : Bool :=
  event.payload.isSync || event.payload.isReadyAck && i.sender.any fun c => s.isReady c event.roomId

/-- The fresh events that step `i` from `s` to `t` writes, with the connections that they are written to. -/
def freshEvents (s : Server) (i : Input) (t : Server) : List (ConnectionId × RoomEvent) :=
  if s.answeredAgain i then []
  else (roomEvents (t.wire.drop s.wire.length)).filter fun e => !s.repeatsNumber i e.2

/-- A `SYNC_REQUEST`, or the `PLAYER_READY` of a player who is ready already. -/
def asksAgain (s : Server) : Input → Bool
  | .frame c frame _ =>
    match frame.parseResult with
    | .ok ⟨_, .syncRequest _ _⟩ => true
    | .ok ⟨_, .playerReady roomId⟩ => s.isReady c roomId
    | _ => false
  | _ => false

/-- Connection `c` is the last one of a player whose session is in room `r`. -/
def Disconnects (s : Server) (c : ConnectionId) (r : RoomId) : Prop :=
  ∃ rec token p session, s.connections.get c = some rec ∧ rec.sessionToken = some token ∧ rec.playerId = some p ∧
    (s.unregisterPlayerConnection p c).getPlayerConnectionIds p = [] ∧ s.getSession token = some session ∧
    session.roomId = some r

/-- Step `i` may number events of room `r`. -/
def Numbers (s : Server) (i : Input) (r : RoomId) : Prop :=
  s.Concerns i r ∧ s.asksAgain i = false ∨ ∃ c, i = .socketClosed c ∧ s.Disconnects c r

/-! ### Steps that write nothing fresh -/

/-- All room events that have been written between `s` and `t` meet `Q`. -/
def WritesOnly (Q : RoomEvent → Prop) (s t : Server) : Prop :=
  ∃ w : List (ConnectionId × WireEvent), t.wire = s.wire ++ w ∧
    ∀ entry ∈ w, ∀ event, entry.2.roomEvent = some event → Q event

theorem WritesOnly.of_none {w : List (ConnectionId × WireEvent)} (hw : t.wire = s.wire ++ w)
    (h : ∀ entry ∈ w, entry.2.roomEvent = none) : WritesOnly Q s t :=
  ⟨w, hw, fun entry hentry event hevent => by simp [h entry hentry] at hevent⟩

theorem WritesOnly.of_same (h : t.wire = s.wire) : WritesOnly Q s t := ⟨[], by simp [h], by simp⟩

theorem WritesOnly.freshEvents (h : WritesOnly Q s t) (hQ : ∀ event, Q event → s.repeatsNumber i event = true) :
    s.freshEvents i t = [] := by
  obtain ⟨w, hw, honly⟩ := h
  unfold Server.freshEvents
  split
  · rfl
  rw [hw, List.drop_left]
  refine List.filter_eq_nil_iff.mpr fun e he => ?_
  obtain ⟨x, hx, hevent⟩ := mem_roomEvents.mp he
  simp [hQ _ (honly _ hx _ hevent)]

/-- A delivery writes its own event. -/
theorem delivered_event {d : Delivery} {entry : ConnectionId × WireEvent} (h : entry ∈ s.delivered d) :
    entry.2 = d.event := by
  obtain ⟨c', w⟩ := entry
  cases d with
  | connection c e =>
    unfold Server.delivered at h
    dsimp only at h
    split at h
    · exact (Prod.mk.inj (List.mem_singleton.mp h)).2
    · cases h
  | broadcast q e => exact (mem_mailed h).1

/-- A handler that writes nothing through the send function and delivers only room events that meet `Q`. -/
structure Mute (Q : RoomEvent → Prop) (s : Server) (result : HandlerResult) : Prop where
  wire : result.server.wire = s.wire
  delivered : ∀ d ∈ result.deliveries, ∀ event, d.event.roomEvent = some event → Q event

namespace Mute

theorem refuse (s : Server) (code : ErrorCode) : Mute Q s (s.refuse c code id) := by
  refine ⟨rfl, fun d hd event hevent => ?_⟩
  obtain rfl := List.mem_singleton.mp hd
  cases hevent

theorem ok {d : Delivery} (h : t.wire = s.wire) (hd : ∀ event, d.event.roomEvent = some event → Q event) :
    Mute Q s (t.ok [d]) := by
  refine ⟨h, fun d' hd' => ?_⟩
  obtain rfl := List.mem_singleton.mp hd'
  exact hd

theorem respond {event : Event} (h : t.wire = s.wire) (hevent : ∀ e, (WireEvent.event event).roomEvent = some e → Q e) :
    Mute Q s (t.respond c id event []) := .ok h hevent

theorem relinked (h : Mute Q s result) (hlink : Relinked result result') : Mute Q s result' := by
  obtain ⟨connections, registry, hserver, -⟩ := hlink.server
  refine ⟨?_, hlink.deliveries ▸ h.delivered⟩
  rw [hserver]
  exact h.wire

theorem after (h : Mute Q u result) (hu : u.wire = s.wire) : Mute Q s result := ⟨h.wire.trans hu, h.delivered⟩

theorem concluded (h : Mute Q s result) (G : IdSource) (c : ConnectionId) (id : CommandId) :
    WritesOnly Q s (conclude G c id result) := by
  obtain ⟨w, n, hconclude, hw⟩ := conclude_frame G c id result
  refine ⟨w, by rw [hconclude, ← h.wire], fun entry hentry event hevent => ?_⟩
  rcases hw with rfl | hnone
  · obtain ⟨d, hd, hentry⟩ := List.mem_flatMap.mp hentry
    exact h.delivered d hd event (delivered_event hentry ▸ hevent)
  · rw [hnone entry hentry] at hevent
    cases hevent

end Mute

/-- A room command with a session and without an earlier answer. -/
theorem roomCommand_mute {session : PlayerSession} {reply : WireEvent → List Delivery}
    {handle : Server → PlayerSession → RoomRecord → HandlerResult} (hs : s.getSession token = some session)
    (hc : s.cached id = none) (h : ∀ room, s.getRoom r = some room → Mute Q s (handle (s.afterLookup id) session room)) :
    Mute Q s (s.roomCommand c id token r reply handle) := by
  cases hroom : s.getRoom r with
  | some room =>
    rw [roomCommand_eq hs hc hroom]
    exact h room hroom
  | none =>
    have hroom' : (s.afterLookup id).getRoom r = none := hroom
    unfold roomCommand withSession
    rw [hs]
    dsimp only
    rw [afterGetSession_eq_self hs]
    rcases unlessCached_cases s id reply (fun s => s.withRoom c id r fun s room => handle s session room) with
      ⟨entry, hentry, -⟩ | ⟨-, he⟩
    · rw [hc] at hentry
      cases hentry
    rw [he, withRoom, hroom']
    dsimp only
    exact (Mute.refuse _ _).after rfl

theorem handleSyncRequest_mute {session : PlayerSession} (hs : s.getSession token = some session)
    (hc : s.cached id = none) (c : ConnectionId) (r : RoomId) (fromSeq : Nat) :
    Mute (fun event => event.payload.isSync = true) s (s.handleSyncRequest c id r fromSeq token) := by
  refine roomCommand_mute hs hc fun room hroom => ?_
  split
  · exact (Mute.refuse _ _).after rfl
  dsimp only
  split
  · exact .respond rfl fun e he => Option.some.inj he ▸ rfl
  · exact .respond rfl fun e he => Option.some.inj he ▸ rfl

/-- A player who is ready already is only answered. -/
theorem handlePlayerReady_mute {session : PlayerSession} (hs : s.getSession token = some session)
    (hc : s.cached id = none) (c : ConnectionId) (r : RoomId) (hready : ∀ room symbol, s.getRoom r = some room →
      getSymbolForPlayer room session.playerId = some symbol → symbol ∈ room.readySymbols) :
    Mute (fun event => event.payload.isReadyAck = true ∧ event.roomId = r) s (s.handlePlayerReady G c id r token) := by
  refine roomCommand_mute hs hc fun room hroom => ?_
  split
  · exact (Mute.refuse _ _).after rfl
  split
  · exact (Mute.refuse _ _).after rfl
  rename_i symbol hsymbol
  rw [if_pos (hready room symbol hroom hsymbol)]
  refine .respond ?_ fun e he => Option.some.inj he ▸ ⟨rfl, rfl⟩
  have hposts : Posts r none (s.afterLookup id) ((s.afterLookup id).ensureGameSession r) [] := ensureGameSession_posts _
  rw [hposts.wire]
  exact List.append_nil _

theorem acknowledgeAuth_mute (s : Server) (c : ConnectionId) (id : CommandId) (session : PlayerSession) :
    Mute Q s (s.acknowledgeAuth c id session) := by
  refine .respond ?_ fun e he => by cases he
  unfold existingRoom
  split
  · rfl
  · dsimp only
    split
    · rfl
    · rfl

/-- An `AUTH` without an earlier answer. -/
theorem handleAuth_mute (hc : s.cached id = none) (c : ConnectionId) (guestToken : Option SessionToken) :
    Mute Q s (s.handleAuth G c id guestToken) := by
  unfold handleAuth
  rcases unlessCached_cases s id (resend c) _ with ⟨entry, hentry, -⟩ | ⟨-, he⟩
  · rw [hc] at hentry
    cases hentry
  rw [he]
  split
  · split
    · exact (Mute.refuse _ _).after rfl
    · exact (acknowledgeAuth_mute _ c id _).after rfl
  · exact (acknowledgeAuth_mute _ c id _).after rfl

/-- A routed command that is not answered again and has no empty answers has not been answered before. -/
theorem Routed.uncached {rec : ConnectionRecord} {command : Command} (hrouted : s.Routed i c rec command)
    (hagain : s.answeredAgain i = false) (hreplies : ∀ e, replies c command.body e = resend c e) :
    s.cached command.commandId = none := by
  obtain ⟨frame, diskFails, rfl, -, hparse⟩ := hrouted.frame
  cases hc : s.cached command.commandId with
  | none => rfl
  | some entry => simp [answeredAgain, hparse, hrouted.frameError.2, hc, hreplies, resend] at hagain

/-- Every routed command of the frame is mute. -/
theorem handleFrame_writesOnly {frame : RawFrame} {diskFails : Bool} (h : ∀ rec command,
    s.Routed (.frame c frame diskFails) c rec command → Mute Q s ((s.arrived c rec).dispatch G c rec command diskFails)) :
    WritesOnly Q s (s.handleFrame G c frame diskFails) := by
  rcases handleFrame_cases (G := G) s c frame diskFails with
    ⟨u, code, id, -, -, ⟨hwire, -⟩, he⟩ | ⟨-, hwire, -⟩ | ⟨rec, command, hrouted⟩
  · obtain ⟨connections, w, hw, hnone⟩ := sendError_frame u c code id
    rw [he, hw]
    exact .of_none (w := w) (by rw [hwire]) hnone
  · exact .of_same hwire
  · rw [handleFrame_routed hrouted]
    exact (h rec command hrouted).concluded G c command.commandId

/-- `AUTH` and `PING` without an earlier answer. -/
theorem dispatch_mute_of_exempt {rec : ConnectionRecord} {command : Command}
    (hc : ∀ guestToken, command.body = .auth guestToken → s.cached command.commandId = none)
    (hr : command.body.concerns = none) (diskFails : Bool) :
    Mute Q s ((s.arrived c rec).dispatch G c rec command diskFails) := by
  have hq := arrived_quiet s c rec
  obtain ⟨id, body⟩ := command
  cases body with
  | auth guestToken =>
    have hauth : Mute Q (s.arrived c rec) ((s.arrived c rec).handleAuth G c id guestToken) :=
      handleAuth_mute ((hq.cached id).trans (hc guestToken rfl)) c guestToken
    exact (hauth.relinked (bindConnection_relinked c _)).after (arrived_wire s c rec)
  | ping clientTime =>
    refine ⟨arrived_wire s c rec, fun d hd event hevent => ?_⟩
    obtain rfl := List.mem_singleton.mp hd
    cases hevent
  | _ => cases hr

/-- The answer to a command that asks again repeats a number. -/
theorem Routed.mute_of_asksAgain {rec : ConnectionRecord} {command : Command} (hrouted : s.Routed i c rec command)
    (hs : s.Attached G) (hn : G.NeverRepeats) (hi : s.Issuing G) (hagain : s.answeredAgain i = false)
    (hasks : s.asksAgain i = true) (diskFails : Bool) :
    Mute (fun event => s.repeatsNumber i event = true) s ((s.arrived c rec).dispatch G c rec command diskFails) := by
  have hq := arrived_quiet s c rec
  obtain ⟨frame, diskFails', rfl, -, hparse⟩ := hrouted.frame
  obtain ⟨id, body⟩ := command
  simp only [asksAgain, hparse] at hasks
  cases body with
  | syncRequest r fromSeq =>
    obtain ⟨token, session, htoken, hsession, -⟩ := hs.sender hn hi hrouted rfl
    obtain ⟨session', hsession', -⟩ := hq.session_to_some hsession
    have hc : s.cached id = none := hrouted.uncached hagain fun _ => rfl
    have hdispatch : (s.arrived c rec).dispatch G c rec ⟨id, .syncRequest r fromSeq⟩ diskFails =
        (s.arrived c rec).handleSyncRequest c id r fromSeq token := by simp only [dispatch, htoken]
    obtain ⟨hwire, hd⟩ := handleSyncRequest_mute hsession' ((hq.cached id).trans hc) c r fromSeq
    rw [hdispatch]
    refine ⟨hwire.trans (arrived_wire s c rec), fun d hmem event hevent => ?_⟩
    simp [repeatsNumber, hd d hmem event hevent]
  | playerReady r =>
    obtain ⟨token, session, htoken, hsession, hacts⟩ := hs.sender hn hi hrouted rfl
    obtain ⟨session', hsession', hplayer, -⟩ := hq.session_to_some hsession
    have hc : s.cached id = none := hrouted.uncached hagain fun _ => rfl
    have hdispatch : (s.arrived c rec).dispatch G c rec ⟨id, .playerReady r⟩ diskFails =
        (s.arrived c rec).handlePlayerReady G c id r token := by simp only [dispatch, htoken]
    have hready : ∀ room symbol, (s.arrived c rec).getRoom r = some room →
        getSymbolForPlayer room session'.playerId = some symbol → symbol ∈ room.readySymbols := by
      intro room symbol hroom hsymbol
      rw [hq.getRoom] at hroom
      rw [hplayer] at hsymbol
      simpa [isReady, hacts, hroom, hsymbol] using hasks
    obtain ⟨hwire, hd⟩ := handlePlayerReady_mute (G := G) hsession' ((hq.cached id).trans hc) c r hready
    rw [hdispatch]
    refine ⟨hwire.trans (arrived_wire s c rec), fun d hmem event hevent => ?_⟩
    obtain ⟨hack, hroom⟩ := hd d hmem event hevent
    simp [repeatsNumber, Input.sender, hack, hroom, hasks]
  | _ => cases hasks

/-! ### Closes -/

theorem unregisterPlayerConnection_frame (s : Server) (p : PlayerId) (c : ConnectionId) :
    ∃ registry, s.unregisterPlayerConnection p c = { s with playerConnectionRegistry := registry } := by
  unfold unregisterPlayerConnection
  split
  · exact ⟨_, rfl⟩
  · exact ⟨_, rfl⟩

theorem unregisterPlayerConnection_ids (s : Server) (p q : PlayerId) (c : ConnectionId) :
    (s.unregisterPlayerConnection p c).getPlayerConnectionIds q =
      if p = q then JsSet.delete (s.getPlayerConnectionIds q) c else s.getPlayerConnectionIds q := by
  unfold unregisterPlayerConnection getPlayerConnectionIds
  cases hget : s.playerConnectionRegistry.get p with
  | none =>
    by_cases hp : p = q
    · subst hp
      simp [hget, JsSet.delete]
    · simp [hp]
  | some connections =>
    by_cases hp : p = q
    · subst hp
      by_cases hempty : JsSet.delete connections c = []
      · simp [hget, hempty]
      · simp [hget, hempty]
    · by_cases hempty : JsSet.delete connections c = []
      · simp [hempty, hp, JsMap.get_delete]
      · simp [hempty, hp, JsMap.get_set]

theorem unregisterPlayerConnection_narrows (s : Server) (p : PlayerId) (c : ConnectionId) :
    Narrows s (s.unregisterPlayerConnection p c) := by
  refine ⟨fun c' => ?_, fun q => ?_⟩
  · obtain ⟨registry, h⟩ := unregisterPlayerConnection_frame s p c
    rw [h]
  · rw [unregisterPlayerConnection_ids]
    split
    · exact List.filter_sublist
    · exact .refl _

theorem startReconnectWindow_for (gs : GameSession) (now : Millis) (room : RoomRecord) (p : PlayerId) :
    SendsFor gs.roomId room.Holds (gs.startReconnectWindow now room p).sends :=
  GameSession.tellOpponent_for (gs.clearReconnectWindow p) room p _ fun _ _ => rfl

/-- A disconnect of a player whose session is in room `r`. -/
theorem handleDisconnect_posts {session : PlayerSession} {P : PlayerId → Prop} (hk : s.Keyed) (hb : s.Backed)
    (hsession : s.getSession token = some session) (hr : session.roomId = some r) :
    ∃ found calls, Posts r found s (s.handleDisconnect token) calls ∧ s.Finds r found ∧
      SendsFor r (s.InRoom r) calls ∧ Numbering s r P (s.handleDisconnect token) calls [] := by
  have hnothing : ∀ t : Server, t.gameSessions = s.gameSessions → Numbering s r P t [] [] :=
    fun t ht => .counted (.of_same (by rw [ht])) (by simp)
  unfold handleDisconnect
  rw [afterGetSession_eq_self hsession]
  simp only [hsession, Option.bind_some, hr]
  cases hroom : s.getRoom r with
  | none => exact ⟨none, [], afterGetRoom_posts s, finds_none, .nil, hnothing _ rfl⟩
  | some room =>
    rw [afterGetRoom_eq_self hroom]
    dsimp only
    have hsame := room.setConnected_samePlayers s.now session.playerId false
    have hfound := getRoom_putRoom s r r (room.setConnected s.now session.playerId false)
    rw [if_pos rfl, RoomRecord.setConnected_live (RoomStore.getRoom_eq_some.mp hroom).2] at hfound
    generalize room.setConnected s.now session.playerId false = marked at hsame hfound
    have hput : ∀ found, Posts r found s (s.putRoom r marked) [] := fun _ => putRoom_posts s marked
    have hgames : (s.putRoom r marked).gameSessions.get r = s.gameSessions.get r := rfl
    cases hg : s.gameSessions.get r with
    | none =>
      simp only [hgames, hg]
      exact ⟨none, [], hput none, finds_none, .nil, hnothing _ rfl⟩
    | some gs =>
      simp only [hgames, hg]
      split
      · refine ⟨some marked, _, (hput _).after_silent (applyEmitted_posts hfound _), finds_of_samePlayers hroom hsame, ?_,
          ?_⟩
        · have hsent := startReconnectWindow_for gs s.now marked session.playerId
          rw [hk r gs hg] at hsent
          exact hsent.mono fun q hq => ⟨room, hroom, hsame.holds hq⟩
        · have honly : SendsOnly (fun x => !x.isStart) (gs.startReconnectWindow s.now marked session.playerId).sends :=
            GameSession.tellOpponent_sendsOnly _ _ _ _ fun _ _ => rfl
          have hdraws := (GameSession.startReconnectWindow_hands gs s.now marked session.playerId).draws
            ((hb r).some gs hg) honly
          have hmarked : Draws r s (s.putRoom r marked) [] := .of_same rfl
          refine .counted ?_ ?_
          · rw [numberedEvents_nil]
            exact hmarked.trans (applyEmitted_draws (hgames.trans hg) hdraws)
          · rw [numberedEvents_nil]
            exact starts_of_sendsOnly honly
      · exact ⟨none, [], hput none, finds_none, .nil, hnothing _ rfl⟩

theorem handleDisconnect_wire (h : ∀ session, s.getSession token = some session → session.roomId = none) :
    (s.handleDisconnect token).wire = s.wire := by
  unfold handleDisconnect
  cases hsession : s.getSession token with
  | none => rfl
  | some session =>
    simp only [Option.bind_some, h session hsession]
    rfl

/-- A close tells the opponent, or nobody. -/
theorem handleClose_letters (hs : s.Attached G) (hk : s.Keyed) (hb : s.Backed) (c : ConnectionId) :
    WritesOnly Q s (s.handleClose c) ∨ ∃ r calls, s.Disconnects c r ∧
      Letters s (.socketClosed c) r (s.handleClose c) calls [] ∧
      Numbering s r (s.SentBy (.socketClosed c)) (s.handleClose c) calls [] := by
  have hunregistered : ∀ u : Server, u.wire = s.wire → WritesOnly Q s (u.unregister c) := fun u hu => .of_same hu
  unfold handleClose
  cases hrec : s.connections.get c with
  | none => exact Or.inl (hunregistered s rfl)
  | some rec =>
    rcases hs.identity c rec hrec with hid | ⟨token, p, hid, -⟩
    · have htoken : rec.sessionToken = none := congrArg (fun x => x.1) hid
      simp only [htoken]
      exact Or.inl (hunregistered s rfl)
    have htoken : rec.sessionToken = some token := congrArg (fun x => x.1) hid
    have hp : rec.playerId = some p := congrArg (fun x => x.2.1) hid
    simp only [htoken, hp]
    have hnarrows := unregisterPlayerConnection_narrows s p c
    obtain ⟨registry, hu⟩ := unregisterPlayerConnection_frame s p c
    have hwire : (s.unregisterPlayerConnection p c).wire = s.wire := by rw [hu]
    have hlast : ∀ session, (s.unregisterPlayerConnection p c).getSession token = some session →
        s.getSession token = some session := by
      intro session h
      rw [hu] at h
      exact h
    split
    · exact Or.inl (hunregistered _ hwire)
    rename_i hempty
    generalize hx : s.unregisterPlayerConnection p c = x at hnarrows hu hwire hlast hempty
    by_cases hnone : ∀ session, x.getSession token = some session → session.roomId = none
    · exact Or.inl (hunregistered _ ((handleDisconnect_wire hnone).trans hwire))
    simp only [not_forall] at hnone
    obtain ⟨session, hsession, hroom⟩ := hnone
    obtain ⟨r, hr⟩ := Option.ne_none_iff_exists'.mp hroom
    have hkx : x.Keyed := by
      rw [hu]
      exact hk
    have hbx : x.Backed := by
      rw [hu]
      exact hb
    obtain ⟨found, calls, hposts, hfinds, hsent, hnumbering⟩ := handleDisconnect_posts
      (P := s.SentBy (.socketClosed c)) hkx hbx hsession hr
    have hbefore : Numbering s r (s.SentBy (.socketClosed c)) (x.handleDisconnect token) calls [] := by
      refine .of_before ?_ ?_ hnumbering
      · rw [hu]
      · rw [hu]
        rfl
    subst hu
    refine Or.inr ⟨r, calls, ⟨rec, token, p, session, hrec, htoken, hp, ?_, hlast session hsession, hr⟩,
      ⟨⟨hposts.stored, hposts.games⟩, hposts.sendLog, ⟨_, found, [], hnarrows, hfinds, ?_, Or.inl rfl⟩, ?_, by simp⟩, ?_⟩
    · rw [hx]
      exact not_not.mp hempty
    · rw [List.append_nil]
      exact hposts.wire
    · exact hsent.mono fun q hq => Or.inr hq
    · exact hbefore.of_games rfl

/-! ### Steps -/

theorem close_writesOnly (s : Server) (c : ConnectionId) (e : Option WireEvent)
    (h : ∀ x, e = some x → x.roomEvent = none) : WritesOnly Q s (s.close c e) := by
  cases e with
  | none => exact .of_same rfl
  | some x =>
    obtain ⟨entries, hentries, hsame⟩ := send_written s c x
    exact .of_none (w := entries) hentries fun entry hentry => by rw [hsame entry hentry, h x rfl]

/-- A frame that is not about a room, or that asks again, writes nothing fresh. -/
theorem handleFrame_freshEvents {frame : RawFrame} {diskFails : Bool} (hs : s.Attached G) (hn : G.NeverRepeats)
    (hi : s.Issuing G) (hagain : s.answeredAgain (.frame c frame diskFails) = false)
    (h : ∀ command, frame.parseResult = .ok command →
      command.body.concerns = none ∨ s.asksAgain (.frame c frame diskFails) = true) :
    s.freshEvents (.frame c frame diskFails) (s.handleFrame G c frame diskFails) = [] := by
  have hmute : WritesOnly (fun event => s.repeatsNumber (.frame c frame diskFails) event = true) s
      (s.handleFrame G c frame diskFails) := by
    refine handleFrame_writesOnly fun rec command hrouted => ?_
    rcases h command hrouted.frameError.1 with hr | hasks
    · refine dispatch_mute_of_exempt (fun guestToken he => hrouted.uncached hagain fun _ => ?_) hr diskFails
      rw [he]
      rfl
    · exact hrouted.mute_of_asksAgain hs hn hi hagain hasks diskFails
  exact hmute.freshEvents fun event hevent => hevent

/-- A step that writes fresh events is one of a room that numbers events. -/
theorem step_freshEvents (hs : s.Attached G) (hn : G.NeverRepeats) (hi : s.Issuing G) (hk : s.Keyed) (hb : s.Backed)
    (h : s.step G i = some t) : s.freshEvents i t = [] ∨ ∃ r calls deliveries, s.Numbers i r ∧
      Letters s i r t calls deliveries ∧ Numbering s r (s.SentBy i) t calls deliveries := by
  cases hagain : s.answeredAgain i with
  | true => exact Or.inl (by simp [freshEvents, hagain])
  | false =>
    have hnothing : WritesOnly (fun _ => False) s t → s.freshEvents i t = [] := fun hw => hw.freshEvents fun _ => False.elim
    have hroom : ∀ r, s.Concerns i r → s.asksAgain i = false → ∃ r calls deliveries, s.Numbers i r ∧
        Letters s i r t calls deliveries ∧ Numbering s r (s.SentBy i) t calls deliveries := by
      intro r hr hasks
      obtain ⟨calls, deliveries, hletters, hnumbering⟩ := step_letters hs hn hi hk hb hr h
      exact ⟨r, calls, deliveries, Or.inl ⟨hr, hasks⟩, hletters, hnumbering⟩
    cases i with
    | frame c frame diskFails =>
      cases hparse : frame.parseResult with
      | error reason =>
        rw [← Option.some.inj h]
        exact Or.inl (handleFrame_freshEvents hs hn hi hagain fun command hok => by cases hparse.symm.trans hok)
      | ok command =>
        cases hr : command.body.concerns with
        | none =>
          rw [← Option.some.inj h]
          refine Or.inl (handleFrame_freshEvents hs hn hi hagain fun command' hok => Or.inl ?_)
          obtain rfl := Except.ok.inj (hparse.symm.trans hok)
          exact hr
        | some r =>
          cases hasks : s.asksAgain (.frame c frame diskFails) with
          | true =>
            rw [← Option.some.inj h]
            exact Or.inl (handleFrame_freshEvents hs hn hi hagain fun _ _ => Or.inr hasks)
          | false => exact Or.inr (hroom r (Or.inr ⟨by simp [Input.concerns, hparse, hr], hagain⟩) hasks)
    | reconnectWindow r p diskFails => exact Or.inr (hroom r (Or.inr ⟨rfl, hagain⟩) rfl)
    | rematchTimer r => exact Or.inr (hroom r (Or.inl rfl) rfl)
    | socketClosed c =>
      obtain rfl := Option.some.inj h
      rcases handleClose_letters (Q := fun _ => False) hs hk hb c with hw | ⟨r, calls, hlast, hletters, hnumbering⟩
      · exact Or.inl (hnothing hw)
      · exact Or.inr ⟨r, calls, [], Or.inr ⟨c, rfl, hlast⟩, hletters, hnumbering⟩
    | authTimeout c =>
      simp only [step] at h
      split at h
      · obtain rfl := Option.some.inj h
        refine Or.inl (hnothing (close_writesOnly s c _ fun x hx => ?_))
        rw [← Option.some.inj hx]
        rfl
      · cases h
    | idleTimeout c =>
      simp only [step] at h
      split at h
      · obtain rfl := Option.some.inj h
        exact Or.inl (hnothing (.of_same rfl))
      · cases h
    | _ =>
      obtain rfl := Option.some.inj h
      exact Or.inl (hnothing (.of_same rfl))

end Server
end TicTacToe
