import TicTacToe.Theorems.PresenceActs

/-! # From a frame to its handler

A frame that passes the checks of the router brings its command to a handler, in a state that differs from
the server's in time stamps and counters only. -/

namespace TicTacToe
namespace Server
variable {s t u : Server} {r r' : RoomId} {G : IdSource} {c : ConnectionId} {commandId : CommandId}
  {token : SessionToken} {p : PlayerId} {i : Input}

/-! ### What the router changes itself -/

theorem authenticate_still (s : Server) (c : ConnectionId) (token : SessionToken) (p : PlayerId) :
    Still G s (s.authenticate c token p) :=
  ⟨.of_sessions rfl (Nat.le_refl _) rfl, fun _ => rfl, fun _ => rfl, rfl, fun _ => rfl⟩

theorem registerPlayerConnection_still (s : Server) (p : PlayerId) (c : ConnectionId) :
    Still G s (s.registerPlayerConnection p c) :=
  ⟨.of_sessions rfl (Nat.le_refl _) rfl, fun _ => rfl, fun _ => rfl, rfl, fun _ => rfl⟩

theorem unregister_still (s : Server) (c : ConnectionId) : Still G s (s.unregister c) :=
  ⟨.of_sessions rfl (Nat.le_refl _) rfl, fun _ => rfl, fun _ => rfl, rfl, fun _ => rfl⟩

theorem unregisterPlayerConnection_still (s : Server) (p : PlayerId) (c : ConnectionId) :
    Still G s (s.unregisterPlayerConnection p c) := by
  unfold unregisterPlayerConnection
  split
  · exact .refl s
  · exact ⟨.of_sessions rfl (Nat.le_refl _) rfl, fun _ => rfl, fun _ => rfl, rfl, fun _ => rfl⟩

theorem close_still (s : Server) (c : ConnectionId) (e : Option WireEvent) : Still G s (s.close c e) := by
  cases e with
  | none => exact unregister_still s c
  | some e => exact (send_quiet s c e).still.trans (unregister_still _ c)

theorem sendError_still (s : Server) (c : ConnectionId) (code : ErrorCode) (correlationId : Option CommandId) :
    Still G s (s.sendError c code correlationId) := by
  unfold sendError
  dsimp only
  split
  · exact close_still s c _
  · exact (send_quiet s c _).still

/-- Binding a connection to the session of an `AUTH_ACK`. -/
theorem bindConnection_cases (c : ConnectionId) (result : HandlerResult) :
    bindConnection c result = result ∨
    ∃ c' token p version room id ds, result.deliveries = .connection c' (.event (.authAck token p version room id)) :: ds ∧
      bindConnection c result =
        { result with server := (result.server.authenticate c token p).registerPlayerConnection p c } := by
  unfold bindConnection
  split
  · rename_i c' token p version room id ds he
    exact Or.inr ⟨c', token, p, version, room, id, ds, he, rfl⟩
  · exact Or.inl rfl

theorem bindConnection_still (c : ConnectionId) (result : HandlerResult) :
    Still G result.server (bindConnection c result).server := by
  rcases bindConnection_cases c result with h | ⟨_, token, p, _, _, _, _, -, h⟩
  · rw [h]
    exact .refl _
  · rw [h]
    exact (authenticate_still _ c token p).trans (registerPlayerConnection_still _ p c)

theorem registerReconnected_still (c : ConnectionId) (p : Option PlayerId) (result : HandlerResult) :
    Still G result.server (registerReconnected c p result).server := by
  cases p with
  | none => exact .refl _
  | some p => exact registerPlayerConnection_still _ p c

theorem conclude_quiet (G : IdSource) (c : ConnectionId) (commandId : CommandId) (result : HandlerResult) :
    Quiet result.server (conclude G c commandId result) := by
  unfold conclude
  split
  · exact (drawIds_quiet _ 1).trans (send_quiet _ _ _)
  · exact deliver_quiet _ _

/-! ### Routed frames -/

/-- The frame of input `i` brings `command` to its handler, for a connection with record `rec`. -/
structure Routed (s : Server) (i : Input) (c : ConnectionId) (rec : ConnectionRecord) (command : Command) : Prop where
  frame : ∃ frame diskFails, i = .frame c frame diskFails ∧ frame.byteLength ≤ MAX_FRAME_BYTES ∧
    frame.parseResult = .ok command
  withinRateLimit : (s.touchConnection c).withinRateLimit c = true
  connection : s.connections.get c = some rec
  permitted : rec.authenticated = true ∨ isAuthExempt command.body = true
  session : ∀ token, rec.authenticated = true → rec.sessionToken = some token → (s.getSession token).isSome

/-- A frame brings one command. -/
theorem Routed.unique {c' : ConnectionId} {rec rec' : ConnectionRecord} {command command' : Command}
    (h : s.Routed i c rec command) (h' : s.Routed i c' rec' command') : c = c' ∧ rec = rec' ∧ command = command' := by
  obtain ⟨frame, diskFails, rfl, -, hparse⟩ := h.frame
  obtain ⟨frame', diskFails', hi, -, hparse'⟩ := h'.frame
  obtain ⟨rfl, rfl, rfl⟩ := Input.frame.inj hi
  have hrec := h.connection.symm.trans h'.connection
  have hcommand := hparse.symm.trans hparse'
  exact ⟨rfl, Option.some.inj hrec, Except.ok.inj hcommand⟩

/-- The server in which the command of a routed frame is dispatched. -/
def arrived (s : Server) (c : ConnectionId) (rec : ConnectionRecord) : Server :=
  let counted := (s.touchConnection c).countFrame c
  match (if rec.authenticated then rec.sessionToken else none) with
  | none => counted
  | some token => counted.touchSession token

theorem countFrame_touchConnection_quiet (s : Server) (c : ConnectionId) :
    Quiet s ((s.touchConnection c).countFrame c) := (touchConnection_quiet s c).trans (countFrame_quiet _ c)

theorem arrived_quiet (s : Server) (c : ConnectionId) (rec : ConnectionRecord) : Quiet s (s.arrived c rec) := by
  unfold arrived
  dsimp only
  split
  · exact countFrame_touchConnection_quiet s c
  · exact (countFrame_touchConnection_quiet s c).trans (touchSession_quiet _ _)

/-- The arrival of a frame changes time stamps and counters. -/
theorem arrived_frame (s : Server) (c : ConnectionId) (rec : ConnectionRecord) : ∃ connections sessions,
    s.arrived c rec = { s with connections := connections, sessions := sessions } ∧
    (∀ c', connections.has c' = s.connections.has c') ∧
    ∀ token, (sessions.sessions.get token).map PlayerSession.roomId =
      (s.sessions.sessions.get token).map PlayerSession.roomId := by
  have hhas : ∀ c', ((s.touchConnection c).countFrame c).connections.has c' = s.connections.has c' := by
    intro c'
    simp only [JsMap.has, touchConnection, countFrame, JsMap.get_modify]
    split <;> simp
  unfold arrived
  dsimp only
  split
  · exact ⟨_, _, rfl, hhas, fun _ => rfl⟩
  · refine ⟨_, _, rfl, hhas, fun token => ?_⟩
    simp only [touchConnection, countFrame, SessionStore.touch, JsMap.get_modify]
    split
    · cases s.sessions.sessions.get token <;> rfl
    · rfl

theorem arrived_wire (s : Server) (c : ConnectionId) (rec : ConnectionRecord) : (s.arrived c rec).wire = s.wire := by
  obtain ⟨connections, sessions, harrived, -⟩ := arrived_frame s c rec
  rw [harrived]

/-- Handlers do not look at the time stamps and counters of the connection. -/
theorem dispatch_congr {rec rec' : ConnectionRecord} (h : rec'.identity = rec.identity) (s : Server)
    (c : ConnectionId) (command : Command) (diskFails : Bool) :
    s.dispatch G c rec' command diskFails = s.dispatch G c rec command diskFails := by
  have htoken : rec'.sessionToken = rec.sessionToken := congrArg (fun x => x.1) h
  have hplayer : rec'.playerId = rec.playerId := congrArg (fun x => x.2.1) h
  unfold dispatch
  rw [htoken, hplayer]

/-- Without a session only `AUTH` and `PING` have an effect. -/
theorem dispatch_unbound {rec : ConnectionRecord} {command : Command} (htoken : rec.sessionToken = none)
    (hbody : isAuthExempt command.body = false) (diskFails : Bool) : s.dispatch G c rec command diskFails = s.ok [] := by
  obtain ⟨id, body⟩ := command
  cases body with
  | auth guestToken | ping clientTime => cases hbody
  | _ => simp only [dispatch, htoken]

theorem connection_counted {rec : ConnectionRecord} (h : s.connections.get c = some rec) :
    ∃ rec', ((s.touchConnection c).countFrame c).connections.get c = some rec' ∧ rec'.identity = rec.identity := by
  have hq := (countFrame_touchConnection_quiet s c).connections c
  rw [h, Option.map_some] at hq
  exact Option.map_eq_some_iff.mp hq

/-- A routed frame is handled by its command's handler. -/
theorem handleFrame_routed {frame : RawFrame} {diskFails : Bool} {rec : ConnectionRecord} {command : Command}
    (h : s.Routed (.frame c frame diskFails) c rec command) :
    s.handleFrame G c frame diskFails =
      conclude G c command.commandId ((s.arrived c rec).dispatch G c rec command diskFails) := by
  obtain ⟨frame', diskFails', hi, hsize, hparse⟩ := h.frame
  obtain ⟨-, rfl, rfl⟩ := Input.frame.inj hi
  obtain ⟨rec', hrec', hid⟩ := connection_counted h.connection
  have hauth : rec'.authenticated = rec.authenticated := congrArg (fun x => x.2.2) hid
  have htoken : rec'.sessionToken = rec.sessionToken := congrArg (fun x => x.1) hid
  have hguard : (!rec.authenticated && !isAuthExempt command.body) = false := by
    rcases h.permitted with hp | hp <;> simp [hp]
  unfold handleFrame
  rw [if_neg (Nat.not_lt.mpr hsize)]
  simp only [h.withinRateLimit, Bool.not_true, Bool.false_eq_true, ↓reduceIte, hparse, handleCommand, hrec', hauth,
    htoken, hguard, arrived]
  cases htok : (if rec.authenticated then rec.sessionToken else none) with
  | none => simp only [dispatch_congr hid]
  | some token =>
    have hvalid : (s.getSession token).isSome := by
      cases ha : rec.authenticated with
      | false => simp [ha] at htok
      | true => exact h.session token ha (by simpa [ha] using htok)
    obtain ⟨session, hs⟩ := Option.isSome_iff_exists.mp hvalid
    have hs' : ((s.touchConnection c).countFrame c).getSession token = some session := hs
    simp only [hs', Option.isNone_some, Bool.false_eq_true, ↓reduceIte, afterGetSession_eq_self hs',
      dispatch_congr hid]

/-- The error with which the router itself answers a frame. -/
def frameError (s : Server) (c : ConnectionId) (frame : RawFrame) : Option ErrorCode :=
  if frame.byteLength > MAX_FRAME_BYTES then some .MESSAGE_TOO_LARGE
  else if !(s.touchConnection c).withinRateLimit c then some .RATE_LIMITED
  else match frame.parseResult with
    | .error reason => some (parseFailureCode reason)
    | .ok command =>
      (s.connections.get c).bind fun rec =>
        if !rec.authenticated && !isAuthExempt command.body then some .NOT_AUTHENTICATED
        else if rec.authenticated && rec.sessionToken.any (fun token => (s.getSession token).isNone) then
          some .SESSION_EXPIRED
        else none

/-- A frame that is not routed is answered by an error or ignored. -/
theorem handleFrame_cases (s : Server) (c : ConnectionId) (frame : RawFrame) (diskFails : Bool) :
    (∃ u code correlationId, s.frameError c frame = some code ∧ Quiet s u ∧ (u.wire = s.wire ∧ u.rooms = s.rooms) ∧
      s.handleFrame G c frame diskFails = u.sendError c code correlationId) ∨
    (Quiet s (s.handleFrame G c frame diskFails) ∧ (s.handleFrame G c frame diskFails).wire = s.wire ∧
      (s.handleFrame G c frame diskFails).rooms = s.rooms) ∨
    ∃ rec command, s.Routed (.frame c frame diskFails) c rec command := by
  by_cases hsize : frame.byteLength > MAX_FRAME_BYTES
  · exact Or.inl ⟨s, _, _, by rw [frameError, if_pos hsize], .refl s, ⟨rfl, rfl⟩, by rw [handleFrame, if_pos hsize]⟩
  have hq := countFrame_touchConnection_quiet s c
  cases hrate : (s.touchConnection c).withinRateLimit c with
  | false =>
    refine Or.inl ⟨_, .RATE_LIMITED, none, ?_, hq, ⟨rfl, rfl⟩, ?_⟩
    · simp only [frameError, hsize, hrate, ↓reduceIte, Bool.not_false]
    · simp only [handleFrame, hsize, hrate, ↓reduceIte, Bool.not_false]
  | true =>
    cases hparse : frame.parseResult with
    | error reason =>
      refine Or.inl ⟨_, parseFailureCode reason, none, ?_, hq, ⟨rfl, rfl⟩, ?_⟩
      · simp only [frameError, hsize, hrate, hparse, ↓reduceIte, Bool.not_true, Bool.false_eq_true]
      · simp only [handleFrame, hsize, hrate, hparse, ↓reduceIte, Bool.not_true, Bool.false_eq_true]
    | ok command =>
      have hframe : s.handleFrame G c frame diskFails =
          ((s.touchConnection c).countFrame c).handleCommand G c command diskFails := by
        simp only [handleFrame, hsize, hrate, hparse, ↓reduceIte, Bool.not_true, Bool.false_eq_true]
      rw [hframe]
      cases hrec : s.connections.get c with
      | none =>
        have hrec' : ((s.touchConnection c).countFrame c).connections.get c = none := by
          have hsame := hq.connections c
          rw [hrec, Option.map_none] at hsame
          exact Option.map_eq_none_iff.mp hsame
        refine Or.inr (Or.inl ?_)
        simp only [handleCommand, hrec']
        exact ⟨hq, rfl, rfl⟩
      | some rec =>
        obtain ⟨rec', hrec', hid⟩ := connection_counted hrec
        have hauth : rec'.authenticated = rec.authenticated := congrArg (fun x => x.2.2) hid
        have htoken : rec'.sessionToken = rec.sessionToken := congrArg (fun x => x.1) hid
        have herror : s.frameError c frame = if !rec.authenticated && !isAuthExempt command.body then
            some .NOT_AUTHENTICATED else if rec.authenticated && rec.sessionToken.any (fun token =>
              (s.getSession token).isNone) then some .SESSION_EXPIRED else none := by
          simp only [frameError, hsize, hrate, hparse, hrec, ↓reduceIte, Bool.not_true, Bool.false_eq_true,
            Option.bind_some]
        cases hguard : (!rec.authenticated && !isAuthExempt command.body) with
        | true =>
          refine Or.inl ⟨_, .NOT_AUTHENTICATED, some command.commandId, ?_, hq, ⟨rfl, rfl⟩, ?_⟩
          · rw [herror, if_pos hguard]
          · simp only [handleCommand, hrec', hauth, hguard, ↓reduceIte]
        | false =>
          have hpermitted : rec.authenticated = true ∨ isAuthExempt command.body = true := by
            cases ha : rec.authenticated <;> simp [ha] at hguard ⊢
            exact hguard
          by_cases hsession : ∀ token, rec.authenticated = true → rec.sessionToken = some token →
              (s.getSession token).isSome
          · exact Or.inr (Or.inr ⟨rec, command, ⟨frame, diskFails, rfl, Nat.not_lt.mp hsize, hparse⟩, hrate, hrec,
              hpermitted, hsession⟩)
          · simp only [not_forall] at hsession
            obtain ⟨token, ha, ht, hnone⟩ := hsession
            have hnone' : ((s.touchConnection c).countFrame c).getSession token = none :=
              Option.not_isSome_iff_eq_none.mp hnone
            refine Or.inl ⟨_, .SESSION_EXPIRED, some command.commandId, ?_,
              hq.trans (afterGetSession_quiet _ token), ⟨rfl, rfl⟩, ?_⟩
            · rw [herror, if_neg (by simp [hguard]), if_pos (by simpa [ha, ht] using hnone)]
            · simp [handleCommand, hrec', hauth, htoken, ha, ht, hnone']

/-! ### The handler of a command -/

/-- What is delivered when the response is in the dedup cache. -/
def replies (c : ConnectionId) : CommandBody → WireEvent → List Delivery
  | .requestRematch .. => fun _ => []
  | .acceptRematch .. => fun _ => []
  | .declineRematch .. => fun _ => []
  | _ => resend c

/-- What the router does after a handler that is not `handleAuth`. -/
def linked (c : ConnectionId) (rec : ConnectionRecord) : CommandBody → HandlerResult → HandlerResult
  | .reconnect .. => registerReconnected c rec.playerId
  | _ => id

theorem linked_still (c : ConnectionId) (rec : ConnectionRecord) (body : CommandBody) (result : HandlerResult) :
    Still G result.server (linked c rec body result).server := by
  cases body with
  | reconnect r lastReceivedSeq => exact registerReconnected_still c rec.playerId result
  | _ => exact .refl _

end Server

/-- The command behind an action in room `r`, where `H` are the processed commands with their players. -/
def RoomAction.Commanded (H : Command → PlayerId → Prop) (diskFails : Bool) (r : RoomId) : RoomAction → Prop
  | .idle => True
  | .rejoined p => ∃ id name, H ⟨id, .joinRoom r name⟩ p
  | .entered p => ∃ id name, H ⟨id, .joinRoom r name⟩ p
  | .left p => ∃ id, H ⟨id, .leaveRoom r⟩ p
  | .leaveThrew p => diskFails = true ∧ ∃ id, H ⟨id, .leaveRoom r⟩ p
  | .readied p => ∃ id, H ⟨id, .playerReady r⟩ p
  | .moved p id gameId position => H ⟨id, .makeMove r gameId position⟩ p
  | .moveThrew p id gameId position => diskFails = true ∧ H ⟨id, .makeMove r gameId position⟩ p
  | .rematchRequested p gameId => ∃ id, H ⟨id, .requestRematch r gameId⟩ p
  | .rematchAccepted p gameId => ∃ id, H ⟨id, .acceptRematch r gameId⟩ p
  | .rematchDeclined p gameId => ∃ id, H ⟨id, .declineRematch r gameId⟩ p
  | .reconnected p => ∃ id lastReceivedSeq, H ⟨id, .reconnect r lastReceivedSeq⟩ p
  | _ => False

theorem RoomAction.Commanded.mono {H K : Command → PlayerId → Prop} {diskFails : Bool} {r : RoomId} {a : RoomAction}
    (h : a.Commanded H diskFails r) (hHK : ∀ command p, H command p → K command p) : a.Commanded K diskFails r := by
  cases a with
  | idle => trivial
  | rejoined p | entered p | reconnected p =>
    obtain ⟨id, x, h⟩ := h
    exact ⟨id, x, hHK _ _ h⟩
  | left p | readied p | rematchRequested p gameId | rematchAccepted p gameId | rematchDeclined p gameId =>
    obtain ⟨id, h⟩ := h
    exact ⟨id, hHK _ _ h⟩
  | leaveThrew p =>
    obtain ⟨hd, id, h⟩ := h
    exact ⟨hd, id, hHK _ _ h⟩
  | moved p id gameId position => exact hHK _ _ h
  | moveThrew p id gameId position => exact ⟨h.1, hHK _ _ h.2⟩
  | _ => exact h

namespace Server
variable {s t u : Server} {r r' : RoomId} {G : IdSource} {c : ConnectionId} {commandId : CommandId}
  {token : SessionToken} {p : PlayerId} {i : Input}

/-- A processed command does nothing, or something to one room, and records its response. -/
structure Done (G : IdSource) (s : Server) (command : Command) (diskFails : Bool) (p : PlayerId)
    (result : HandlerResult) : Prop where
  acts : Still G s result.server ∨ ∃ r a, a ≠ .idle ∧ Acts G s result.server r a ∧
    a.Commanded (fun cmd q => cmd = command ∧ q = p) diskFails r
  records : s.Records command.commandId result

/-- The handlers of the commands that need a session. -/
theorem dispatch_handling (hk : s.Keyed) {rec : ConnectionRecord} (htoken : rec.sessionToken = some token)
    (c : ConnectionId) (command : Command) (diskFails : Bool) (hbody : isAuthExempt command.body = false) :
    ∃ result, Handling s c command.commandId token (replies c command.body) (Done G s command diskFails) result ∧
      s.dispatch G c rec command diskFails = linked c rec command.body result := by
  obtain ⟨id, body⟩ := command
  unfold dispatch
  rw [htoken]
  cases body with
  | auth guestToken => cases hbody
  | ping clientTime => cases hbody
  | joinRoom r name =>
    refine ⟨_, (handleJoinRoom_handling (G := G) s c id r name token).mono fun p h => ?_, rfl⟩
    obtain ⟨hacts | hacts, hrecords⟩ := h
    · exact ⟨Or.inr ⟨r, _, by simp, hacts, id, name, rfl, rfl⟩, hrecords⟩
    · exact ⟨Or.inr ⟨r, _, by simp, hacts, id, name, rfl, rfl⟩, hrecords⟩
  | leaveRoom r =>
    refine ⟨_, (handleLeaveRoom_handling (G := G) hk c id r token diskFails).mono fun p h => ?_, rfl⟩
    obtain ⟨hacts | ⟨hdisk, hacts⟩, hrecords⟩ := h
    · exact ⟨Or.inr ⟨r, _, by simp, hacts, id, rfl, rfl⟩, hrecords⟩
    · exact ⟨Or.inr ⟨r, _, by simp, hacts, hdisk, id, rfl, rfl⟩, hrecords⟩
  | playerReady r =>
    exact ⟨_, (handlePlayerReady_handling (G := G) s c id r token).mono fun p h =>
      ⟨Or.inr ⟨r, _, by simp, h.1, id, rfl, rfl⟩, h.2⟩, rfl⟩
  | makeMove r gameId position =>
    refine ⟨_, (handleMakeMove_handling (G := G) hk c id r gameId position token diskFails).mono fun p h => ?_, rfl⟩
    obtain ⟨⟨-, hacts⟩ | ⟨hdisk, hacts⟩, hrecords, -⟩ := h
    · exact ⟨Or.inr ⟨r, _, by simp, hacts, rfl, rfl⟩, hrecords⟩
    · exact ⟨Or.inr ⟨r, _, by simp, hacts, hdisk, rfl, rfl⟩, hrecords⟩
  | requestRematch r gameId =>
    exact ⟨_, (handleRequestRematch_handling (G := G) s c id r gameId token).mono fun p h =>
      ⟨Or.inr ⟨r, _, by simp, h.1, id, rfl, rfl⟩, h.2.1⟩, rfl⟩
  | acceptRematch r gameId =>
    exact ⟨_, (handleAcceptRematch_handling (G := G) s c id r gameId token).mono fun p h =>
      ⟨Or.inr ⟨r, _, by simp, h.1, id, rfl, rfl⟩, h.2.1⟩, rfl⟩
  | declineRematch r gameId =>
    exact ⟨_, (handleDeclineRematch_handling (G := G) s c id r gameId token).mono fun p h =>
      ⟨Or.inr ⟨r, _, by simp, h.1, id, rfl, rfl⟩, h.2.1⟩, rfl⟩
  | reconnect r lastReceivedSeq =>
    exact ⟨_, (handleReconnect_handling (G := G) s c id r lastReceivedSeq token).mono fun p h =>
      ⟨Or.inr ⟨r, _, by simp, h.1, id, lastReceivedSeq, rfl, rfl⟩, h.2⟩, rfl⟩
  | syncRequest r fromSeq =>
    exact ⟨_, (handleSyncRequest_handling (G := G) s c id r fromSeq token).mono fun p h =>
      ⟨Or.inl h.1, h.2⟩, rfl⟩

end Server
end TicTacToe
