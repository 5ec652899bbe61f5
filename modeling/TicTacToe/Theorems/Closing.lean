import TicTacToe.Theorems.Progress
import TicTacToe.Theorems.Recall
import TicTacToe.Theorems.SessionLife

/-! # Why connections are closed

The server closes a connection for a cause: nobody has authenticated in time, nothing has been heard for too long, the
session has outlived its seven days, or the client speaks another version of the protocol. -/

namespace TicTacToe

/-- A sign of life on connection `c`: it resets the idle timer. -/
def Input.refreshes (c : ConnectionId) : Input → Bool
  | .frame c' raw _ => c' = c && raw.byteLength ≤ MAX_FRAME_BYTES
  | .wsPong c' => c' = c
  | _ => false

/-- The record of connection `c` when input `i` has arrived. -/
def ConnectionRecord.received (rec : ConnectionRecord) (now : Millis) (c : ConnectionId) (i : Input) : ConnectionRecord :=
  if i.refreshes c then
    { rec with
      lastMessageAt := now
      idleTimer := some (now + CONNECTION_IDLE_TIMEOUT_MS)
      rateBucket := match i with
        | .frame .. => Server.countMessage now rec.rateBucket
        | _ => rec.rateBucket }
  else rec

/-- The record of a connection that is bound to a session. -/
def ConnectionRecord.bound (rec : ConnectionRecord) (token : SessionToken) (p : PlayerId) : ConnectionRecord :=
  { rec with sessionToken := some token, playerId := some p, authenticated := true, authTimer := none }

namespace ConnectionRecord
variable (rec : ConnectionRecord) (now : Millis) (c : ConnectionId) (i : Input)

@[simp] theorem received_identity : (rec.received now c i).identity = rec.identity := by
  unfold received
  split <;> rfl

@[simp] theorem received_sessionToken : (rec.received now c i).sessionToken = rec.sessionToken :=
  congrArg (fun x => x.1) (rec.received_identity now c i)

@[simp] theorem received_authTimer : (rec.received now c i).authTimer = rec.authTimer := by
  unfold received
  split <;> rfl

theorem received_idleTimer : (rec.received now c i).idleTimer =
    if i.refreshes c then some (now + CONNECTION_IDLE_TIMEOUT_MS) else rec.idleTimer := by
  unfold received
  split <;> rfl

variable {c i} in
/-- An input that is no sign of life of `c` leaves its record alone. -/
theorem received_of_silent (hi : i.refreshes c = false) : rec.received now c i = rec := by
  simp [received, hi]

end ConnectionRecord

namespace Server
variable {s t u : Server} {G : IdSource} {i : Input} {c c' : ConnectionId} {id : CommandId} {token : SessionToken}
  {p : PlayerId} {rec rec' : ConnectionRecord}

/-! ### What a new session leaves behind -/

/-- The session of an acknowledgement is live, and the acknowledgement is what the cache keeps. -/
structure Introduces (s : Server) (c : ConnectionId) (id : CommandId) (result : HandlerResult) (token : SessionToken)
    (e : WireEvent) : Prop where
  deliveries : result.deliveries = [.connection c e]
  acknowledged : ∃ p, e.acknowledged = some (token, p)
  cached : result.server.cached id = some ⟨id, e, s.now⟩
  live : result.server.getSession token ≠ none

theorem acknowledgeAuth_introduces (c : ConnectionId) (id : CommandId) {session : PlayerSession}
    (hs : t.getSession session.sessionToken ≠ none) (hnow : t.now = s.now) :
    ∃ e, s.Introduces c id (t.acknowledgeAuth c id session) session.sessionToken e := by
  have hfound : ∀ u : Server, (u.existingRoom session).1.getSession session.sessionToken = none →
      u.getSession session.sessionToken = none := by
    intro u
    unfold existingRoom
    split
    · exact fun h => h
    dsimp only
    split
    · exact fun h => h
    · simp only [setSessionRoom, getSession, SessionStore.getSession, SessionStore.setRoom, JsMap.lookup, JsMap.get_modify,
        ↓reduceIte, afterGetRoom]
      cases u.sessions.sessions.get session.sessionToken with
      | none => exact fun h => h
      | some stored => simp [PlayerSession.isExpired]
  have htouched : (t.touchSession session.sessionToken).getSession session.sessionToken ≠ none := by
    intro hnone
    have hsame := (touchSession_quiet t session.sessionToken).session session.sessionToken
    rw [Server.session, Server.session, hnone, Option.map_none] at hsame
    exact hs (Option.map_eq_none_iff.mp hsame.symm)
  have hrecords : Records s id (t.acknowledgeAuth c id session) := acknowledgeAuth_records hnow
  exact ⟨_, rfl, ⟨_, rfl⟩, hrecords.recorded _ rfl rfl, fun hnone => htouched (hfound _ hnone)⟩

/-- An `AUTH` that has not been answered before introduces a session, or acknowledges none. -/
theorem handleAuth_introduces (hi : s.Issuing G) (hc : s.cached id = none) (guestToken : Option SessionToken) :
    (∃ token e, s.Introduces c id (s.handleAuth G c id guestToken) token e) ∨
    (∃ e, (s.handleAuth G c id guestToken).deliveries = [.connection c e] ∧ e.acknowledged = none) ∧
      ∀ id', (s.handleAuth G c id guestToken).server.cached id' = s.cached id' := by
  have hq := afterLookup_quiet s id
  unfold handleAuth
  rcases unlessCached_cases s id (resend c) _ with ⟨entry, hentry, -⟩ | ⟨-, he⟩
  · rw [hc] at hentry
    cases hentry
  rw [he]
  generalize s.afterLookup id = u at hq
  cases guestToken.filter (· ≠ "") with
  | some token =>
    have hq₂ := afterGetSession_quiet u token
    dsimp only
    cases hs : u.getSession token with
    | none => exact Or.inr ⟨⟨_, rfl, rfl⟩, (hq.trans hq₂).cached⟩
    | some session =>
      left
      obtain ⟨htoken, -⟩ := (hq.issued G hi).session token session (JsMap.lookup_eq_some.mp hs).1
      have hlive : (u.afterGetSession token).getSession session.sessionToken ≠ none := by
        rw [htoken, getSession_afterGetSession, hs]
        exact Option.some_ne_none session
      obtain ⟨e, h⟩ := acknowledgeAuth_introduces c id hlive (hq.trans hq₂).now
      exact ⟨_, e, h⟩
  | none =>
    left
    have hcreated : ({ u with
        sessions := u.sessions.createSession u.now (G.sessionToken u.nextId) (G.playerId u.nextId)
        nextId := u.nextId + 1 } : Server).getSession
          (SessionStore.newSession u.now (G.sessionToken u.nextId) (G.playerId u.nextId)).sessionToken ≠ none := by
      simp [getSession, SessionStore.getSession, SessionStore.createSession, JsMap.lookup, SessionStore.newSession,
        PlayerSession.isExpired, SESSION_TTL_MS, Option.filter]
    obtain ⟨e, h⟩ := acknowledgeAuth_introduces c id hcreated hq.now
    exact ⟨_, e, h⟩

/-! ### What a step does to a connection -/

/-- A connection is bound to the session of the token, or the cache keeps an acknowledgement of it. -/
def Names (s : Server) (token : SessionToken) : Prop :=
  (∃ c rec, s.connections.get c = some rec ∧ rec.sessionToken = some token) ∨
    ∃ id entry p, s.cached id = some entry ∧ entry.result.acknowledged = some (token, p)

/-- Input `i` closes connection `c` with record `rec`. -/
inductive Closes (s : Server) (c : ConnectionId) (rec : ConnectionRecord) : Input → Prop
  | socket : s.Closes c rec (.socketClosed c)
  | authTimeout (hdue : s.due rec.authTimer = true) : s.Closes c rec (.authTimeout c)
  | idleTimeout (hdue : s.due rec.idleTimer = true) : s.Closes c rec (.idleTimeout c)
  | mismatch {frame : RawFrame} {diskFails : Bool} (hparse : frame.parseResult = .error .protocolVersionMismatch) :
    s.Closes c rec (.frame c frame diskFails)
  | expired {frame : RawFrame} {diskFails : Bool} {command : Command} {token : SessionToken}
    (hparse : frame.parseResult = .ok command) (hauth : rec.authenticated = true)
    (htoken : rec.sessionToken = some token) (hgone : s.getSession token = none) : s.Closes c rec (.frame c frame diskFails)

/-- What input `i` makes of the record of connection `c` in the step from `s` to `t`. -/
inductive RecordStep (G : IdSource) (s : Server) (i : Input) (t : Server) (c : ConnectionId) :
    Option ConnectionRecord → Option ConnectionRecord → Prop
  | absent : RecordStep G s i t c none none
  | opened {old : Option ConnectionRecord} (hi : i = .connect) (hc : c = G.connectionId s.nextId) :
    RecordStep G s i t c old (some (newConnection s.now))
  | received {rec : ConnectionRecord} : RecordStep G s i t c (some rec) (some (rec.received s.now c i))
  | bound {rec : ConnectionRecord} {token : SessionToken} {p : PlayerId} (hi : i.refreshes c = true)
    (hnamed : s.Names token ∨ t.getSession token ≠ none) :
    RecordStep G s i t c (some rec) (some ((rec.received s.now c i).bound token p))
  | closed {rec : ConnectionRecord} (hcause : s.Closes c rec i) : RecordStep G s i t c (some rec) none

theorem RecordStep.of_map {x : Option ConnectionRecord}
    (h : x = (s.connections.get c).map fun rec => rec.received s.now c i) :
    RecordStep G s i t c (s.connections.get c) x := by
  rw [h]
  cases s.connections.get c with
  | none => exact .absent
  | some rec => exact .received

theorem RecordStep.silent (hi : i.refreshes c = false) (x : Option ConnectionRecord) : RecordStep G s i t c x x := by
  cases x with
  | none => exact .absent
  | some rec =>
    have hstep : RecordStep G s i t c (some rec) (some (rec.received s.now c i)) := .received
    rwa [ConnectionRecord.received_of_silent rec s.now hi] at hstep

theorem RecordStep.of_same (hi : i.refreshes c = false) (h : t.connections.get c = s.connections.get c) :
    RecordStep G s i t c (s.connections.get c) (t.connections.get c) := by
  rw [h]
  exact .silent hi _

theorem counted_get {frame : RawFrame} (hsize : frame.byteLength ≤ MAX_FRAME_BYTES) (diskFails : Bool)
    (c' : ConnectionId) : ((s.touchConnection c).countFrame c).connections.get c' =
      (s.connections.get c').map fun rec => rec.received s.now c' (.frame c frame diskFails) := by
  by_cases hc : c = c'
  · subst hc
    rw [countFrame, JsMap.get_modify, if_pos rfl, touchConnection, JsMap.get_modify, if_pos rfl, Option.map_map]
    refine congrArg (fun f => Option.map f _) (funext fun rec => ?_)
    simp only [Function.comp_apply, ConnectionRecord.received, Input.refreshes, decide_true, Bool.true_and, hsize,
      ↓reduceIte]
  · rw [countFrame, JsMap.get_modify, if_neg hc, touchConnection, JsMap.get_modify, if_neg hc]
    have hsilent : (Input.frame c frame diskFails).refreshes c' = false := by simp [Input.refreshes, hc]
    simp only [ConnectionRecord.received_of_silent _ _ hsilent, Option.map_id']

/-- Errors close a connection or leave all of them alone. -/
theorem sendError_connections (s : Server) (c : ConnectionId) (code : ErrorCode) (correlationId : Option CommandId) :
    (s.sendError c code correlationId).connections =
      if (ERROR_META code).closesConnection then s.connections.delete c else s.connections := by
  obtain ⟨w, hw⟩ := send_frame s c (.event
    (makeErrorEvent code (ERROR_META code).summary (ERROR_META code).recoverable correlationId none))
  unfold sendError
  dsimp only
  split
  · rw [close, hw]
    rfl
  · rw [hw]

theorem conclude_connections (G : IdSource) (c : ConnectionId) (id : CommandId) (result : HandlerResult) :
    (conclude G c id result).connections = result.server.connections := by
  unfold conclude
  split
  · obtain ⟨w, hw⟩ := send_frame (result.server.drawIds 1) c (.event (makeErrorEvent .INTERNAL_ERROR
      (ERROR_META .INTERNAL_ERROR).summary (ERROR_META .INTERNAL_ERROR).recoverable (some id)
      (some (G.traceId result.server.nextId))))
    rw [hw]
    rfl
  · obtain ⟨w, hw⟩ := deliver_frame result.server result.deliveries
    rw [hw]

/-- No command but `AUTH` binds its connection. -/
theorem dispatch_connections_same {command : Command} (hbody : ∀ guestToken, command.body ≠ .auth guestToken)
    (c : ConnectionId) (rec : ConnectionRecord) (diskFails : Bool) :
    (s.dispatch G c rec command diskFails).server.connections = s.connections := by
  cases hexempt : isAuthExempt command.body with
  | true =>
    obtain ⟨id, body⟩ := command
    cases body with
    | auth guestToken => exact absurd rfl (hbody guestToken)
    | ping clientTime => rfl
    | _ => cases hexempt
  | false =>
    cases htoken : rec.sessionToken with
    | none => rw [dispatch_unbound htoken hexempt, ok]
    | some token =>
      obtain ⟨result, hconfined, hdispatch⟩ := dispatch_confined (G := G) htoken c command diskFails hexempt
      rw [hdispatch, ← hconfined.connections]
      cases command.body with
      | reconnect r lastReceivedSeq =>
        unfold linked registerReconnected
        cases rec.playerId <;> rfl
      | _ => rfl

/-- An `AUTH` binds its connection to a session that the cache acknowledges or that is live; no other command binds. -/
theorem dispatch_connections (hi : s.Issuing G) (c : ConnectionId) (rec : ConnectionRecord) (command : Command)
    (diskFails : Bool) : (s.dispatch G c rec command diskFails).server.connections = s.connections ∨
      ∃ token p, (s.Names token ∨ (s.dispatch G c rec command diskFails).server.getSession token ≠ none) ∧
        (s.dispatch G c rec command diskFails).server.connections = (s.authenticate c token p).connections := by
  by_cases hbody : ∃ guestToken, command.body = .auth guestToken
  · obtain ⟨id, body⟩ := command
    obtain ⟨guestToken, rfl⟩ := hbody
    have hsame := (handleAuth_confined G s c id guestToken).connections
    have hdispatch : s.dispatch G c rec ⟨id, .auth guestToken⟩ diskFails =
        bindConnection c (s.handleAuth G c id guestToken) := rfl
    rw [hdispatch]
    rcases bindConnection_cases c (s.handleAuth G c id guestToken) with
      he | ⟨c', token, p, version, room, id', ds, hds, he⟩
    · rw [he]
      exact Or.inl hsame
    refine Or.inr ⟨token, p, ?_, ?_⟩
    · rw [he]
      have hack : (WireEvent.event (.authAck token p version room id')).acknowledged = some (token, p) := rfl
      cases hc : s.cached id with
      | some entry =>
        have hrecalled : s.handleAuth G c id guestToken = s.ok (resend c (s.reread entry.result)) := by
          rcases handleAuth_cases (G := G) s c id guestToken with ⟨entry', hc', h⟩ | ⟨hnone, -⟩
          · rw [h, Option.some.inj (hc.symm.trans hc')]
          · rw [hc] at hnone
            cases hnone
        rw [hrecalled] at hds
        obtain ⟨hentry, -⟩ := List.cons.inj hds
        rw [← (Delivery.connection.inj hentry).2, acknowledged_reread] at hack
        exact Or.inl (Or.inr ⟨id, entry, p, hc, hack⟩)
      | none =>
        rcases handleAuth_introduces (c := c) hi hc guestToken with
          ⟨token', e, hnew⟩ | ⟨⟨e, hds', hnone⟩, -⟩
        · obtain ⟨p', hack'⟩ := hnew.acknowledged
          rw [hnew.deliveries] at hds
          obtain ⟨-, rfl⟩ := Delivery.connection.inj (List.cons.inj hds).1
          obtain ⟨rfl, -⟩ := Prod.mk.inj (Option.some.inj (hack'.symm.trans hack))
          exact Or.inr hnew.live
        · rw [hds'] at hds
          obtain ⟨-, rfl⟩ := Delivery.connection.inj (List.cons.inj hds).1
          cases hnone
    · rw [he, Server.registerPlayerConnection, Server.authenticate, hsame]
      rfl
  · exact Or.inl (dispatch_connections_same (fun guestToken h => hbody ⟨guestToken, h⟩) c rec diskFails)

theorem Names.of_quiet (h : Quiet s t) (hconnections : ∀ c, (t.connections.get c).bind ConnectionRecord.sessionToken =
    (s.connections.get c).bind ConnectionRecord.sessionToken) (hnames : t.Names token) : s.Names token := by
  rcases hnames with ⟨c, rec, hrec, htoken⟩ | ⟨id, entry, p, hentry, hack⟩
  · have hbound : (t.connections.get c).bind ConnectionRecord.sessionToken = some token :=
      Option.bind_eq_some_iff.mpr ⟨rec, hrec, htoken⟩
    rw [hconnections] at hbound
    exact Or.inl ⟨c, Option.bind_eq_some_iff.mp hbound⟩
  · exact Or.inr ⟨id, entry, p, (h.cached id).symm.trans hentry, hack⟩

/-- What a command does to the connections when it gets to its handler. -/
theorem Routed.record {frame : RawFrame} {command : Command} {diskFails : Bool} (hi : s.Issuing G)
    (h : s.Routed (.frame c frame diskFails) c rec command) (c' : ConnectionId) :
    RecordStep G s (.frame c frame diskFails) (s.handleFrame G c frame diskFails) c' (s.connections.get c')
      ((s.handleFrame G c frame diskFails).connections.get c') := by
  obtain ⟨frame', diskFails', hframe, hsize, -⟩ := h.frame
  obtain ⟨-, rfl, rfl⟩ := Input.frame.inj hframe
  have hq := arrived_quiet s c rec
  have hcounted := counted_get (s := s) (c := c) hsize diskFails
  have hnames : ∀ token, (s.arrived c rec).Names token → s.Names token := by
    intro token hnames
    refine hnames.of_quiet hq fun d => ?_
    rw [arrived_connections, hcounted]
    cases s.connections.get d with
    | none => rfl
    | some rec => simp only [Option.map_some, Option.bind_some, ConnectionRecord.received_sessionToken]
  have hend := conclude_quiet G c command.commandId ((s.arrived c rec).dispatch G c rec command diskFails)
  rw [handleFrame_routed h]
  rcases dispatch_connections (hq.issued G hi) c rec command diskFails with hsame | ⟨token, p, hnamed, hbound⟩
  · refine .of_map ?_
    rw [conclude_connections, hsame, arrived_connections, hcounted]
  rw [conclude_connections, hbound, Server.authenticate, JsMap.get_modify, arrived_connections, hcounted]
  split
  · rename_i hc
    subst hc
    rw [h.connection]
    refine .bound (by simp [Input.refreshes, hsize]) (hnamed.imp (hnames token) fun hlive hnone => hlive ?_)
    have hsame := hend.session token
    rw [Server.session, Server.session, hnone, Option.map_none] at hsame
    exact Option.map_eq_none_iff.mp hsame.symm
  · exact .of_map rfl

/-- What a frame does to the connections. -/
theorem handleFrame_record (hi : s.Issuing G) (c : ConnectionId) (frame : RawFrame) (diskFails : Bool)
    (c' : ConnectionId) : RecordStep G s (.frame c frame diskFails) (s.handleFrame G c frame diskFails) c'
      (s.connections.get c') ((s.handleFrame G c frame diskFails).connections.get c') := by
  by_cases hsize : frame.byteLength > MAX_FRAME_BYTES
  · have hsame : (s.handleFrame G c frame diskFails).connections = s.connections := by
      rw [handleFrame, if_pos hsize, sendError_connections]
      rfl
    refine .of_same ?_ (by rw [hsame])
    simp [Input.refreshes, hsize]
  have hle := Nat.not_lt.mp hsize
  have hcounted : ∀ t : Server, t.connections = ((s.touchConnection c).countFrame c).connections →
      RecordStep G s (.frame c frame diskFails) t c' (s.connections.get c') (t.connections.get c') := by
    intro t ht
    exact .of_map (by rw [ht, counted_get hle diskFails])
  -- An error that closes the connection of the frame.
  have hclosed : ∀ t : Server, t.connections = ((s.touchConnection c).countFrame c).connections.delete c →
      (∀ rec, s.connections.get c = some rec → s.Closes c rec (.frame c frame diskFails)) →
      RecordStep G s (.frame c frame diskFails) t c' (s.connections.get c') (t.connections.get c') := by
    intro t ht hcause
    rw [ht, JsMap.get_delete]
    split
    · rename_i hc
      subst hc
      cases hrec : s.connections.get c with
      | none => exact .absent
      | some rec => exact .closed (hcause rec hrec)
    · exact .of_map (counted_get hle diskFails c')
  cases hrate : (s.touchConnection c).withinRateLimit c with
  | false =>
    have hframe : s.handleFrame G c frame diskFails =
        ((s.touchConnection c).countFrame c).sendError c .RATE_LIMITED none := by
      simp only [handleFrame, hsize, hrate, ↓reduceIte, Bool.not_false]
    exact hcounted _ (by rw [hframe, sendError_connections]; rfl)
  | true =>
    cases hparse : frame.parseResult with
    | error reason =>
      have hframe : s.handleFrame G c frame diskFails =
          ((s.touchConnection c).countFrame c).sendError c (parseFailureCode reason) none := by
        simp only [handleFrame, hsize, hrate, hparse, ↓reduceIte, Bool.not_true, Bool.false_eq_true]
      cases reason with
      | protocolVersionMismatch =>
        exact hclosed _ (by rw [hframe, sendError_connections]; rfl) fun rec _ => .mismatch hparse
      | unknownMessageType | malformed => exact hcounted _ (by rw [hframe, sendError_connections]; rfl)
    | ok command =>
      have hframe : s.handleFrame G c frame diskFails =
          ((s.touchConnection c).countFrame c).handleCommand G c command diskFails := by
        simp only [handleFrame, hsize, hrate, hparse, ↓reduceIte, Bool.not_true, Bool.false_eq_true]
      cases hrec : s.connections.get c with
      | none =>
        have hrec' : ((s.touchConnection c).countFrame c).connections.get c = none := by
          rw [counted_get hle diskFails, hrec]
          rfl
        rw [hframe, handleCommand, hrec']
        exact hcounted _ rfl
      | some rec =>
        obtain ⟨rec', hrec', hid⟩ := connection_counted hrec
        have hauth : rec'.authenticated = rec.authenticated := congrArg (fun x => x.2.2) hid
        have htoken : rec'.sessionToken = rec.sessionToken := congrArg (fun x => x.1) hid
        cases hguard : (!rec.authenticated && !isAuthExempt command.body) with
        | true =>
          simp only [handleCommand, hrec', hauth, hguard, ↓reduceIte] at hframe
          exact hcounted _ (by rw [hframe, sendError_connections]; rfl)
        | false =>
          have hpermitted : rec.authenticated = true ∨ isAuthExempt command.body = true := by
            cases ha : rec.authenticated with
            | true => exact Or.inl rfl
            | false => simpa [ha] using hguard
          by_cases hsession : ∀ token, rec.authenticated = true → rec.sessionToken = some token →
              (s.getSession token).isSome
          · have hrouted : s.Routed (.frame c frame diskFails) c rec command :=
              ⟨⟨frame, diskFails, rfl, hle, hparse⟩, hrate, hrec, hpermitted, hsession⟩
            exact hrouted.record hi c'
          · simp only [not_forall] at hsession
            obtain ⟨token, ha, ht, hnone⟩ := hsession
            have hgone : s.getSession token = none := Option.not_isSome_iff_eq_none.mp hnone
            have hgone' : ((s.touchConnection c).countFrame c).getSession token = none := hgone
            simp only [handleCommand, hrec', hauth, htoken, ha, ht, hgone', Bool.not_true, Bool.false_and,
              Bool.false_eq_true, ↓reduceIte, Option.isNone_none] at hframe
            refine hclosed _ (by rw [hframe, sendError_connections]; rfl) fun rec₁ hrec₁ => ?_
            obtain rfl := Option.some.inj (hrec.symm.trans hrec₁)
            exact .expired hparse ha ht hgone

/-- A close of connection `c` leaves the others alone. -/
theorem RecordStep.of_delete (hother : ∀ d, d ≠ c → i.refreshes d = false) (ht : t.connections = s.connections.delete c)
    (hcause : ∀ rec, s.connections.get c = some rec → s.Closes c rec i) (c' : ConnectionId) :
    RecordStep G s i t c' (s.connections.get c') (t.connections.get c') := by
  by_cases hc : c = c'
  · subst hc
    rw [ht, JsMap.get_delete_self]
    cases hrec : s.connections.get c with
    | none => exact .absent
    | some rec => exact .closed (hcause rec hrec)
  · exact .of_same (hother c' (Ne.symm hc)) (by rw [ht, JsMap.get_delete_of_ne _ hc])

theorem close_connections (s : Server) (c : ConnectionId) (e : Option WireEvent) :
    (s.close c e).connections = s.connections.delete c := by
  cases e with
  | none => rfl
  | some e =>
    obtain ⟨w, hw⟩ := send_frame s c e
    rw [close, hw]
    rfl

/-- What a step does to a connection. -/
theorem step_record (hi : s.Issuing G) (h : s.step G i = some t) (c : ConnectionId) :
    RecordStep G s i t c (s.connections.get c) (t.connections.get c) := by
  unfold step at h
  cases i with
  | tick | createRoom | httpGetRoom | maintenance =>
    obtain rfl := Option.some.inj h
    exact .of_same rfl rfl
  | connect =>
    obtain rfl := Option.some.inj h
    rw [register, JsMap.get_set]
    split
    · rename_i hc
      exact .opened rfl hc.symm
    · exact .silent rfl _
  | frame c' frame diskFails =>
    obtain rfl := Option.some.inj h
    exact handleFrame_record hi c' frame diskFails c
  | socketClosed c' =>
    obtain rfl := Option.some.inj h
    exact .of_delete (fun _ _ => rfl) (handleClose_connections s c') (fun _ _ => .socket) c
  | authTimeout c' =>
    simp only [Option.ite_none_right_eq_some, Option.some.injEq] at h
    obtain ⟨hdue, rfl⟩ := h
    refine .of_delete (fun _ _ => rfl) (close_connections s c' _) (fun rec hrec => .authTimeout ?_) c
    rwa [hrec, Option.bind_some] at hdue
  | idleTimeout c' =>
    simp only [Option.ite_none_right_eq_some, Option.some.injEq] at h
    obtain ⟨hdue, rfl⟩ := h
    refine .of_delete (fun _ _ => rfl) (close_connections s c' _) (fun rec hrec => .idleTimeout ?_) c
    rwa [hrec, Option.bind_some] at hdue
  | wsPong c' =>
    obtain rfl := Option.some.inj h
    rw [touchConnection, JsMap.get_modify]
    split
    · rename_i hc
      subst hc
      refine .of_map (congrArg (fun f => Option.map f _) (funext fun rec => ?_))
      simp [ConnectionRecord.received, Input.refreshes]
    · rename_i hc
      exact .silent (by simp [Input.refreshes, hc]) _
  | reconnectWindow r p diskFails =>
    dsimp only at h
    split at h
    · cases h
    split at h
    · cases h
    split at h
    · split at h
      · cases h
      · obtain rfl := Option.some.inj h
        exact .of_same rfl (by rw [(fireReconnectWindow_apart s r _ p _ diskFails).connections])
    · cases h
  | rematchTimer r =>
    dsimp only at h
    split at h
    · split at h
      · cases h
      split at h
      · obtain rfl := Option.some.inj h
        exact .of_same rfl (by rw [(applyEmitted_apart s r _).connections])
      · cases h
    · cases h

/-! ### Where the sessions of connections come from -/

/-- What a command has put into the cache acknowledges a session that is named already or live. -/
theorem Routed.names {command : Command} {entry : DedupEntry} (hk : s.Keyed) (hi : s.Issuing G)
    (h : s.Routed i c rec command) (hstep : s.step G i = some t) (hentry : t.cached command.commandId = some entry)
    (hproduced : Produced rec command.body entry.result) (hack : entry.result.acknowledged = some (token, p)) :
    s.Names token ∨ t.getSession token ≠ none := by
  by_cases hbody : ∃ guestToken, command.body = .auth guestToken
  · obtain ⟨id, body⟩ := command
    obtain ⟨guestToken, rfl⟩ := hbody
    cases hc : s.cached id with
    | some entry' =>
      obtain rfl := Option.some.inj (hentry.symm.trans (h.cached_step hk hstep hc))
      exact Or.inl (Or.inr ⟨id, entry, p, hc, hack⟩)
    | none =>
      obtain ⟨frame, diskFails, rfl, -, -⟩ := h.frame
      have hq := arrived_quiet s c rec
      obtain rfl := Option.some.inj hstep
      have hlink : Relinked ((s.arrived c rec).handleAuth G c id guestToken)
          ((s.arrived c rec).dispatch G c rec ⟨id, .auth guestToken⟩ diskFails) := bindConnection_relinked c _
      obtain ⟨connections, registry, hserver, -⟩ := hlink.server
      have hend := conclude_quiet G c id ((s.arrived c rec).dispatch G c rec ⟨id, .auth guestToken⟩ diskFails)
      rw [handleFrame_routed h] at hentry ⊢
      have hcached : ((s.arrived c rec).handleAuth G c id guestToken).server.cached id = some entry := by
        rw [← hentry, hend.cached, hserver]
        rfl
      rcases handleAuth_introduces (c := c) (hq.issued G hi) ((hq.cached id).trans hc) guestToken with
        ⟨token', e, hnew⟩ | ⟨-, hsame⟩
      · obtain ⟨p', hack'⟩ := hnew.acknowledged
        obtain rfl := Option.some.inj (hcached.symm.trans hnew.cached)
        obtain ⟨rfl, -⟩ := Prod.mk.inj (Option.some.inj (hack.symm.trans hack'))
        refine Or.inr fun hnone => hnew.live ?_
        have hsession := hend.session token
        rw [Server.session, Server.session, hnone, Option.map_none, hserver] at hsession
        exact Option.map_eq_none_iff.mp hsession.symm
      · rw [hsame, hq.cached, hc] at hcached
        cases hcached
  · obtain ⟨token', hproducer, honly⟩ := hproduced
    obtain rfl := honly token p hack
    refine Or.inl (Or.inl ⟨c, rec, h.connection, ?_⟩)
    obtain ⟨id, body⟩ := command
    cases body with
    | auth guestToken => exact absurd ⟨guestToken, rfl⟩ hbody
    | _ => exact hproducer

/-- A session that is named after a step was named before, or is live. -/
theorem step_names (hk : s.Keyed) (hi : s.Issuing G) (h : s.step G i = some t) (hnames : t.Names token) :
    s.Names token ∨ t.getSession token ≠ none := by
  rcases hnames with ⟨c, rec, hrec, htoken⟩ | ⟨id, entry, p, hentry, hack⟩
  · have hrecord := step_record hi h c
    rw [hrec] at hrecord
    generalize hold : s.connections.get c = old at hrecord
    generalize hnew : some rec = new at hrecord
    cases hrecord with
    | absent | closed => cases hnew
    | opened =>
      obtain rfl := Option.some.inj hnew
      cases htoken
    | @received rec₀ =>
      obtain rfl := Option.some.inj hnew
      exact Or.inl (Or.inl ⟨c, rec₀, hold, by rw [← htoken, rec₀.received_sessionToken]⟩)
    | bound _ hnamed =>
      obtain rfl := Option.some.inj hnew
      obtain rfl := Option.some.inj htoken
      exact hnamed
  · rcases step_cached h hentry with hentry | ⟨c, rec, command, hrouted, rfl, hproduced⟩
    · exact Or.inl (Or.inr ⟨id, entry, p, hentry, hack⟩)
    · exact hrouted.names hk hi h hentry hproduced hack

/-! ### The history of a connection -/

section History
variable {C : Server → Input → Prop} {origin : Server}

/-- Nothing has been heard on connection `c` since a step at time `since`. -/
def SilentSince (G : IdSource) (C : Server → Input → Prop) (origin s : Server) (c : ConnectionId) (since : Millis) : Prop :=
  ∃ u i v, Runs G C origin u ∧ C u i ∧ u.step G i = some v ∧ u.now = since ∧
    Runs G (fun s i => C s i ∧ i.refreshes c = false) v s

/-- Connection `c` was opened at time `since` and has acted for nobody. -/
def UnknownSince (G : IdSource) (C : Server → Input → Prop) (origin s : Server) (c : ConnectionId) (since : Millis) :
    Prop :=
  s.actsFor c = none ∧ ∃ u v, Runs G C origin u ∧ C u .connect ∧ u.step G .connect = some v ∧ c = G.connectionId u.nextId ∧
    u.now = since ∧ Runs G (fun s i => C s i ∧ s.actsFor c = none) v s

/-- The session of the token was created at time `since`. -/
def CreatedAt (G : IdSource) (C : Server → Input → Prop) (origin s : Server) (token : SessionToken) (since : Millis) :
    Prop :=
  ∃ u i v session, Runs G C origin u ∧ C u i ∧ u.step G i = some v ∧ u.now = since ∧ u.getSession token = none ∧
    v.getSession token = some session ∧ Runs G C v s

/-- A named session has been created. -/
theorem runs_created {now : Millis} {version : String} {repository : HistoryRepository} (hn : G.NeverRepeats)
    (hrun : Runs G C (start now version repository) s) (h : s.Names token ∨ s.getSession token ≠ none) :
    ∃ since, CreatedAt G C (start now version repository) s token since := by
  induction hrun with
  | refl =>
    rcases h with (⟨c, rec, hrec, -⟩ | ⟨id, entry, p, hentry, -⟩) | hlive
    · cases hrec
    · cases hentry
    · exact absurd rfl hlive
  | @tail u t i hrun hc hstep ih =>
    have hu := runs_seats hn hrun
    have hknown : u.Names token ∨ u.getSession token ≠ none →
        ∃ since, CreatedAt G C (start now version repository) t token since := by
      intro hold
      obtain ⟨since, w, j, v, session, hw, hcw, hwv, hsince, hnone, hsession, hrest⟩ := ih hold
      exact ⟨since, w, j, v, session, hw, hcw, hwv, hsince, hnone, hsession, hrest.tail hc hstep⟩
    have hlive : t.getSession token ≠ none → ∃ since, CreatedAt G C (start now version repository) t token since := by
      intro hlive
      obtain ⟨session, hsession⟩ := Option.ne_none_iff_exists'.mp hlive
      cases hold : u.getSession token with
      | some session' => exact hknown (Or.inr (by rw [hold]; exact Option.some_ne_none _))
      | none => exact ⟨u.now, u, i, t, session, hrun, hc, hstep, rfl, hold, hsession, .refl⟩
    rcases h with hnames | h
    · exact (step_names hu.keyed hu.issuing hstep hnames).elim (fun hold => hknown (Or.inl hold)) hlive
    · exact hlive h

/-- The timers of a connection run from the last sign of life, and from its opening as long as it acts for nobody. -/
theorem runs_timers {now : Millis} {version : String} {repository : HistoryRepository} (hn : G.NeverRepeats)
    (hrun : Runs G C (start now version repository) s) (hrec : s.connections.get c = some rec) :
    (∃ since, SilentSince G C (start now version repository) s c since ∧
      rec.idleTimer = some (since + CONNECTION_IDLE_TIMEOUT_MS)) ∧
    ∀ deadline, rec.authTimer = some deadline → rec.identity = (none, none, false) ∧
      ∃ since, UnknownSince G C (start now version repository) s c since ∧ deadline = since + AUTH_TIMEOUT_MS := by
  induction hrun generalizing rec with
  | refl => cases hrec
  | @tail u t i hrun hc hstep ih =>
    have hsilent : i.refreshes c = true ∨ i = .connect →
        SilentSince G C (start now version repository) t c u.now := fun _ =>
      ⟨u, i, t, hrun, hc, hstep, rfl, .refl⟩
    have hrecord := step_record (runs_seats hn hrun).issuing hstep c
    rw [hrec] at hrecord
    generalize hold : u.connections.get c = old at hrecord
    generalize hnew : some rec = new at hrecord
    cases hrecord with
    | absent | closed => cases hnew
    | opened hi hid =>
      obtain rfl := Option.some.inj hnew
      subst hi
      refine ⟨⟨u.now, hsilent (Or.inr rfl), rfl⟩, fun deadline hd => ⟨rfl, u.now, ⟨?_, ?_⟩, (Option.some.inj hd).symm⟩⟩
      · simp [actsFor, hrec, newConnection]
      · exact ⟨u, t, hrun, hc, hstep, hid, rfl, .refl⟩
    | @received rec₀ =>
      obtain rfl := Option.some.inj hnew
      obtain ⟨⟨since, ⟨w, j, v, hw, hcw, hwv, hsince, hrest⟩, hidle⟩, hauth⟩ := ih hold
      refine ⟨?_, fun deadline hd => ?_⟩
      · rw [ConnectionRecord.received_idleTimer]
        cases hi : i.refreshes c with
        | true => exact ⟨u.now, hsilent (Or.inl hi), rfl⟩
        | false => exact ⟨since, ⟨w, j, v, hw, hcw, hwv, hsince, hrest.tail ⟨hc, hi⟩ hstep⟩, hidle⟩
      · rw [ConnectionRecord.received_authTimer] at hd
        obtain ⟨hid, since, ⟨hacts, w, v, hw, hcw, hwv, hopened, hsince, hrest⟩, hdeadline⟩ := hauth deadline hd
        refine ⟨(rec₀.received_identity _ _ _).trans hid, since, ⟨?_, w, v, hw, hcw, hwv, hopened, hsince,
          hrest.tail ⟨hc, hacts⟩ hstep⟩, hdeadline⟩
        have hplayer : (rec₀.received u.now c i).playerId = none :=
          congrArg (fun x => x.2.1) ((rec₀.received_identity u.now c i).trans hid)
        rw [actsFor, hrec, Option.bind_some, hplayer]
    | bound hi =>
      obtain rfl := Option.some.inj hnew
      refine ⟨⟨u.now, hsilent (Or.inl hi), ?_⟩, fun deadline hd => by cases hd⟩
      rw [ConnectionRecord.bound, ConnectionRecord.received_idleTimer, if_pos hi]

end History

end Server

open Server

/-- A connection that a step closes was closed by its socket; or nobody had authenticated on it since its opening, which
was `AUTH_TIMEOUT_MS` ago; or no frame and no pong had come from it for `CONNECTION_IDLE_TIMEOUT_MS`; or its client sent a
frame of another protocol version, or a command on a session that had been created more than `SESSION_TTL_MS` before. -/
theorem connection_closed_for_cause {G : IdSource} (hn : G.NeverRepeats) {C : Server → Input → Prop} {now : Millis}
    {version : String} {repository : HistoryRepository} {s t : Server} {i : Input} {c : ConnectionId}
    {rec : ConnectionRecord} (hrun : Runs G C (start now version repository) s) (hstep : s.step G i = some t)
    (hopen : s.connections.get c = some rec) (hclosed : t.connections.get c = none) :
    i = .socketClosed c ∨
    (i = .authTimeout c ∧ rec.authenticated = false ∧ ∃ since,
      UnknownSince G C (start now version repository) s c since ∧ AUTH_TIMEOUT_MS ≤ s.now - since) ∨
    (i = .idleTimeout c ∧ ∃ since,
      SilentSince G C (start now version repository) s c since ∧ CONNECTION_IDLE_TIMEOUT_MS ≤ s.now - since) ∨
    ∃ frame diskFails, i = .frame c frame diskFails ∧
      (frame.parseResult = .error .protocolVersionMismatch ∨ ∃ command token since, frame.parseResult = .ok command ∧
        rec.sessionToken = some token ∧ CreatedAt G C (start now version repository) s token since ∧
        SESSION_TTL_MS < s.now - since) := by
  have hs := runs_seats hn hrun
  have hrecord := step_record hs.issuing hstep c
  rw [hopen, hclosed] at hrecord
  obtain ⟨⟨since, hsilent, hidle⟩, hauth⟩ := runs_timers hn hrun hopen
  have hlate : ∀ {deadline since : Millis} {wait : Millis}, deadline = since + wait → s.due (some deadline) = true →
      wait ≤ s.now - since := by
    intro deadline since wait he hdue
    have hle : since + wait ≤ s.now := he ▸ of_decide_eq_true hdue
    exact Int.le_sub_left_of_add_le hle
  cases hrecord with
  | closed hcause =>
    cases hcause with
    | socket => exact Or.inl rfl
    | authTimeout hdue =>
      obtain ⟨deadline, hd, -⟩ := (Option.any_eq_true _ _).mp hdue
      obtain ⟨hid, since, hunknown, he⟩ := hauth deadline hd
      rw [hd] at hdue
      exact Or.inr (Or.inl ⟨rfl, congrArg (fun x => x.2.2) hid, since, hunknown, hlate he hdue⟩)
    | idleTimeout hdue =>
      rw [hidle] at hdue
      exact Or.inr (Or.inr (Or.inl ⟨rfl, since, hsilent, hlate rfl hdue⟩))
    | mismatch hparse => exact Or.inr (Or.inr (Or.inr ⟨_, _, rfl, Or.inl hparse⟩))
    | @expired frame diskFails command token hparse hauthenticated htoken hgone =>
      obtain ⟨since, hcreated⟩ := runs_created hn hrun (Or.inl (Or.inl ⟨c, rec, hopen, htoken⟩))
      refine Or.inr (Or.inr (Or.inr ⟨_, _, rfl, Or.inr ⟨command, token, since, hparse, htoken, hcreated, ?_⟩⟩))
      obtain ⟨u, j, v, session, hu, -, huv, rfl, hnone, hsession, hrest⟩ := hcreated
      have hseats := runs_seats hn hu
      obtain ⟨-, -, hbearer⟩ := runs_bearer hn (hseats.step hn huv)
        (created_bearer hseats.keyed hn hseats.issuing huv hnone hsession) hrest
      rw [bearer_eq_none.mpr hgone, Option.filter_some] at hbearer
      by_contra hwithin
      have hin : s.withinTtl u.now = true := decide_eq_true (Int.not_lt.mp hwithin)
      rw [if_pos hin] at hbearer
      cases hbearer

/-- Nobody authenticates on connection 0 for ten seconds. -/
theorem connection_closed_for_cause_timeout : ∃ s t since, Runs tallies (fun _ _ => True) fresh s ∧
    s.step tallies (.authTimeout (tally 'c' 0)) = some t ∧ t.connections.get (tally 'c' 0) = none ∧
    UnknownSince tallies (fun _ _ => True) fresh s (tally 'c' 0) since ∧ AUTH_TIMEOUT_MS ≤ s.now - since := by
  let opened := fresh.register tallies
  let s : Server := { opened with now := opened.now + (10000 : Nat) }
  have hrun : Runs tallies (fun _ _ => True) fresh s :=
    .tail (i := .tick 10000) (.tail (i := .connect) .refl trivial rfl) trivial rfl
  have hstep : s.step tallies (.authTimeout (tally 'c' 0)) = some (s.onAuthTimeout (tally 'c' 0)) := rfl
  have hclosed : (s.onAuthTimeout (tally 'c' 0)).connections.get (tally 'c' 0) = none := by decide +kernel
  rcases connection_closed_for_cause tallies_neverRepeats hrun hstep rfl hclosed with
    h | ⟨-, -, since, hunknown, hlate⟩ | ⟨h, -⟩ | ⟨_, _, h, -⟩
  · cases h
  · exact ⟨s, _, since, hrun, hstep, hclosed, hunknown, hlate⟩
  · cases h
  · cases h

end TicTacToe
