import TicTacToe.Theorems.Runs

/-! # Retries

A command that has been handled successfully has its response in the dedup cache; for as long as it stays
there, the command is answered from the cache and does nothing else. -/

namespace TicTacToe
namespace Server
variable {s t u : Server} {r : RoomId} {G : IdSource} {C : Server → Input → Prop} {c : ConnectionId}
  {commandId : CommandId} {token : SessionToken} {i : Input} {entry : DedupEntry}

/-! ### Success -/

/-- The response to a routed command. -/
def response (G : IdSource) (s : Server) (c : ConnectionId) (rec : ConnectionRecord) (command : Command)
    (diskFails : Bool) : Option WireEvent :=
  s.answer ((s.arrived c rec).dispatch G c rec command diskFails)

/-- The game session of room `r` takes a rematch command. -/
def rematchTaken (s : Server) (r : RoomId) (method : GameSession → RoomRecord → GameSession.RematchOutcome) : Bool :=
  (s.gameSessions.get r).any fun gs => (s.getRoom r).any fun room => (method gs room).taken

/-- The game session takes a rematch command of player `p`. -/
def takesRematch (G : IdSource) (s : Server) (p : PlayerId) : CommandBody → Bool
  | .requestRematch r gameId => s.rematchTaken r fun gs room => gs.handleRematchRequest s.now room p gameId
  | .acceptRematch r gameId => s.rematchTaken r fun gs room =>
    gs.handleRematchAccept s.now (G.gameId s.nextId, G.gameId (s.nextId + 1)) room p gameId
  | .declineRematch r gameId => s.rematchTaken r fun gs room => gs.handleRematchDecline room p gameId
  | _ => false

/-- A routed command is answered with something other than an error, or it is a rematch command that the game
session takes. -/
def Succeeds (G : IdSource) (s : Server) (c : ConnectionId) (rec : ConnectionRecord) (command : Command)
    (diskFails : Bool) : Prop :=
  (∃ e, s.response G c rec command diskFails = some e ∧ e.isError = false) ∨
    ∃ token p, rec.sessionToken = some token ∧ s.Processed token command.commandId p ∧
      s.takesRematch G p command.body = true

theorem Refuses.answer_isError {result : HandlerResult} (h : Refuses s c commandId result) {e : WireEvent}
    (he : s.answer result = some e) : e.isError = true := by
  obtain ⟨t, code, -, -, rfl⟩ := h
  obtain rfl := Option.some.inj he
  rfl

/-! ### What the router adds to a handler's result -/

/-- Only connections and their registry are changed, and no connection is opened or closed. -/
structure Relinked (result result' : HandlerResult) : Prop where
  deliveries : result'.deliveries = result.deliveries
  threw : result'.threw = result.threw
  server : ∃ connections registry, result'.server =
    { result.server with connections := connections, playerConnectionRegistry := registry } ∧
    ∀ c, connections.has c = result.server.connections.has c

theorem Relinked.refl (result : HandlerResult) : Relinked result result :=
  ⟨rfl, rfl, _, _, rfl, fun _ => rfl⟩

theorem Relinked.reread {result result' : HandlerResult} (h : Relinked result result') (e : WireEvent) :
    result'.server.reread e = result.server.reread e := by
  obtain ⟨connections, registry, hserver, -⟩ := h.server
  rw [hserver]
  rfl

theorem Relinked.answer {result result' : HandlerResult} (h : Relinked result result') :
    s.answer result' = s.answer result := by
  obtain ⟨connections, registry, hserver, -⟩ := h.server
  simp only [Server.answer, h.deliveries, h.threw, hserver]

theorem Relinked.cached {result result' : HandlerResult} (h : Relinked result result') (commandId : CommandId) :
    result'.server.cached commandId = result.server.cached commandId := by
  obtain ⟨connections, registry, hserver, -⟩ := h.server
  rw [hserver]
  rfl

theorem bindConnection_relinked (c : ConnectionId) (result : HandlerResult) :
    Relinked result (bindConnection c result) := by
  rcases bindConnection_cases c result with h | ⟨c', token, p, version, room, id, ds, -, h⟩
  · rw [h]
    exact .refl result
  · rw [h]
    refine ⟨rfl, rfl, _, _, rfl, fun c' => ?_⟩
    simp only [JsMap.has, authenticate, JsMap.get_modify]
    split <;> simp

theorem linked_relinked (c : ConnectionId) (rec : ConnectionRecord) (body : CommandBody) (result : HandlerResult) :
    Relinked result (linked c rec body result) := by
  cases body with
  | reconnect r lastReceivedSeq =>
    unfold linked registerReconnected
    cases rec.playerId with
    | none => exact .refl result
    | some p => exact ⟨rfl, rfl, _, _, rfl, fun _ => rfl⟩
  | _ => exact .refl result

/-- The arrival of a frame sends nothing. -/
theorem arrived_answer (s : Server) (c : ConnectionId) (rec : ConnectionRecord) (result : HandlerResult) :
    (s.arrived c rec).answer result = s.answer result := by
  have hlog : (s.arrived c rec).sendLog = s.sendLog := (arrived_quiet s c rec).sendLog
  simp only [answer, hlog]

/-! ### The response is recorded -/

theorem rematchCommand_taken {drawn : Nat} {refusal : Option GameSession → Option ErrorCode}
    {method : Server → GameSession → RoomRecord → PlayerId → GameSession.RematchOutcome} {session : PlayerSession}
    {room : RoomRecord} {gs : GameSession} (hs : s.getSession token = some session) (hc : s.cached commandId = none)
    (hroom : s.getRoom r = some room) (hgame : s.gameSessions.get r = some gs) (hrefusal : refusal (some gs) = none)
    (htaken : (method (s.afterLookup commandId) gs room session.playerId).taken = true) :
    (s.rematchCommand c commandId r token drawn refusal method).server.cached commandId =
      some ⟨commandId, .processed, s.now⟩ := by
  have hresult : s.sessions.getCachedResult s.now commandId = none := by
    simp only [SessionStore.getCachedResult]
    exact congrArg (Option.map DedupEntry.result) hc
  have hroom' : (s.afterLookup commandId).getRoom r = some room := hroom
  have hgame' : (s.afterLookup commandId).gameSessions.get r = some gs := hgame
  have hlooked : { s with sessions := s.sessions.afterGetCachedResult s.now commandId } = s.afterLookup commandId := rfl
  simp only [rematchCommand, roomCommand, withSession, hs, afterGetSession_eq_self hs, unlessCached, hresult, withRoom,
    hlooked, hroom', afterGetRoom_eq_self hroom', hgame', hrefusal, htaken, ↓reduceIte, ok]
  rw [cached_recordCommand]
  simp [applyEmitted, putGame, drawIds, putRoom, afterLookup]

/-- The session takes a rematch command only where the handler lets it through, and then it is recorded. -/
theorem takesRematch_recorded {rec : ConnectionRecord} {command : Command} {diskFails : Bool} {p : PlayerId}
    (htoken : rec.sessionToken = some token) (hp : s.Processed token command.commandId p)
    (h : s.takesRematch G p command.body = true) :
    (s.dispatch G c rec command diskFails).server.cached command.commandId =
      some ⟨command.commandId, .processed, s.now⟩ := by
  obtain ⟨⟨session, hs, rfl⟩, hc⟩ := hp
  obtain ⟨id, body⟩ := command
  have htaken : ∀ {r method}, s.rematchTaken r method = true → ∃ gs room, s.gameSessions.get r = some gs ∧
      s.getRoom r = some room ∧ (method gs room).taken = true := by
    intro r method hm
    obtain ⟨gs, hgs, hm⟩ := (Option.any_eq_true _ _).mp hm
    obtain ⟨room, hroom, hm⟩ := (Option.any_eq_true _ _).mp hm
    exact ⟨gs, room, hgs, hroom, hm⟩
  unfold dispatch
  rw [htoken]
  cases body with
  | requestRematch r gameId =>
    obtain ⟨gs, room, hgs, hroom, hm⟩ := htaken h
    refine rematchCommand_taken hs hc hroom hgs ?_ hm
    rcases GameSession.handleRematchRequest_cases gs s.now room session.playerId gameId with
      he | ⟨symbol, -, hnone, -, -⟩
    · rw [he] at hm
      cases hm
    · simp [hnone]
  | acceptRematch r gameId =>
    obtain ⟨gs, room, hgs, hroom, hm⟩ := htaken h
    refine rematchCommand_taken hs hc hroom hgs ?_ hm
    rcases GameSession.handleRematchAccept_cases gs s.now (G.gameId s.nextId, G.gameId (s.nextId + 1)) room
      session.playerId gameId with he | ⟨state, proposal, symbol, -, -, -, hproposal, -, -⟩
    · rw [he] at hm
      cases hm
    · simp [hproposal]
  | declineRematch r gameId =>
    obtain ⟨gs, room, hgs, hroom, hm⟩ := htaken h
    refine rematchCommand_taken hs hc hroom hgs ?_ hm
    rcases GameSession.handleRematchDecline_cases gs room session.playerId gameId with he | ⟨symbol, hsome, -, -⟩
    · rw [he] at hm
      cases hm
    · simpa using hsome
  | _ => cases h

/-- When the response to a command has been recorded, if it has been answered before, or is. -/
def recordedAt (s : Server) (commandId : CommandId) : Millis :=
  ((s.cached commandId).map DedupEntry.cachedAt).getD s.now

theorem recordedAt_of_cached (h : s.cached commandId = some entry) : s.recordedAt commandId = entry.cachedAt := by
  simp [recordedAt, h]

theorem recordedAt_of_uncached (h : s.cached commandId = none) : s.recordedAt commandId = s.now := by
  simp [recordedAt, h]

end Server

/-- A rematch command: it is never answered. -/
def CommandBody.isRematch : CommandBody → Bool
  | .requestRematch .. => true
  | .acceptRematch .. => true
  | .declineRematch .. => true
  | _ => false

namespace Server
variable {s t u : Server} {r : RoomId} {G : IdSource} {C : Server → Input → Prop} {c : ConnectionId}
  {commandId : CommandId} {token : SessionToken} {i : Input} {entry : DedupEntry} {rec : ConnectionRecord}
  {command : Command} {diskFails : Bool}

theorem replies_of_rematch (h : command.body.isRematch = true) (e : WireEvent) : replies c command.body e = [] := by
  obtain ⟨id, body⟩ := command
  cases body <;> first | rfl | cases h

theorem replies_of_other (h : command.body.isRematch = false) (e : WireEvent) :
    replies c command.body e = [.connection c e] := by
  obtain ⟨id, body⟩ := command
  cases body <;> first | rfl | cases h

/-- Whether a command is answered from the cache depends on its type only. -/
theorem replies_eq_nil (e e' : WireEvent) : replies c command.body e = [] ↔ replies c command.body e' = [] := by
  cases hr : command.body.isRematch with
  | true => simp only [replies_of_rematch hr]
  | false => simp [replies_of_other hr]

/-- What decides about a rematch command. -/
theorem takesRematch_congr (hq : Quiet s t) (hid : t.nextId = s.nextId) (p : PlayerId) (body : CommandBody) :
    t.takesRematch G p body = s.takesRematch G p body := by
  have htaken : ∀ r method, t.rematchTaken r method = s.rematchTaken r method := by
    intro r method
    simp only [rematchTaken, hq.gameSessions, hq.getRoom]
  cases body <;> simp only [takesRematch, htaken, hq.now, hid]

theorem takesRematch_isRematch {p : PlayerId} (h : s.takesRematch G p command.body = true) :
    command.body.isRematch = true := by
  obtain ⟨id, body⟩ := command
  cases body <;> first | rfl | cases h

/-- What the dispatch of a successful command leaves in the dedup cache, in the state `s` it is dispatched in: an
object that reads as the response. -/
theorem dispatch_recorded (hk : s.Keyed) (hequipped : s.Equipped) (hping : ∀ clientTime, command.body ≠ .ping clientTime)
    (h : (∃ e, s.answer (s.dispatch G c rec command diskFails) = some e ∧ e.isError = false) ∨
      ∃ token p, rec.sessionToken = some token ∧ s.Processed token command.commandId p ∧
        s.takesRematch G p command.body = true) :
    ∃ entry, (s.dispatch G c rec command diskFails).server.cached command.commandId = some entry ∧
      entry.cachedAt = s.recordedAt command.commandId ∧
      (command.body.isRematch = false → s.answer (s.dispatch G c rec command diskFails) =
        some ((s.dispatch G c rec command diskFails).server.reread entry.result)) ∧
      (isAuthExempt command.body = false → rec.sessionToken ≠ none) := by
  cases hbody : isAuthExempt command.body with
  | true =>
    obtain ⟨id, body⟩ := command
    cases body with
    | ping clientTime => exact absurd rfl (hping clientTime)
    | auth guestToken =>
      have hlink := bindConnection_relinked c (s.handleAuth G c id guestToken)
      have hdispatch : s.dispatch G c rec ⟨id, .auth guestToken⟩ diskFails =
          bindConnection c (s.handleAuth G c id guestToken) := rfl
      simp only [hdispatch, hlink.answer, hlink.cached, hlink.reread] at h ⊢
      rcases handleAuth_cases (G := G) s c id guestToken with ⟨entry, hc, he⟩ | ⟨hc, hrefused | ⟨-, hrecords⟩⟩
      · refine ⟨entry, ?_, (recordedAt_of_cached hc).symm, fun _ => ?_, by simp⟩
        · rw [he]
          exact hc
        · rw [he]
          rfl
      · rcases h with ⟨e, he, hok⟩ | ⟨token, p, -, -, htaken⟩
        · exact absurd (hrefused.answer_isError he) (by simp [hok])
        · cases htaken
      · rcases h with ⟨e, he, hok⟩ | ⟨token, p, -, -, htaken⟩
        · refine ⟨_, hrecords.recorded e he hok, (recordedAt_of_uncached hc).symm, fun _ => ?_, by simp⟩
          rw [he, (hrecords.current hequipped e he).reread]
        · cases htaken
    | _ => cases hbody
  | false =>
    cases htoken : rec.sessionToken with
    | none =>
      have hnone : s.dispatch G c rec command diskFails = s.ok [] := dispatch_unbound htoken hbody diskFails
      rcases h with ⟨e, he, -⟩ | ⟨token, p, hsome, -, -⟩
      · simp [hnone, answer, ok] at he
      · simp [htoken] at hsome
    | some token =>
      rcases h with hanswer | ⟨token', p, htoken', hp, htaken⟩
      · obtain ⟨result, hhandling, hdispatch⟩ := dispatch_handling (G := G) hk htoken c command diskFails hbody
        have hlink := linked_relinked c rec command.body result
        obtain ⟨e, he, hok⟩ := hanswer
        simp only [hdispatch, hlink.answer, hlink.cached, hlink.reread] at he ⊢
        cases hhandling with
        | refused hrefused hs => exact absurd (hrefused.answer_isError he) (by simp [hok])
        | @recalled session entry hs hc hresult =>
          subst hresult
          refine ⟨entry, hc, (recordedAt_of_cached hc).symm, fun hr => ?_, by simp⟩
          rw [replies_of_other hr]
          rfl
        | processed hp hdone =>
          refine ⟨_, hdone.records.recorded e he hok, (recordedAt_of_uncached hp.uncached).symm, fun _ => ?_, by simp⟩
          rw [he, (hdone.records.current hequipped e he).reread]
      · refine ⟨_, takesRematch_recorded htoken' hp htaken, (recordedAt_of_uncached hp.uncached).symm, fun hr => ?_,
          by simp⟩
        exact absurd (takesRematch_isRematch htaken) (by simp [hr])

/-- A successful command leaves an object in the dedup cache that reads as its response. -/
theorem Succeeds.recorded {frame : RawFrame} (hk : s.Keyed) (hequipped : s.Equipped)
    (hrouted : s.Routed (.frame c frame diskFails) c rec command)
    (hping : ∀ clientTime, command.body ≠ .ping clientTime) (h : s.Succeeds G c rec command diskFails)
    (hstep : s.step G (.frame c frame diskFails) = some t) :
    ∃ entry, t.cached command.commandId = some entry ∧ entry.cachedAt = s.recordedAt command.commandId ∧
      (command.body.isRematch = false → s.response G c rec command diskFails = some (t.reread entry.result)) ∧
      (isAuthExempt command.body = false → rec.sessionToken ≠ none) := by
  have hq := arrived_quiet s c rec
  have hku : (s.arrived c rec).Keyed := fun r gs hg => hk r gs (hq.gameSessions ▸ hg)
  have hanswer := arrived_answer s c rec
  have hat : (s.arrived c rec).recordedAt command.commandId = s.recordedAt command.commandId := by
    simp only [recordedAt, hq.cached, hq.now]
  have hid : (s.arrived c rec).nextId = s.nextId := by
    obtain ⟨connections, sessions, he, -, -⟩ := arrived_frame s c rec
    rw [he]
  have hsuccess : (∃ e, (s.arrived c rec).answer ((s.arrived c rec).dispatch G c rec command diskFails) = some e ∧
      e.isError = false) ∨ ∃ token p, rec.sessionToken = some token ∧
        (s.arrived c rec).Processed token command.commandId p ∧
        (s.arrived c rec).takesRematch G p command.body = true := by
    rcases h with ⟨e, he, hok⟩ | ⟨token, p, htoken, hp, htaken⟩
    · exact Or.inl ⟨e, (hanswer _).trans he, hok⟩
    · exact Or.inr ⟨token, p, htoken, hp.to_quiet hq, (takesRematch_congr hq hid p _).trans htaken⟩
  obtain ⟨entry, hcached, hage, hresponse, htoken⟩ := dispatch_recorded hku (hequipped.to_quiet hq) hping hsuccess
  have ht : t = conclude G c command.commandId ((s.arrived c rec).dispatch G c rec command diskFails) :=
    (Option.some.inj hstep).symm.trans (handleFrame_routed hrouted)
  have hconclude := conclude_quiet G c command.commandId ((s.arrived c rec).dispatch G c rec command diskFails)
  refine ⟨entry, ?_, hage.trans hat, fun hr => ?_, htoken⟩
  · rw [ht, hconclude.cached]
    exact hcached
  · rw [ht, reread_congr hconclude.gameSessions, ← hresponse hr]
    exact (hanswer _).symm

/-! ### The response stays recorded -/

theorem now_le_step (hk : s.Keyed) (h : s.step G i = some t) : s.now ≤ t.now := by
  rcases step_acts hk h with ⟨elapsed, -, rfl⟩ | ⟨r, a, hacts, -⟩
  · exact Int.le_add_of_nonneg_right (Int.natCast_nonneg elapsed)
  · exact Int.le_of_eq hacts.now.symm

/-- An entry that does not expire in a step stays. -/
theorem cached_step (hk : s.Keyed) (h : s.step G i = some t) (hc : s.cached commandId = some entry)
    (hage : t.now - entry.cachedAt ≤ COMMAND_DEDUP_TTL_MS) : t.cached commandId = some entry := by
  rcases step_acts hk h with ⟨elapsed, -, rfl⟩ | ⟨r, a, hacts, -⟩
  · obtain ⟨hget, -⟩ := JsMap.lookup_eq_some.mp hc
    refine JsMap.lookup_eq_some.mpr ⟨hget, ?_⟩
    exact decide_eq_false (Int.not_lt.mpr hage)
  · exact hacts.cached commandId entry hc

/-- An entry stays until it expires. -/
theorem cached_along (hk : s.Keyed) (hrun : Runs G C s t) (hc : s.cached commandId = some entry)
    (hage : t.now - entry.cachedAt ≤ COMMAND_DEDUP_TTL_MS) : t.cached commandId = some entry := by
  induction hrun with
  | refl => exact hc
  | @tail t u i hrun' _ hstep ih =>
    have hkt : t.Keyed := runs_keyed hk hrun'
    have hle : t.now - entry.cachedAt ≤ u.now - entry.cachedAt := Int.sub_le_sub_right (now_le_step hkt hstep) _
    exact cached_step hkt hstep (ih (Int.le_trans hle hage)) hage

/-! ### A recorded command is only answered -/

theorem dispatch_recalled (hk : s.Keyed) (hc : s.cached command.commandId = some entry)
    (hping : ∀ clientTime, command.body ≠ .ping clientTime)
    (hsession : isAuthExempt command.body = false →
      ∃ token session, rec.sessionToken = some token ∧ s.getSession token = some session) :
    Relinked (s.ok (replies c command.body (s.reread entry.result))) (s.dispatch G c rec command diskFails) := by
  cases hbody : isAuthExempt command.body with
  | true =>
    obtain ⟨id, body⟩ := command
    cases body with
    | ping clientTime => exact absurd rfl (hping clientTime)
    | auth guestToken =>
      have hlink := bindConnection_relinked c (s.handleAuth G c id guestToken)
      have hdispatch : s.dispatch G c rec ⟨id, .auth guestToken⟩ diskFails =
          bindConnection c (s.handleAuth G c id guestToken) := rfl
      rw [hdispatch]
      rcases handleAuth_cases (G := G) s c id guestToken with ⟨entry', hc', he⟩ | ⟨hnone, -⟩
      · obtain rfl := Option.some.inj (hc'.symm.trans hc)
        rwa [he] at hlink ⊢
      · exact absurd hc (by simp [hnone])
    | _ => cases hbody
  | false =>
    obtain ⟨token, session, htoken, hs⟩ := hsession hbody
    obtain ⟨result, hhandling, hdispatch⟩ := dispatch_handling (G := G) hk htoken c command diskFails hbody
    rw [hdispatch]
    cases hhandling with
    | refused hrefused hnone => rcases hnone with hnone | hnone <;> simp [hs, hc] at hnone
    | @recalled session' entry' hs' hc' hresult =>
      obtain rfl := Option.some.inj (hc'.symm.trans hc)
      subst hresult
      exact linked_relinked c rec command.body _
    | processed hp hdone => exact absurd hp.uncached (by simp [hc])

/-- The server after a retry: the response has been sent again, and nothing has happened to a room, a game session,
the history or a session's association with a room. -/
structure Resent (c : ConnectionId) (response : List WireEvent) (s t : Server) : Prop where
  rooms : t.rooms = s.rooms
  gameSessions : t.gameSessions = s.gameSessions
  historyRepository : t.historyRepository = s.historyRepository
  association : ∀ token, (t.sessions.sessions.get token).map PlayerSession.roomId =
    (s.sessions.sessions.get token).map PlayerSession.roomId
  sendLog : t.sendLog = s.sendLog
  wire : t.wire = s.wire ++ response.map (c, ·)

theorem retry_resent {frame : RawFrame} (hk : s.Keyed) (hrouted : s.Routed (.frame c frame diskFails) c rec command)
    (hc : s.cached command.commandId = some entry) (hping : ∀ clientTime, command.body ≠ .ping clientTime)
    (htoken : isAuthExempt command.body = false → rec.sessionToken ≠ none)
    (hstep : s.step G (.frame c frame diskFails) = some t) :
    Resent c (if command.body.isRematch then [] else [s.reread entry.result]) s t := by
  have hq := arrived_quiet s c rec
  have hku : (s.arrived c rec).Keyed := fun r gs hg => hk r gs (hq.gameSessions ▸ hg)
  have hsession : isAuthExempt command.body = false →
      ∃ token session, rec.sessionToken = some token ∧ (s.arrived c rec).getSession token = some session := by
    intro hbody
    obtain ⟨token, ht⟩ := Option.ne_none_iff_exists'.mp (htoken hbody)
    have hauth : rec.authenticated = true := hrouted.permitted.resolve_right (by simp [hbody])
    obtain ⟨session, hs⟩ := Option.isSome_iff_exists.mp (hrouted.session token hauth ht)
    obtain ⟨session', hs', -⟩ := hq.session_to_some hs
    exact ⟨token, session', ht, hs'⟩
  have hrelinked : Relinked ((s.arrived c rec).ok (replies c command.body (s.reread entry.result)))
      ((s.arrived c rec).dispatch G c rec command diskFails) := by
    rw [← reread_congr hq.gameSessions]
    exact dispatch_recalled hku ((hq.cached _).trans hc) hping hsession
  obtain ⟨connections, registry, hserver, hhas⟩ := hrelinked.server
  obtain ⟨conns, sessions, harrived, hhas', hassoc⟩ := arrived_frame s c rec
  have hopen : connections.has c = true := by
    rw [hhas, harrived]
    refine (hhas' c).trans ?_
    rw [JsMap.has, hrouted.connection]
    rfl
  have ht : t = conclude G c command.commandId ((s.arrived c rec).dispatch G c rec command diskFails) :=
    (Option.some.inj hstep).symm.trans (handleFrame_routed hrouted)
  have hthrew : ((s.arrived c rec).dispatch G c rec command diskFails).threw = false := hrelinked.threw
  rw [ht, conclude, hthrew, hrelinked.deliveries, hserver, harrived]
  cases hr : command.body.isRematch with
  | true =>
    simp only [ok, replies_of_rematch hr, deliver, List.foldl_nil, Bool.false_eq_true, ↓reduceIte]
    exact ⟨rfl, rfl, rfl, hassoc, rfl, by simp⟩
  | false =>
    simp only [ok, replies_of_other hr, deliver, List.foldl_cons, List.foldl_nil, send, hopen, Bool.false_eq_true,
      ↓reduceIte]
    exact ⟨rfl, rfl, rfl, hassoc, rfl, rfl⟩

end Server
end TicTacToe
