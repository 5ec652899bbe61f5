import TicTacToe.Theorems.Processing
import TicTacToe.Theorems.Seats

/-! # Commands of players without a slot

Every command that names a room is checked for membership by its handler, `MAKE_MOVE` by nobody but the
engine: a move in the running game gets a sequence number before the engine refuses it. -/

namespace TicTacToe

namespace GameSession
variable {gs : GameSession} {now : Millis} {repository : HistoryRepository} {diskFails : Bool} {p : PlayerId}

theorem Ending.seq {state : GameState} {result : GameResult} {e : GameEffect}
    (h : Ending gs repository diskFails p state result e) : e.session.sessionSeq = gs.sessionSeq + 1 := by
  cases h <;> rfl

/-- A move in the running game takes a sequence number, whoever has sent it. -/
theorem handleMove_seq {state : GameState} (hstate : gs.gameState = some state) (hactive : state.status = .active)
    (position : RawPosition) (commandId : CommandId) :
    gs.sessionSeq < (gs.handleMove now repository diskFails p state.gameId position commandId).session.sessionSeq := by
  have hmoving := handleMove_moving gs now repository diskFails p state.gameId position commandId
  generalize gs.handleMove now repository diskFails p state.gameId position commandId = outcome at hmoving
  cases hmoving with
  | refused code detail h => exact absurd hactive (h state hstate rfl)
  | rejected => exact Nat.lt_succ_self _
  | continued => exact Nat.lt_add_of_pos_right (Nat.succ_pos 1)
  | finished hstate hid hmove hresult he =>
    rw [he.seq]
    exact Nat.lt_add_of_pos_right (Nat.succ_pos 2)

end GameSession

namespace Server
variable {s t u : Server} {G : IdSource} {i : Input} {c : ConnectionId} {r : RoomId} {commandId : CommandId}
  {token : SessionToken} {p : PlayerId}

/-! ### Errors on the wire -/

/-- Room `r` and its game session stay, and nothing but errors is written to sockets. -/
structure Ignores (s t : Server) (r : RoomId) : Prop where
  room : t.getRoom r = s.getRoom r
  game : t.gameSessions.get r = s.gameSessions.get r
  written : ∃ w, t.wire = s.wire ++ w ∧ ∀ x ∈ w, x.2.isError = true

namespace Ignores

theorem of_quiet (hq : Quiet s t) (hw : t.wire = s.wire) : Ignores s t r :=
  ⟨hq.getRoom r, congrArg (fun m => m.get r) hq.gameSessions, [], by simpa using hw, by simp⟩

theorem refl (s : Server) (r : RoomId) : Ignores s s r := .of_quiet (.refl s) rfl

theorem trans (h₁ : Ignores s t r) (h₂ : Ignores t u r) : Ignores s u r := by
  obtain ⟨w₁, hw₁, herrors₁⟩ := h₁.written
  obtain ⟨w₂, hw₂, herrors₂⟩ := h₂.written
  refine ⟨h₂.room.trans h₁.room, h₂.game.trans h₁.game, w₁ ++ w₂, by rw [hw₂, hw₁, List.append_assoc], fun x hx => ?_⟩
  rcases List.mem_append.mp hx with hx | hx
  · exact herrors₁ x hx
  · exact herrors₂ x hx

end Ignores

section Errors
variable {e : WireEvent} (he : e.isError = true)
include he

theorem send_ignores (s : Server) (c : ConnectionId) (r : RoomId) : Ignores s (s.send c e) r := by
  unfold send
  split
  · exact ⟨rfl, rfl, [(c, e)], rfl, by simpa using he⟩
  · exact .refl s r

theorem sendEach_ignores (s : Server) (cs : List ConnectionId) (r : RoomId) :
    Ignores s (cs.foldl (fun s c => s.send c e) s) r := by
  induction cs generalizing s with
  | nil => exact .refl s r
  | cons c cs ih => exact (send_ignores he s c r).trans (ih (s.send c e))

theorem sendToPlayers_ignores (s : Server) (ps : List PlayerId) (r : RoomId) :
    Ignores s (ps.foldl (fun s p => s.sendToPlayerConnections p e) s) r := by
  induction ps generalizing s with
  | nil => exact .refl s r
  | cons p ps ih => exact (sendEach_ignores he s _ r).trans (ih (s.sendToPlayerConnections p e))

end Errors

theorem sendFn_ignores {call : SendCall} (he : (WireEvent.event call.event).isError = true) (s : Server) (r : RoomId) :
    Ignores s (s.sendFn r call) r := by
  have hlogged : Ignores s { s.afterGetRoom r with sendLog := s.sendLog ++ [(r, call)] } r := by
    have h : Ignores s (s.afterGetRoom r) r := .of_quiet (afterGetRoom_quiet s r) rfl
    exact ⟨h.room, h.game, h.written⟩
  unfold sendFn
  dsimp only
  split
  · exact hlogged
  · exact hlogged.trans (sendToPlayers_ignores he _ _ r)

theorem sendError_ignores (s : Server) (c : ConnectionId) (code : ErrorCode) (correlationId : Option CommandId)
    (r : RoomId) : Ignores s (s.sendError c code correlationId) r := by
  unfold sendError
  dsimp only
  generalize he : WireEvent.event (makeErrorEvent code (ERROR_META code).summary (ERROR_META code).recoverable
    correlationId none) = e
  have h : Ignores s (s.send c e) r := send_ignores (he ▸ rfl) s c r
  split
  · exact ⟨h.room, h.game, h.written⟩
  · exact h

/-! ### Handlers -/

/-- A handler has ignored a command about room `r`: it delivers nothing but errors. -/
structure Ignored (s : Server) (r : RoomId) (result : HandlerResult) : Prop where
  server : Ignores s result.server r
  threw : result.threw = false
  deliveries : ∀ d ∈ result.deliveries, ∃ c e, d = .connection c e ∧ e.isError = true

theorem Ignored.ok (h : Ignores s t r) : Ignored s r (t.ok []) := ⟨h, rfl, by simp [Server.ok]⟩

theorem Ignores.refuses (h : Ignores s t r) (c : ConnectionId) (commandId : CommandId) (code : ErrorCode) :
    Ignored s r (t.refuse c code commandId) :=
  ⟨h, rfl, fun _ hd => ⟨c, _, List.mem_singleton.mp hd, rfl⟩⟩

theorem Refuses.ignored {result : HandlerResult} (h : Refuses s c commandId result) : Ignored s r result := by
  obtain ⟨t, code, hq, hw, rfl⟩ := h
  have hsame : Ignores s t r := .of_quiet hq hw
  exact hsame.refuses c commandId code

theorem Ignored.conclude {result : HandlerResult} (h : Ignored s r result) (G : IdSource) (c : ConnectionId)
    (commandId : CommandId) : Ignores s (conclude G c commandId result) r := by
  obtain ⟨u, ds, threw⟩ := result
  obtain ⟨hserver, hthrew, hds⟩ := h
  obtain rfl : threw = false := hthrew
  have hdeliver : ∀ (ds : List Delivery) (u : Server), (∀ d ∈ ds, ∃ c e, d = .connection c e ∧ e.isError = true) →
      Ignores u (u.deliver ds) r := by
    intro ds
    induction ds with
    | nil => exact fun u _ => .refl u r
    | cons d ds ih =>
      intro u hds
      obtain ⟨c', e, rfl, he⟩ := hds d List.mem_cons_self
      exact (send_ignores he u c' r).trans (ih _ fun d hd => hds d (List.mem_cons_of_mem _ hd))
  exact hserver.trans (hdeliver ds u hds)

section Handlers
variable {reply : WireEvent → List Delivery} (hcached : s.cached commandId = none)
  (hout : ∀ session, s.getSession token = some session → s.slot r session.playerId = none)
include hcached hout

/-- What a handler does about a live room in which the player of the session has no slot. -/
theorem roomCommand_ignored {handle : Server → PlayerSession → RoomRecord → HandlerResult}
    (h : ∀ u session room, Ignores s u r → u.getRoom r = some room →
      getSlotByPlayerId room session.playerId = none → Ignored s r (handle u session room)) :
    Ignored s r (s.roomCommand c commandId token r reply handle) := by
  have hhandling : Handling s c commandId token reply (fun _ result => Ignored s r result)
      (s.roomCommand c commandId token r reply handle) := by
    refine roomCommand_handling fun t session room hq hw hst hlive _ => Or.inr ?_
    obtain ⟨session₀, hs, hplayer, -⟩ := hq.session_of_some hst
    have hslot := hout session₀ hs
    rw [slot, (hq.getRoom r).symm.trans hlive, hplayer] at hslot
    exact h t session room (.of_quiet hq hw) hlive hslot
  cases hhandling with
  | refused h => exact h.ignored
  | recalled hs hc =>
    rw [hcached] at hc
    cases hc
  | processed hp h => exact h

theorem handleLeaveRoom_ignored (c : ConnectionId) (diskFails : Bool) :
    Ignored s r (s.handleLeaveRoom c commandId r token diskFails) := by
  refine roomCommand_ignored hcached hout fun u session room hu hroom hslot => ?_
  simp only [hslot]
  exact hu.refuses c commandId _

theorem handlePlayerReady_ignored (G : IdSource) (c : ConnectionId) :
    Ignored s r (s.handlePlayerReady G c commandId r token) := by
  refine roomCommand_ignored hcached hout fun u session room hu hroom hslot => ?_
  simp only [RoomRecord.getSymbolForPlayer_none.mpr hslot]
  split
  · exact hu.refuses c commandId _
  · exact hu.refuses c commandId _

theorem handleReconnect_ignored (c : ConnectionId) (lastReceivedSeq : Nat) :
    Ignored s r (s.handleReconnect c commandId r lastReceivedSeq token) := by
  refine roomCommand_ignored hcached hout fun u session room hu hroom hslot => ?_
  simp only [hslot]
  exact hu.refuses c commandId _

theorem handleSyncRequest_ignored (c : ConnectionId) (fromSeq : Nat) :
    Ignored s r (s.handleSyncRequest c commandId r fromSeq token) := by
  refine roomCommand_ignored hcached hout fun u session room hu hroom hslot => ?_
  simp only [hslot]
  exact hu.refuses c commandId _

/-- The session takes no rematch command from a player without a symbol. -/
theorem rematchCommand_ignored (c : ConnectionId) (drawn : Nat) (refusal : Option GameSession → Option ErrorCode)
    (method : Server → GameSession → RoomRecord → PlayerId → GameSession.RematchOutcome)
    (hmethod : ∀ u gs room p, getSymbolForPlayer room p = none → method u gs room p = gs.notTaken room) :
    Ignored s r (s.rematchCommand c commandId r token drawn refusal method) := by
  refine roomCommand_ignored hcached hout fun u session room hu hroom hslot => ?_
  dsimp only
  split
  · exact hu.refuses c commandId _
  · exact .ok hu
  · rename_i gs hgame _
    rw [hmethod u gs room session.playerId (RoomRecord.getSymbolForPlayer_none.mpr hslot)]
    -- The room and the session are stored as they were.
    refine .ok (hu.trans ⟨?_, ?_, [], by simp [applyEmitted, putGame, drawIds, putRoom, sendAll, GameSession.notTaken],
      by simp⟩)
    · have hlive : room.isExpired u.now = false := (RoomStore.getRoom_eq_some.mp hroom).2
      have hput : ((u.putRoom r room).drawIds drawn).getRoom r = some room := by
        have h := getRoom_putRoom u r r room
        rwa [if_pos rfl, hlive] at h
      exact (getRoom_applyEmitted _ r r _).trans (hput.trans hroom.symm)
    · simp [applyEmitted, putGame, drawIds, putRoom, sendAll, GameSession.notTaken, hgame]

theorem handleRequestRematch_ignored (c : ConnectionId) (gameId : GameId) :
    Ignored s r (s.handleRequestRematch c commandId r gameId token) := by
  refine rematchCommand_ignored hcached hout c _ _ _ fun u gs room p hsymbol => ?_
  rcases GameSession.handleRematchRequest_cases gs u.now room p gameId with h | ⟨x, -, -, hx, -⟩
  · exact h
  · rw [hsymbol] at hx
    cases hx

theorem handleAcceptRematch_ignored (G : IdSource) (c : ConnectionId) (gameId : GameId) :
    Ignored s r (s.handleAcceptRematch G c commandId r gameId token) := by
  refine rematchCommand_ignored hcached hout c _ _ _ fun u gs room p hsymbol => ?_
  rcases GameSession.handleRematchAccept_cases gs u.now (G.gameId u.nextId, G.gameId (u.nextId + 1)) room p gameId with
    h | ⟨_, _, x, -, -, -, -, hx, -⟩
  · exact h
  · rw [hsymbol] at hx
    cases hx

theorem handleDeclineRematch_ignored (c : ConnectionId) (gameId : GameId) :
    Ignored s r (s.handleDeclineRematch c commandId r gameId token) := by
  refine rematchCommand_ignored hcached hout c _ _ _ fun u gs room p hsymbol => ?_
  rcases GameSession.handleRematchDecline_cases gs room p gameId with h | ⟨x, -, hx, -⟩
  · exact h
  · rw [hsymbol] at hx
    cases hx

/-- A move for any other game than the one that runs is answered by the session with an error. -/
theorem handleMakeMove_ignored (c : ConnectionId) (gameId : GameId) (position : RawPosition) (diskFails : Bool)
    (hgame : (s.getRoom r).isSome → ∀ state, s.gameState r = some state → state.gameId = gameId →
      state.status ≠ .active) : Ignored s r (s.handleMakeMove c commandId r gameId position token diskFails) := by
  refine roomCommand_ignored hcached hout fun u session room hu hroom hslot => ?_
  dsimp only
  split
  · exact hu.refuses c commandId _
  rename_i gs hgs
  have hmoving := GameSession.handleMove_moving gs u.now u.historyRepository diskFails session.playerId gameId position
    commandId
  have hnot : ∀ state, gs.gameState = some state → state.gameId = gameId → state.status ≠ .active := by
    intro state hstate
    refine hgame (Option.isSome_of_eq_some (hu.room.symm.trans hroom)) state ?_
    rw [gameState, ← hu.game, hgs]
    exact hstate
  generalize gs.handleMove u.now u.historyRepository diskFails session.playerId gameId position commandId = outcome
    at hmoving
  cases hmoving with
  | refused code detail h =>
    have hput : Ignores u (u.putGame r gs) r := ⟨rfl, by simp [putGame, hgs], [], by simp [putGame], by simp⟩
    have hsend : Ignores (u.putGame r gs) ((u.putGame r gs).sendFn r ⟨.player, session.playerId,
      makeErrorEvent code detail true (some commandId) none⟩) r := sendFn_ignores rfl _ r
    have hall := hu.trans (hput.trans hsend)
    exact .ok ⟨hall.room, hall.game, hall.written⟩
  | rejected hstate hid hactive => exact absurd hactive (hnot _ hstate hid)
  | continued hstate hid hmove => exact absurd hmove.active (hnot _ hstate hid)
  | finished hstate hid hmove => exact absurd hmove.active (hnot _ hstate hid)

end Handlers

/-! ### Frames -/

/-- The player of the valid session that connection `c` acts for. -/
def sender (s : Server) (c : ConnectionId) : Option PlayerId :=
  ((s.connections.get c).bind ConnectionRecord.sessionToken).bind fun token =>
    (s.getSession token).map PlayerSession.playerId

/-- A processed move for the game that runs in a live room. -/
def movesInGame (s : Server) (i : Input) : Bool :=
  match s.processed i with
  | some (⟨_, .makeMove r g _⟩, _) =>
    (s.getRoom r).isSome && (s.gameState r).any fun state => state.gameId = g && state.status = .active
  | _ => false

theorem registerReconnected_ignored {result : HandlerResult} (h : Ignored s r result) (c : ConnectionId)
    (p : Option PlayerId) : Ignored s r (registerReconnected c p result) := by
  cases p with
  | none => exact h
  | some p => exact ⟨⟨h.server.room, h.server.game, h.server.written⟩, h.threw, h.deliveries⟩

theorem dispatch_ignored {rec : ConnectionRecord} {command : Command} (hconcerns : command.body.concerns = some r)
    (hjoin : ∀ name, command.body ≠ .joinRoom r name) (htoken : rec.sessionToken = some token)
    (hcached : s.cached command.commandId = none)
    (hout : ∀ session, s.getSession token = some session → s.slot r session.playerId = none)
    (hgame : ∀ gameId position, command.body = .makeMove r gameId position → (s.getRoom r).isSome →
      ∀ state, s.gameState r = some state → state.gameId = gameId → state.status ≠ .active)
    (G : IdSource) (c : ConnectionId) (diskFails : Bool) : Ignored s r (s.dispatch G c rec command diskFails) := by
  obtain ⟨id, body⟩ := command
  unfold dispatch
  rw [htoken]
  cases body with
  | auth | ping => cases hconcerns
  | joinRoom _ name =>
    cases hconcerns
    exact absurd rfl (hjoin name)
  | leaveRoom =>
    cases hconcerns
    exact handleLeaveRoom_ignored hcached hout c diskFails
  | playerReady =>
    cases hconcerns
    exact handlePlayerReady_ignored hcached hout G c
  | makeMove _ gameId position =>
    cases hconcerns
    exact handleMakeMove_ignored hcached hout c gameId position diskFails (hgame gameId position rfl)
  | requestRematch _ gameId =>
    cases hconcerns
    exact handleRequestRematch_ignored hcached hout c gameId
  | acceptRematch _ gameId =>
    cases hconcerns
    exact handleAcceptRematch_ignored hcached hout G c gameId
  | declineRematch _ gameId =>
    cases hconcerns
    exact handleDeclineRematch_ignored hcached hout c gameId
  | reconnect _ lastReceivedSeq =>
    cases hconcerns
    exact registerReconnected_ignored (handleReconnect_ignored hcached hout c lastReceivedSeq) c rec.playerId
  | syncRequest _ fromSeq =>
    cases hconcerns
    exact handleSyncRequest_ignored hcached hout c fromSeq

theorem arrived_ignores (s : Server) (c : ConnectionId) (rec : ConnectionRecord) (r : RoomId) :
    Ignores s (s.arrived c rec) r := .of_quiet (arrived_quiet s c rec) (arrived_wire s c rec)

section Frames
variable {frame : RawFrame} {diskFails : Bool} {command : Command}

/-- A command about room `r` from a player without a slot there, other than a move in the running game. -/
theorem handleFrame_ignored (hparse : frame.parseResult = .ok command) (hconcerns : command.body.concerns = some r)
    (hjoin : ∀ name, command.body ≠ .joinRoom r name) (hout : ∀ p, s.sender c = some p → s.slot r p = none)
    (hcached : s.cached command.commandId = none) (hmoves : s.movesInGame (.frame c frame diskFails) = false)
    (G : IdSource) : Ignores s (s.handleFrame G c frame diskFails) r := by
  rcases handleFrame_cases (G := G) s c frame diskFails with
    ⟨u, code, id, -, hq, ⟨hw, -⟩, he⟩ | ⟨hq, hw, -⟩ | ⟨rec, command', hrouted⟩
  · have hsame : Ignores s u r := .of_quiet hq hw
    exact he ▸ hsame.trans (sendError_ignores u c code id r)
  · exact .of_quiet hq hw
  obtain ⟨frame', diskFails', hi, -, hparse'⟩ := hrouted.frame
  obtain ⟨-, rfl, rfl⟩ := Input.frame.inj hi
  obtain rfl := Except.ok.inj (hparse.symm.trans hparse')
  have hq := arrived_quiet s c rec
  have hexempt := concerns_not_exempt hconcerns
  rw [handleFrame_routed hrouted]
  refine (arrived_ignores s c rec r).trans (Ignored.conclude ?_ G c command.commandId)
  cases htoken : rec.sessionToken with
  | none =>
    rw [dispatch_unbound htoken hexempt]
    exact .ok (.refl _ r)
  | some token =>
    have hauth : rec.authenticated = true := hrouted.permitted.resolve_right (by simp [hexempt])
    obtain ⟨session, hs⟩ := Option.isSome_iff_exists.mp (hrouted.session token hauth htoken)
    have hhandles : s.Handles (.frame c frame diskFails) command session.playerId :=
      ⟨c, rec, token, hrouted, htoken, ⟨session, hs, rfl⟩, hcached⟩
    refine dispatch_ignored hconcerns hjoin htoken ((hq.cached _).trans hcached) (fun session' hs' => ?_) ?_ G c
      diskFails
    · obtain ⟨session₀, hs₀, hp, -⟩ := hq.session_of_some hs'
      have hsender : s.sender c = some session'.playerId := by
        simp [sender, hrouted.connection, htoken, hs₀, hp]
      rw [slot, hq.getRoom]
      exact hout _ hsender
    · intro gameId position hbody hlive state hstate hid hactive
      obtain ⟨id, body⟩ := command
      obtain rfl : body = .makeMove r gameId position := hbody
      have hlive' : (s.getRoom r).isSome := (hq.getRoom r) ▸ hlive
      have hstate' : s.gameState r = some state := by
        rw [gameState, ← hq.gameSessions]
        exact hstate
      have hmoves' : s.movesInGame (.frame c frame diskFails) = true := by
        simp [movesInGame, hhandles.processed rfl, hlive', hstate', hid, hactive]
      rw [hmoves] at hmoves'
      cases hmoves'

end Frames

/-- A processed move for the running game changes the session of the room. -/
theorem Handles.counts {id : CommandId} {position : RawPosition} {state : GameState}
    (h : s.Handles i ⟨id, .makeMove r state.gameId position⟩ p) (hstep : s.step G i = some t)
    (hlive : (s.getRoom r).isSome) (hstate : s.gameState r = some state) (hactive : state.status = .active) :
    t.gameSessions.get r ≠ s.gameSessions.get r := by
  obtain ⟨c, rec, token, htoken, hp, ht⟩ := h.step hstep
  have hq := arrived_quiet s c rec
  obtain ⟨session, hs, rfl⟩ := hp.session
  obtain ⟨room, hroom⟩ := Option.isSome_iff_exists.mp hlive
  obtain ⟨gs, hgs, hgame⟩ := Option.bind_eq_some_iff.mp hstate
  have hgs' : ((s.arrived c rec).afterLookup id).gameSessions.get r = some gs := by
    rw [(afterLookup_quiet (s.arrived c rec) id).gameSessions, hq.gameSessions, hgs]
  have hdispatch : (s.arrived c rec).dispatch G c rec ⟨id, .makeMove r state.gameId position⟩ i.diskFails =
      (s.arrived c rec).handleMakeMove c id r state.gameId position token i.diskFails := by
    simp only [dispatch, htoken]
  rw [hdispatch, handleMakeMove, roomCommand_eq hs hp.uncached ((hq.getRoom r).trans hroom)] at ht
  simp only [hgs'] at ht
  generalize (s.arrived c rec).afterLookup id = u at ht
  have hseq : gs.sessionSeq < (gs.handleMove u.now u.historyRepository i.diskFails session.playerId state.gameId position
    id).session.sessionSeq := GameSession.handleMove_seq hgame hactive position id
  generalize gs.handleMove u.now u.historyRepository i.diskFails session.playerId state.gameId position id = outcome
    at ht hseq
  have hset : (u.applyEffect r outcome.toGameEffect).gameSessions.get r = some outcome.session := by
    have hview := congrArg RoomView.game (view_applyEffect u r r outcome.toGameEffect)
    rwa [if_pos rfl] at hview
  have hafter : t.gameSessions.get r = some outcome.session := by
    rw [ht, (conclude_quiet G c id _).gameSessions]
    split
    · exact hset
    · split
      · exact hset
      · exact hset
  rw [hafter, hgs]
  rintro he
  obtain rfl := Option.some.inj he
  exact Nat.lt_irrefl _ hseq

end Server

open Server

/-! ### Moves of outsiders -/

section Outsiders
variable {s t : Server} {G : IdSource} {c : ConnectionId} {frame : RawFrame} {diskFails : Bool} {command : Command}
  {r : RoomId}

/-- A command other than `JOIN_ROOM` from a player who has no slot in the room that it names, not answered from the
dedup cache, leaves the room and its session alone and is answered by errors only, exactly when it is no move in the
running game. -/
theorem outsider_ignored (hparse : frame.parseResult = .ok command) (hconcerns : command.body.concerns = some r)
    (hjoin : ∀ name, command.body ≠ .joinRoom r name) (hout : ∀ p, s.sender c = some p → s.slot r p = none)
    (hcached : s.cached command.commandId = none) (hstep : s.step G (.frame c frame diskFails) = some t) :
    (t.getRoom r = s.getRoom r ∧ t.gameSessions.get r = s.gameSessions.get r ∧
      ∃ w, t.wire = s.wire ++ w ∧ ∀ x ∈ w, x.2.isError = true) ↔ s.movesInGame (.frame c frame diskFails) = false := by
  constructor
  · rintro ⟨-, hsame, -⟩
    by_contra hmoves
    rw [Bool.not_eq_false, movesInGame] at hmoves
    split at hmoves
    · rename_i commandId r' g position p hprocessed
      have hhandles := handles_of_processed hprocessed
      obtain ⟨hlive, hany⟩ := Bool.and_eq_true_iff.mp hmoves
      obtain ⟨state, hstate, hmatch⟩ := (Option.any_eq_true _ _).mp hany
      obtain ⟨rfl, hactive⟩ : state.gameId = g ∧ state.status = .active := by simpa using hmatch
      obtain ⟨_, _, _, hrouted, -⟩ := id hhandles
      obtain ⟨frame', diskFails', hi, -, hparse'⟩ := hrouted.frame
      obtain ⟨-, rfl, -⟩ := Input.frame.inj hi
      obtain rfl := Except.ok.inj (hparse.symm.trans hparse')
      obtain rfl := Option.some.inj hconcerns
      exact hhandles.counts hstep hlive hstate hactive hsame
    · cases hmoves
  · intro hmoves
    obtain rfl := Option.some.inj hstep
    have h := handleFrame_ignored hparse hconcerns hjoin hout hcached hmoves G
    exact ⟨h.room, h.game, h.written⟩

end Outsiders

/-- While players 1 and 3 play, player 7 asks for their room's state. -/
theorem outsider_ignored_sync : ∃ s t, Runs tallies (fun _ _ => True) fresh s ∧
    s.step tallies (asks 6 "sync7" (.syncRequest (tally 'r' 4) 0)) = some t ∧
    t.getRoom (tally 'r' 4) = s.getRoom (tally 'r' 4) ∧
    t.gameSessions.get (tally 'r' 4) = s.gameSessions.get (tally 'r' 4) ∧
    ∃ w, t.wire = s.wire ++ w ∧ ∀ x ∈ w, x.2.isError = true := by
  have hcheck : (Transition.run (step tallies) (fun _ _ => true) fresh
      (opening ++ [.connect, asks 6 "auth7" (.auth none)])).any
      (fun s => decide (s.sender (tally 'c' 6) = some (tally 'p' 7)) && (s.slot (tally 'r' 4) (tally 'p' 7)).isNone &&
        (s.cached "sync7").isNone && !s.movesInGame (asks 6 "sync7" (.syncRequest (tally 'r' 4) 0))) = true := by
    decide +kernel
  obtain ⟨s, hrun, hs⟩ := Transition.exists_run (C := fun _ _ => True) (fun _ _ _ => trivial) hcheck
  simp only [Bool.and_eq_true, Option.isNone_iff_eq_none, decide_eq_true_eq, Bool.not_eq_true'] at hs
  obtain ⟨⟨⟨hsender, hslot⟩, hcached⟩, hmoves⟩ := hs
  have hout : ∀ p, s.sender (tally 'c' 6) = some p → s.slot (tally 'r' 4) p = none := by
    intro p hp
    obtain rfl := Option.some.inj (hsender.symm.trans hp)
    exact hslot
  exact ⟨s, _, hrun, rfl, (outsider_ignored rfl rfl (by simp) hout hcached rfl).mpr hmoves⟩

/-- While players 1 and 3 play, player 7 sends a move in their game: it takes a sequence number, and the rejection
shows player 7 the board. -/
theorem outsider_move_counts : ∃ s t, Runs tallies (fun _ _ => True) fresh s ∧
    s.sender (tally 'c' 6) = some (tally 'p' 7) ∧ s.slot (tally 'r' 4) (tally 'p' 7) = none ∧ s.cached "move7" = none ∧
    s.step tallies (plays 6 "move7" 0 0) = some t ∧
    (t.gameSessions.get (tally 'r' 4)).map GameSession.sessionSeq ≠
      (s.gameSessions.get (tally 'r' 4)).map GameSession.sessionSeq ∧
    ∃ x ∈ t.wire.drop s.wire.length, x.1 = tally 'c' 6 ∧ x.2.isError = false := by
  have hcheck : (Transition.run (step tallies) (fun _ _ => true) fresh
      (opening ++ [.connect, asks 6 "auth7" (.auth none)])).any
      (fun s => decide (s.sender (tally 'c' 6) = some (tally 'p' 7)) && (s.slot (tally 'r' 4) (tally 'p' 7)).isNone &&
        (s.cached "move7").isNone && (s.step tallies (plays 6 "move7" 0 0)).any fun t =>
          decide ((t.gameSessions.get (tally 'r' 4)).map GameSession.sessionSeq ≠
            (s.gameSessions.get (tally 'r' 4)).map GameSession.sessionSeq) &&
          (t.wire.drop s.wire.length).any fun x => decide (x.1 = tally 'c' 6) && !x.2.isError) = true := by
    decide +kernel
  obtain ⟨s, hrun, hs⟩ := Transition.exists_run (C := fun _ _ => True) (fun _ _ _ => trivial) hcheck
  simp only [Bool.and_eq_true, Option.isNone_iff_eq_none, decide_eq_true_eq, Option.any_eq_true, List.any_eq_true,
    Bool.not_eq_true'] at hs
  obtain ⟨⟨⟨hsender, hslot⟩, hcached⟩, t, hstep, hseq, hwire⟩ := hs
  exact ⟨s, t, hrun, hsender, hslot, hcached, hstep, hseq, hwire⟩

end TicTacToe
