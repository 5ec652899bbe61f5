import TicTacToe.Theorems.FreshEvents
import TicTacToe.Theorems.Greetings

/-! # Server events decode

What a reachable server builds is sound, so the client decodes it. -/

namespace TicTacToe
open Json

/-! ### Parsed commands -/

/-- `parseCommand` has accepted an object from which the command is read. -/
def Command.Parsed {Text : Type} (J : JsonTexts Text) (command : Command) : Prop :=
  ∃ raw v, parseCommand J raw = .ok v ∧ command.ReadFrom (some v)

/-- The command of a frame is the one that `parseCommand` makes of its text. -/
def Input.Parsed {Text : Type} (J : JsonTexts Text) (i : Input) : Prop :=
  ∀ c frame diskFails command, i = .frame c frame diskFails → frame.parseResult = .ok command → command.Parsed J

theorem isAnyCommand_of_parse {Text : Type} {J : JsonTexts Text} {raw : Text} {v : Json}
    (h : parseCommand J raw = .ok v) : isAnyCommand (some v) = true := by
  unfold parseCommand at h
  split at h
  · cases h
  split at h
  · cases h
  split at h
  · cases h
  split at h
  · cases h
  split at h
  · cases h
  · rename_i parsed _ _ _ _ hany
    rw [← Except.ok.inj h]
    simpa using hany

theorem RawPosition.finite_of_guard {v : Option Json} {position : RawPosition} (h : isBoardPosition v = true)
    (hrow : field v "row" = some (.number position.row)) (hcol : field v "col" = some (.number position.col)) :
    position.Finite := by
  have hfinite : ∀ x : JsNumber, isBoardIndex (some (.number x)) = true → x.isFinite = true := by
    intro x hx
    cases x with
    | finite q => rfl
    | infinite | nan => cases hx
  simp only [isBoardPosition, Bool.and_eq_true, hrow, hcol] at h
  exact ⟨hfinite _ h.1.2, hfinite _ h.2⟩

/-- The guards check the ids and numbers that the server reads. -/
theorem Command.Parsed.sound {Text : Type} {J : JsonTexts Text} {command : Command} (h : command.Parsed J) :
    command.body.Sound := by
  obtain ⟨raw, v, hparse, htype, -, hbody⟩ := h
  have hany := isAnyCommand_of_parse hparse
  rw [isAnyCommand, commandTypeOf_eq htype, Option.any_some, Bool.and_eq_true] at hany
  have hcheck : ∀ {check}, command.body.type.guard = commandGuard command.body.type check →
      check (some v) = true := by
    intro check he
    have hguard := hany.2
    rw [he, commandGuard, Bool.and_eq_true] at hguard
    exact hguard.2
  obtain ⟨id, body⟩ := command
  cases body with
  | auth => trivial
  | joinRoom r name | reconnect r lastReceivedSeq | syncRequest r fromSeq =>
    have hfields := hcheck rfl
    simp only [Bool.and_eq_true, hbody.1] at hfields
    exact hfields.1
  | leaveRoom r =>
    have hroom : field (some v) "roomId" = some (.text r) := hbody
    have hfields := hcheck rfl
    simp only [Bool.and_eq_true, hroom] at hfields
    exact hfields.1
  | playerReady r =>
    have hroom : field (some v) "roomId" = some (.text r) := hbody
    have hfields := hcheck rfl
    simp only [hroom] at hfields
    exact hfields
  | makeMove r gameId position =>
    obtain ⟨hroom, hgame, hrow, hcol⟩ := hbody
    have hfields := hcheck rfl
    simp only [Bool.and_eq_true, hroom] at hfields
    exact ⟨hfields.1.1, RawPosition.finite_of_guard hfields.2 hrow hcol⟩
  | requestRematch r gameId | declineRematch r gameId =>
    have hfields := hcheck rfl
    simp only [Bool.and_eq_true, hbody.1, hbody.2] at hfields
    exact hfields
  | acceptRematch r gameId =>
    have hfields := hcheck rfl
    simp only [Bool.and_eq_true, hbody.1] at hfields
    exact hfields.1
  | ping clientTime =>
    have htime : field (some v) "clientTime" = some (.number clientTime) := hbody
    have hfields := hcheck rfl
    simp only [htime, isPositiveNumber, numberWith, Bool.and_eq_true] at hfields
    exact hfields.1

theorem WireEvent.eq_of_roomEvent {w : WireEvent} {event : RoomEvent} (h : w.roomEvent = some event) :
    w = .event (.room event) := by
  cases w with
  | processed => cases h
  | event e =>
    cases e with
    | room e => exact congrArg (fun e => WireEvent.event (.room e)) (Option.some.inj h)
    | authAck | pong | error => cases h

namespace Server
variable {s t u : Server} {r : RoomId} {G : IdSource} {c : ConnectionId} {id : CommandId} {token : SessionToken}
  {p : PlayerId} {room : RoomRecord} {gs : GameSession} {i : Input}

/-! ### The router -/

theorem linked_sound {result result' : HandlerResult} (h : SoundResult result) (hlink : Relinked result result') :
    SoundResult result' := by
  obtain ⟨connections, registry, hserver, -⟩ := hlink.server
  exact ⟨hserver ▸ h.server.of_eq rfl rfl rfl rfl, hlink.deliveries ▸ h.deliveries⟩

/-- The handlers of the commands that need a session. -/
theorem session_sound (hG : G.Uuids) (h : s.Sound) (hg : ∀ r, s.Greeted r) {body : CommandBody} (hc : body.Sound)
    (c : ConnectionId) (rec : ConnectionRecord) (diskFails : Bool) (hrec : rec.sessionToken = some token)
    (hbody : isAuthExempt body = false) : SoundResult (s.dispatch G c rec ⟨id, body⟩ diskFails) := by
  unfold dispatch
  simp only [hrec]
  cases body with
  | auth | ping => cases hbody
  | joinRoom r name => exact handleJoinRoom_sound h hc c id name token
  | leaveRoom r => exact handleLeaveRoom_sound h (hg r) hc c id token diskFails
  | playerReady r => exact handlePlayerReady_sound hG h (hg r) hc c id token
  | makeMove r gameId position => exact handleMakeMove_sound h (hg r) hc.2 c id gameId token diskFails
  | requestRematch r gameId =>
    exact rematchCommand_sound h (hg r) (fun u gs room p hgs => hgs.handleRematchRequest hc.2 u.now room p) c id token
  | acceptRematch r gameId =>
    refine rematchCommand_sound h (hg r) (fun u gs room p hgs => ?_) c id token
    refine hgs.handleRematchAccept ?_ u.now room p gameId
    exact hG.gameId (u.nextId + 1)
  | declineRematch r gameId =>
    exact rematchCommand_sound h (hg r) (fun _ gs room p hgs => hgs.handleRematchDecline hc.2 room p) c id token
  | reconnect r lastReceivedSeq =>
    have hlink := linked_relinked c rec (.reconnect r lastReceivedSeq) (s.handleReconnect c id r lastReceivedSeq token)
    exact linked_sound (handleReconnect_sound h (hg r) hc c id lastReceivedSeq token) hlink
  | syncRequest r fromSeq => exact handleSyncRequest_sound h (hg r) hc c id fromSeq token

theorem dispatch_sound (hG : G.Uuids) (h : s.Sound) (hg : ∀ r, s.Greeted r) {command : Command}
    (hc : command.body.Sound) (c : ConnectionId) (rec : ConnectionRecord) (diskFails : Bool) :
    SoundResult (s.dispatch G c rec command diskFails) := by
  obtain ⟨id, body⟩ := command
  by_cases hbody : isAuthExempt body = true
  · cases body with
    | auth guestToken => exact linked_sound (handleAuth_sound hG h c id guestToken) (bindConnection_relinked c _)
    | ping clientTime =>
      refine .ok h fun d hd => ?_
      rw [List.mem_singleton.mp hd]
      exact hc
    | _ => cases hbody
  · have hsession := Bool.not_eq_true _ ▸ hbody
    cases hrec : rec.sessionToken with
    | none =>
      have hnone : s.dispatch G c rec ⟨id, body⟩ diskFails = s.ok [] := by
        unfold dispatch
        cases body <;> simp [hrec, isAuthExempt] at hsession ⊢
      rw [hnone]
      exact .ok h fun _ hd => (by cases hd)
    | some token => exact session_sound hG h hg hc c rec diskFails hrec hsession

/-! ### Steps -/

theorem deliver_sound (h : s.Sound) {deliveries : List Delivery} (hd : ∀ d ∈ deliveries, d.event.Sound) :
    (s.deliver deliveries).Sound := by
  unfold deliver
  induction deliveries generalizing s with
  | nil => exact h
  | cons d deliveries ih =>
    refine ih ?_ fun x hx => hd x (List.mem_cons_of_mem _ hx)
    have hevent := hd d List.mem_cons_self
    cases d with
    | connection c e => exact h.send hevent c
    | broadcast p e => exact h.sendToPlayerConnections hevent p

theorem error_sound (code : ErrorCode) (summary : String) (recoverable : Bool) (correlationId : Option CommandId)
    (traceId : Option String) :
    (WireEvent.event (makeErrorEvent code summary recoverable correlationId traceId)).Sound := trivial

theorem conclude_sound {result : HandlerResult} (h : SoundResult result) (c : ConnectionId) (id : CommandId) :
    (conclude G c id result).Sound := by
  unfold conclude
  split
  · exact (h.server.drawIds 1).send (error_sound _ _ _ _ _) c
  · exact deliver_sound h.server h.deliveries

theorem Sound.sendError (h : s.Sound) (c : ConnectionId) (code : ErrorCode) (id : Option CommandId) :
    (s.sendError c code id).Sound := by
  unfold Server.sendError
  dsimp only
  split
  · exact h.close (fun e he => Option.some.inj he ▸ error_sound _ _ _ _ _) c
  · exact h.send (error_sound _ _ _ _ _) c

theorem Sound.onPlayerLeft (h : s.Sound) (r : RoomId) (p : PlayerId) : (s.onPlayerLeft r p).Sound := by
  obtain ⟨freed, hfreed, htoken⟩ := onPlayerLeft_cases s r p
  have hsound : freed.Sound := by
    rcases hfreed with ⟨-, rfl⟩ | ⟨room, -, rfl⟩
    · exact h.afterGetRoom r
    · exact (h.afterGetRoom r).putRoom r _
  rcases htoken with ⟨-, he⟩ | ⟨token, -, he⟩ <;> rw [he]
  · exact hsound
  · exact hsound.clearSessionRoom token

theorem Sound.handleDisconnect (h : s.Sound) (token : SessionToken) : (s.handleDisconnect token).Sound := by
  unfold Server.handleDisconnect
  dsimp only
  have hu := h.afterGetSession token
  split
  · rename_i r session hroom hs
    split
    · exact hu.afterGetRoom r
    · have hput := (hu.afterGetRoom r).putRoom r
      split
      · exact hput _
      · rename_i room _ _ gs hgs
        have hsound : gs.Sound := (hput _).games r gs hgs
        split
        · exact (hput _).applyEmitted (hsound.startReconnectWindow (h.sessions.getSession hs).playerId _ _) r
        · exact hput _
  · exact hu

theorem Sound.arrived (h : s.Sound) (c : ConnectionId) (rec : ConnectionRecord) : (s.arrived c rec).Sound := by
  have hcounted : ((s.touchConnection c).countFrame c).Sound := h.of_eq rfl rfl rfl rfl
  unfold Server.arrived
  split
  · exact hcounted
  · exact hcounted.touchSession _

theorem Sound.handleCommand (hG : G.Uuids) (h : s.Sound) (hg : ∀ r, s.Greeted r) {command : Command}
    (hc : command.body.Sound) (c : ConnectionId) (diskFails : Bool) : (s.handleCommand G c command diskFails).Sound := by
  unfold Server.handleCommand
  split
  · exact h
  split
  · exact h.sendError _ _ _
  split
  · exact conclude_sound (dispatch_sound hG h hg hc c _ diskFails) c _
  · rename_i token _
    split
    · exact (h.afterGetSession token).sendError _ _ _
    · have hq := (afterGetSession_quiet s token).trans (touchSession_quiet _ token)
      exact conclude_sound (dispatch_sound hG ((h.afterGetSession token).touchSession token)
        (fun r => (hg r).of_quiet hq) hc c _ diskFails) c _

theorem Sound.handleFrame {Text : Type} {J : JsonTexts Text} {frame : RawFrame} {diskFails : Bool} (hG : G.Uuids)
    (h : s.Sound) (hg : ∀ r, s.Greeted r) (hi : (Input.frame c frame diskFails).Parsed J) :
    (s.handleFrame G c frame diskFails).Sound := by
  have hcounted : ((s.touchConnection c).countFrame c).Sound := h.of_eq rfl rfl rfl rfl
  have hq := countFrame_touchConnection_quiet s c
  unfold Server.handleFrame
  dsimp only
  split
  · exact h.sendError _ _ _
  split
  · exact hcounted.sendError _ _ _
  split
  · exact hcounted.sendError _ _ _
  · rename_i command hparse
    have hsound := (hi c frame diskFails command rfl hparse).sound
    exact hcounted.handleCommand hG (fun r => (hg r).of_quiet hq) hsound c diskFails

theorem Sound.handleClose (h : s.Sound) (c : ConnectionId) : (s.handleClose c).Sound := by
  unfold Server.handleClose
  split
  · exact h.of_eq rfl rfl rfl rfl
  split
  · exact h.of_eq rfl rfl rfl rfl
  rename_i token _
  have hunregistered : ∀ {u : Server}, u.Sound → (u.unregister c).Sound := fun hu => hu.of_eq rfl rfl rfl rfl
  split
  · exact hunregistered (h.handleDisconnect token)
  · rename_i p _
    have hu : (s.unregisterPlayerConnection p c).Sound := by
      obtain ⟨registry, he⟩ := unregisterPlayerConnection_frame s p c
      exact he ▸ h.of_eq rfl rfl rfl rfl
    dsimp only
    split
    · exact hunregistered hu
    · exact hunregistered (hu.handleDisconnect token)

theorem Sound.fireReconnectWindow (h : s.Sound) {timer : ReconnectTimer} (hgs : s.gameSessions.get r = some gs)
    (htimer : gs.reconnectTimers.get p = some timer) (diskFails : Bool) :
    (s.fireReconnectWindow r gs p timer diskFails).1.Sound := by
  have hsound := h.games r gs hgs
  have happlied := h.applyEffect
    (hsound.expireReconnectWindow (hsound.timers p timer htimer) s.now s.historyRepository diskFails timer.symbol) r
  unfold Server.fireReconnectWindow
  dsimp only
  split
  · exact happlied
  · exact happlied.onPlayerLeft r p

theorem Sound.step {Text : Type} {J : JsonTexts Text} (hG : G.Uuids) (h : s.Sound) (hg : ∀ r, s.Greeted r)
    (hi : i.Parsed J) (hstep : s.step G i = some t) : t.Sound := by
  unfold Server.step at hstep
  cases i with
  | tick | connect | wsPong | createRoom | httpGetRoom =>
    obtain rfl := Option.some.inj hstep
    exact h.of_eq rfl rfl rfl rfl
  | frame c frame diskFails =>
    obtain rfl := Option.some.inj hstep
    exact h.handleFrame hG hg hi
  | socketClosed c =>
    obtain rfl := Option.some.inj hstep
    exact h.handleClose c
  | authTimeout c =>
    dsimp only at hstep
    split at hstep
    · obtain rfl := Option.some.inj hstep
      exact h.close (fun e he => Option.some.inj he ▸ error_sound _ _ _ _ _) c
    · cases hstep
  | idleTimeout c =>
    dsimp only at hstep
    split at hstep
    · obtain rfl := Option.some.inj hstep
      exact h.close (fun e he => by cases he) c
    · cases hstep
  | reconnectWindow r p diskFails =>
    dsimp only at hstep
    split at hstep
    · cases hstep
    rename_i gs hgs
    split at hstep
    · cases hstep
    rename_i timer htimer
    split at hstep
    · split at hstep
      · cases hstep
      · obtain rfl := Option.some.inj hstep
        exact h.fireReconnectWindow hgs htimer diskFails
    · cases hstep
  | rematchTimer r =>
    dsimp only at hstep
    split at hstep
    · rename_i gs room hgs hroom
      split at hstep
      · cases hstep
      rename_i proposal hproposal
      split at hstep
      · obtain rfl := Option.some.inj hstep
        have hsound := h.games r gs hgs
        exact h.applyEmitted (hsound.expireRematch (hsound.rematch proposal hproposal) room) r
      · cases hstep
    · cases hstep
  | maintenance =>
    obtain rfl := Option.some.inj hstep
    exact ⟨h.sessions.purgeExpired s.now, h.games, h.sendLog, h.wire⟩

/-! ### Runs -/

/-- A server whose events are sound, with what the next step needs to keep them so. -/
structure Articulate (s : Server) : Prop where
  sound : s.Sound
  greeted : ∀ r, s.Greeted r
  distinct : ∀ r, (s.view r).Distinct
  keyed : s.Keyed
  backed : s.Backed

theorem start_articulate (now : Millis) (version : String) (repository : HistoryRepository) :
    (start now version repository).Articulate where
  sound := start_sound now version repository
  greeted := start_greeted now version repository
  distinct r room h := by simp [view, start, RoomStore.object, RoomStore.empty] at h
  keyed := start_keyed now version repository
  backed := start_backed now version repository

theorem Articulate.step {Text : Type} {J : JsonTexts Text} (hG : G.Uuids) (h : s.Articulate) (hi : i.Parsed J)
    (hstep : s.step G i = some t) : t.Articulate where
  sound := h.sound.step hG h.greeted hi hstep
  greeted r := (h.greeted r).step h.keyed h.backed (h.distinct r) hstep
  distinct r := step_distinct h.keyed (h.distinct r) hstep
  keyed := h.keyed.step hstep
  backed := h.backed.step h.keyed hstep

theorem runs_articulate {Text : Type} {J : JsonTexts Text} {now : Millis} {version : String}
    {repository : HistoryRepository} (hG : G.Uuids)
    (h : Runs G (fun _ i => i.Parsed J) (start now version repository) s) : s.Articulate :=
  h.invariant (P := Articulate) (start_articulate now version repository) fun _ _ _ hs hi hstep => hs.step hG hi hstep

/-- The events that are built in the step of an input: what a handler returns, what a game session gives to its send
function, and what else goes on the wire. -/
inductive Makes (G : IdSource) (s : Server) (i : Input) : Event → Prop
  | handled {c : ConnectionId} {rec : ConnectionRecord} {command : Command} {d : Delivery} {e : Event}
    (hrouted : s.Routed i c rec command)
    (hd : d ∈ ((s.arrived c rec).dispatch G c rec command i.diskFails).deliveries) (he : d.event = .event e) :
    Makes G s i e
  | sent {t : Server} {r : RoomId} {call : SendCall} (hstep : s.step G i = some t)
    (hcall : (r, call) ∈ t.sendLog.drop s.sendLog.length) : Makes G s i call.event
  | written {t : Server} {c : ConnectionId} {e : Event} (hstep : s.step G i = some t)
    (hwire : (c, .event e) ∈ t.wire.drop s.wire.length) : Makes G s i e

theorem Articulate.makes {Text : Type} {J : JsonTexts Text} {e : Event} (hG : G.Uuids) (h : s.Articulate)
    (hi : i.Parsed J) (he : s.Makes G i e) : e.Sound := by
  cases he with
  | @handled c rec command d e hrouted hd he =>
    obtain ⟨frame, diskFails, hframe, -, hparse⟩ := hrouted.frame
    have hdispatch := dispatch_sound hG (h.sound.arrived c rec) (fun r => (h.greeted r).of_quiet (arrived_quiet s c rec))
      (hi c frame diskFails command hframe hparse).sound c rec i.diskFails
    have hsound := hdispatch.deliveries d hd
    rwa [he] at hsound
  | sent hstep hcall => exact (h.step hG hi hstep).sound.sendLog _ (List.mem_of_mem_drop hcall)
  | written hstep hwire => exact (h.step hG hi hstep).sound.wire _ (List.mem_of_mem_drop hwire)

/-- Every event that a reachable server builds decodes to itself. -/
theorem events_decode {Text : Type} {J : JsonTexts Text} {now : Millis} {version : String}
    {repository : HistoryRepository} {e : Event} {v : Json} (hG : G.Uuids)
    (hrun : Runs G (fun _ i => i.Parsed J) (start now version repository) s) (hi : i.Parsed J) (he : s.Makes G i e)
    (hw : e.Writes v) (hJ : J.Undoes v) : e.DecodesTo J v :=
  ((runs_articulate hG hrun).makes hG hi he).decodes hw hJ

/-! ### A player joins -/

/-- Ids of the right formats. -/
def wellFormed : IdSource where
  roomId _ := "ABCD2345"
  gameId _ := "7e6d5c4b-3a29-4817-a605-f4e3d2c1b0af"
  playerId _ := "0b7a3f52-9c1d-4e8a-b6f0-2d4c5e6f7a81"
  sessionToken _ := "c1d2e3f4-a5b6-4788-99aa-bbccddeeff00"
  connectionId := tally 'c'
  traceId := tally 'x'

theorem wellFormed_uuids : wellFormed.Uuids := by
  have hgame : isUuid (utf16 (wellFormed.gameId 0)) = true := by decide +kernel
  have hplayer : isUuid (utf16 (wellFormed.playerId 0)) = true := by decide +kernel
  exact ⟨fun _ => hgame, fun _ => hplayer⟩

def introduction : Command := ⟨"5d2c1b0a-3f4e-4d6c-8b7a-9f8e7d6c5b4a", .auth none⟩

def entrance : Command := ⟨"6e3d2c1b-4a5f-4e7d-9c8b-a09f8e7d6c5b", .joinRoom "ABCD2345" none⟩

/-- A `JSON` that knows two commands and the text of one event. -/
def fewTexts (content : String) (v : Json) : JsonTexts String where
  stringify _ := content
  parse raw :=
    if raw = content then some v
    else some (.object ([("protocolVersion", nat 1), ("messageId", text "8d2c1b0a-3f4e-4d6c-8b7a-9f8e7d6c5b4a"),
      ("timestamp", int 1700000000000), ("type", text raw)] ++
      if raw = "AUTH" then
        [("commandId", text introduction.commandId), ("sessionToken", null), ("guestToken", null),
          ("clientVersion", text "1.0.0")]
      else
        [("commandId", text entrance.commandId), ("sessionToken", text "c1d2e3f4-a5b6-4788-99aa-bbccddeeff00"),
          ("roomId", text "ABCD2345"), ("playerName", null)]))

theorem fewTexts_undoes (content : String) (v : Json) : (fewTexts content v).Undoes v := fun _ => if_pos rfl

theorem introduction_parsed (v : Json) : introduction.Parsed (fewTexts "an event" v) :=
  ⟨"AUTH", _, rfl, rfl, rfl, rfl⟩

theorem entrance_parsed (v : Json) : entrance.Parsed (fewTexts "an event" v) :=
  ⟨"JOIN_ROOM", _, rfl, rfl, rfl, rfl, rfl⟩

theorem brings_parsed {command : Command} {J : JsonTexts String} (h : command.Parsed J) :
    (Input.frame (tally 'c' 0) ⟨100, .ok command⟩ false).Parsed J := by
  intro c frame diskFails command' hi hparse
  obtain ⟨-, rfl, -⟩ := Input.frame.inj hi
  exact Except.ok.inj hparse ▸ h

/-- The first player of a room is told that the room is joined, and the client reads what the server has built. -/
theorem events_decode_joined : ∃ (J : JsonTexts String) (s : Server) (event : RoomEvent) (v : Json),
    Runs wellFormed (fun _ i => i.Parsed J) (start 1700000000000 "1.0.0" .empty) s ∧
    s.Makes wellFormed (.frame (tally 'c' 0) ⟨100, .ok entrance⟩ false) (.room event) ∧
    event.payload.type = .ROOM_JOINED ∧ event.sessionSeq = 1 ∧ parseEvent J (J.stringify v) = some v ∧
    isRoomJoinedEvent (some v) = true ∧ isPlayerJoinedEvent (some v) = false := by
  have hcheck : (Transition.run (step wellFormed) (fun _ _ => true) (start 1700000000000 "1.0.0" .empty)
      [.connect, .createRoom, .frame (tally 'c' 0) ⟨100, .ok introduction⟩ false]).any (fun s =>
        (s.step wellFormed (.frame (tally 'c' 0) ⟨100, .ok entrance⟩ false)).any fun t =>
          (roomEvents (t.wire.drop s.wire.length)).any fun e =>
            e.2.payload.type = .ROOM_JOINED && e.2.sessionSeq = 1 && e.2.payload.gameHistory = []) = true := by
    decide +kernel
  generalize hi : Input.frame (tally 'c' 0) ⟨100, .ok entrance⟩ false = i at *
  simp only [Option.any_eq_true, List.any_eq_true, Bool.and_eq_true, decide_eq_true_eq] at hcheck
  obtain ⟨s, hrun, t, hstep, ⟨c, event⟩, hevent, ⟨htype, hseq⟩, hhistory⟩ := hcheck
  have hparsed : ∀ v : Json, i.Parsed (fewTexts "an event" v) := fun v => hi ▸ brings_parsed (entrance_parsed v)
  have hruns : ∀ v : Json, Runs wellFormed (fun _ i => i.Parsed (fewTexts "an event" v))
      (start 1700000000000 "1.0.0" .empty) s := by
    refine fun v => Transition.runs_of_inputs (fun j hj _ => ?_) hrun
    simp only [List.mem_cons, List.not_mem_nil, or_false] at hj
    rcases hj with rfl | rfl | rfl
    · exact fun _ _ _ _ h => (by cases h)
    · exact fun _ _ _ _ h => (by cases h)
    · exact brings_parsed (introduction_parsed v)
  have hmakes : s.Makes wellFormed i (.room event) := by
    obtain ⟨w, hw, he⟩ := mem_roomEvents.mp hevent
    refine .written hstep (?_ : (c, WireEvent.event (.room event)) ∈ _)
    rwa [← WireEvent.eq_of_roomEvent he]
  have hnone : event.payload.replayed = [] := by
    obtain ⟨r, n, id, payload⟩ := event
    cases payload with
    | roomJoined => rfl
    | _ => cases htype
  have hwrites : Event.Writes (.room event) _ :=
    .room (@RoomEvent.Writes.mk event ⟨"8d2c1b0a-3f4e-4d6c-8b7a-9f8e7d6c5b4a", 1700000000000⟩ [] []
      ⟨by decide +kernel, by decide⟩ hhistory.symm (hnone ▸ .nil))
  have hdecodes := events_decode wellFormed_uuids (hruns _) (hparsed _) hmakes hwrites (fewTexts_undoes "an event" _)
  refine ⟨_, s, event, _, hruns _, hmakes, htype, hseq, hdecodes.parsed, ?_, ?_⟩
  · exact (hdecodes.guards .ROOM_JOINED).mpr htype.symm
  · refine Bool.eq_false_iff.mpr fun hother => ?_
    cases ((hdecodes.guards .PLAYER_JOINED).mp hother).trans htype

end Server
end TicTacToe
