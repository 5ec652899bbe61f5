import TicTacToe.Theorems.ClientTab

/-! # What the callbacks do to the transport

Sending and dispatching leave the fields of the client alone, so that each callback has an equation for them. Handling
an event can only set the room and reset the counter. -/

namespace TicTacToe
namespace Client
variable {uuid : Nat → CommandId} {tab tab' : Tab} {i : TabInput}

namespace Tab

@[simp] theorem dispatch_client (tab : Tab) (a : GameAction) : (tab.dispatch a).client = tab.client := rfl

@[simp] theorem render_client (tab : Tab) : tab.render.client = tab.client := rfl

@[simp] theorem updateClient_client (tab : Tab) (f : WsClient → WsClient) :
    (tab.updateClient f).client = f tab.client := rfl

@[simp] theorem sendNew_client (tab : Tab) (token : Option SessionToken) (body : CommandBody) :
    (tab.sendNew uuid token body).client = tab.client := by
  unfold sendNew send
  split <;> rfl

@[simp] theorem onStateChange_client (tab : Tab) (next : WsState) : (tab.onStateChange uuid next).client = tab.client := by
  unfold onStateChange
  dsimp only
  split
  · split
    · rw [sendNew_client, dispatch_client]
    · rfl
  · rfl

@[simp] theorem onSequenceGap_client (tab : Tab) (fromSeq : Nat) :
    (tab.onSequenceGap uuid fromSeq).client = tab.client := by
  unfold onSequenceGap
  split
  · exact sendNew_client tab _ _
  · rfl

@[simp] theorem setState_client (tab : Tab) (next : WsState) :
    (tab.setState uuid next).client = { tab.client with state := next } := by
  unfold setState
  split
  · rename_i hsame
    rw [← hsame]
  · rw [onStateChange_client, updateClient_client]

/-! ### The connection -/

end Tab

namespace WsClient

/-- The transport alone: what `scheduleRetry` makes of it. -/
def scheduled (client : WsClient) : WsClient :=
  if client.destroyed then client
  else if client.retryCount ≥ client.config.maxRetries then { client with state := .closed }
  else { client with
    state := .reconnecting
    retryTimer := some client.retryDelay
    retryCount := client.retryCount + 1 }

/-- What `openSocket` makes of it. -/
def connecting (client : WsClient) (throws : Bool) : WsClient :=
  if throws then { client with state := if client.retryCount = 0 then .connecting else .reconnecting }.scheduled
  else { client with
    state := if client.retryCount = 0 then .connecting else .reconnecting
    ws := some ⟨.connecting, none⟩ }

/-- The socket is closed, and its heartbeat is stopped. -/
def shut (client : WsClient) : WsClient :=
  { client.stopHeartbeat with ws := client.ws.map fun ws => { ws with readyState := .closed } }

/-- What `onclose` makes of it. -/
def lost (client : WsClient) (code : Nat) : WsClient :=
  if client.destroyed then client.shut
  else if Tab.isTerminal code then { client.shut with state := .closed }
  else client.shut.scheduled

/-- What `onopen` makes of it. -/
def connected (client : WsClient) : WsClient :=
  { client with ws := some ⟨.open, none⟩, retryCount := 0, state := .connected }.startHeartbeat

end WsClient

namespace Tab

@[simp] theorem scheduleRetry_client (tab : Tab) : (tab.scheduleRetry uuid).client = tab.client.scheduled := by
  unfold scheduleRetry WsClient.scheduled
  split
  · rfl
  split
  · rw [setState_client]
  · rw [updateClient_client, setState_client]
    rfl

@[simp] theorem openSocket_client (tab : Tab) (throws : Bool) :
    (tab.openSocket uuid throws).client = tab.client.connecting throws := by
  unfold openSocket WsClient.connecting
  dsimp only
  split
  · rw [scheduleRetry_client, setState_client]
  · rw [updateClient_client, setState_client]

@[simp] theorem onOpen_client (tab : Tab) : (tab.onOpen uuid).client = tab.client.connected := by
  unfold onOpen sendAuth
  rw [updateClient_client, sendNew_client, setState_client]
  rfl

@[simp] theorem onClose_client (tab : Tab) (code : Nat) : (tab.onClose uuid code).client = tab.client.lost code := by
  have hdestroyed : tab.client.stopHeartbeat.destroyed = tab.client.destroyed := rfl
  unfold onClose WsClient.lost
  simp only [updateClient_client, hdestroyed]
  split
  · rfl
  split
  · rw [setState_client]
    rfl
  · rw [scheduleRetry_client]
    rfl

@[simp] theorem sendPing_client (tab : Tab) : (tab.sendPing uuid).client =
    if tab.client.state ≠ .authenticated then tab.client else tab.client.awaitPong := by
  unfold sendPing
  split
  · rfl
  · rw [updateClient_client, sendNew_client]

@[simp] theorem destroy_client (tab : Tab) : (tab.destroy uuid).client =
    { tab.client.stopHeartbeat.cancelRetry with destroyed := true, ws := none, state := .closed } := by
  rw [destroy, setState_client, updateClient_client]

end Tab

/-! ### Frames -/

namespace WsClient

/-- All but the room and the counter is the same. -/
def SameLink (client client' : WsClient) : Prop :=
  ∃ roomId lastSeq, client' = { client with roomId := roomId, lastSeq := lastSeq }

namespace SameLink
variable {client client' client'' : WsClient}

theorem refl (client : WsClient) : SameLink client client := ⟨client.roomId, client.lastSeq, rfl⟩

theorem trans (h₁ : SameLink client client') (h₂ : SameLink client' client'') : SameLink client client'' := by
  obtain ⟨roomId, lastSeq, rfl⟩ := h₁
  obtain ⟨roomId', lastSeq', rfl⟩ := h₂
  exact ⟨roomId', lastSeq', rfl⟩

theorem setRoom (client : WsClient) (roomId : Option RoomId) : SameLink client (client.setRoom roomId) :=
  ⟨roomId, client.lastSeq, rfl⟩

theorem counter (client : WsClient) (lastSeq : Nat) : SameLink client { client with lastSeq := lastSeq } :=
  ⟨client.roomId, lastSeq, rfl⟩

end SameLink
end WsClient

namespace Tab
open WsClient (SameLink)

mutual

theorem dispatchRoomEvent_link : ∀ (event : EventEnvelope RoomPayload) (tab : Tab),
    SameLink tab.client (dispatchRoomEvent event tab).client
  | ⟨roomId, seq, correlationId, payload⟩, tab => by
    rw [dispatchRoomEvent, dispatch_client]
    exact dispatchPayload_link payload roomId seq correlationId tab

theorem dispatchPayload_link : ∀ (payload : RoomPayload) (roomId : RoomId) (seq : Nat) (correlationId : Option CommandId)
    (tab : Tab), SameLink tab.client (dispatchPayload payload roomId seq correlationId tab).client
  | .stateSyncReplay _ _ events, _, _, _, tab => by
    rw [dispatchPayload]
    exact dispatchEach_link events tab
  | .roomJoined .., roomId, _, _, tab => .setRoom tab.client (some roomId)
  | .gameStarted .., _, _, _, tab => .counter tab.client 0
  | .playerJoined .., _, _, _, tab => .refl tab.client
  | .roomLeft, _, _, _, tab => .refl tab.client
  | .playerLeft .., _, _, _, tab => .refl tab.client
  | .playerReadyAck _, _, _, _, tab => .refl tab.client
  | .opponentReady .., _, _, _, tab => .refl tab.client
  | .moveAck .., _, _, _, tab => .refl tab.client
  | .moveBroadcast .., _, _, _, tab => .refl tab.client
  | .moveRejected .., _, _, _, tab => .refl tab.client
  | .gameFinished .., _, _, _, tab => .refl tab.client
  | .rematchRequested .., _, _, _, tab => .refl tab.client
  | .rematchDeclined .., _, _, _, tab => .refl tab.client
  | .rematchExpired _, _, _, _, tab => .refl tab.client
  | .opponentDisconnected .., _, _, _, tab => .refl tab.client
  | .opponentReconnected _, _, _, _, tab => .refl tab.client
  | .reconnectAck .., _, _, _, tab => .refl tab.client
  | .stateSyncSnapshot _, _, _, _, tab => .refl tab.client

theorem dispatchEach_link : ∀ (events : List (EventEnvelope RoomPayload)) (tab : Tab),
    SameLink tab.client (dispatchEach events tab).client
  | [], tab => .refl tab.client
  | event :: events, tab => by
    rw [dispatchEach]
    exact (dispatchRoomEvent_link event tab).trans (dispatchEach_link events _)

end

theorem dispatchEvent_link (tab : Tab) (event : Event) : SameLink tab.client (tab.dispatchEvent event).client := by
  cases event with
  | authAck token playerId version existingRoom id =>
    cases existingRoom with
    | none => exact .refl tab.client
    | some room => exact .setRoom tab.client (some room.roomId)
  | pong | error => exact .refl tab.client
  | room event => exact dispatchRoomEvent_link event tab

theorem restoreHead_of_other {frame : Event} (h : ∀ event, frame ≠ .room event) (tab : Tab) :
    tab.restoreHead frame = tab := by
  cases frame with
  | room event => exact absurd rfl (h event)
  | _ => rfl

theorem restoreHead_link (tab : Tab) (event : Event) : SameLink tab.client (tab.restoreHead event).client := by
  unfold restoreHead
  split
  · exact .counter tab.client _
  · exact .counter tab.client _
  · exact .refl tab.client

/-- A frame changes the connection only before its event goes to the hook. -/
theorem handleFrame_link (tab : Tab) (event : Event) :
    SameLink (tab.receive uuid event).client (tab.handleFrame uuid event).client :=
  (dispatchEvent_link _ event).trans (restoreHead_link _ event)

/-- A gap is reported and changes no counter. -/
theorem receive_room_client (tab : Tab) (event : RoomEvent) :
    (tab.receive uuid (.room event)).client = tab.client.track event := by
  unfold receive
  dsimp only
  split
  · rename_i fromSeq hgap
    rw [onSequenceGap_client]
    unfold WsClient.gapBefore at hgap
    unfold WsClient.track
    split at hgap
    · cases hgap
    · rename_i hresets
      split at hgap
      · rw [if_neg hresets, if_neg (by omega)]
      · cases hgap
  · rfl

end Tab

/-! ### Inputs -/

/-- The transport alone: what an input makes of it, up to the room and the counter. -/
def WsClient.react (client : WsClient) : TabInput → WsClient
  | .connect throws => client.connecting throws
  | .opened => client.connected
  | .received (some (.authAck token _ _ _ _)) => { client with sessionToken := some token, state := .authenticated }
  | .received (some (.pong ..)) => client.clearPongTimer
  | .socketClosed code => client.lost code
  | .retry throws => client.cancelRetry.connecting throws
  | .pingDue => if client.state ≠ .authenticated then client else client.awaitPong
  | .pongMissing => { client with pongTimer := false }.closeSocket 4006
  | .lostPongMissing => { client with lostPongTimers := client.lostPongTimers - 1 }.closeSocket 4006
  | .unmount => { client.stopHeartbeat.cancelRetry with destroyed := true, ws := none, state := .closed }
  | _ => client

namespace Tab
open WsClient (SameLink)

theorem roomCommand_client {act : SessionToken → RoomId → Tab} (h : ∀ t r, (act t r).client = tab.client) :
    (tab.roomCommand act).client = tab.client := by
  unfold roomCommand
  split
  · exact h _ _
  · rfl

theorem gameCommand_client {act : SessionToken → RoomId → GameId → Tab} (h : ∀ t r g, (act t r g).client = tab.client) :
    (tab.gameCommand act).client = tab.client := by
  refine roomCommand_client fun t r => ?_
  split
  · exact h _ _ _
  · rfl

theorem joinRoom_client (tab : Tab) (roomId : RoomId) : (tab.joinRoom uuid roomId).client = tab.client := by
  unfold joinRoom
  split
  · exact sendNew_client tab _ _
  · rfl

theorem makeMove_client (tab : Tab) (row col : JsNumber) : (tab.makeMove uuid row col).client = tab.client := by
  unfold makeMove
  split
  · rfl
  refine gameCommand_client fun t r g => ?_
  split
  · rfl
  split
  · rfl
  · rw [sendNew_client, dispatch_client]

theorem leaveRoom_client (tab : Tab) : ∃ roomId, (tab.leaveRoom uuid).client = { tab.client with roomId := roomId } := by
  unfold leaveRoom roomCommand
  split
  · refine ⟨none, ?_⟩
    rw [updateClient_client, dispatch_client, sendNew_client]
    rfl
  · exact ⟨tab.client.roomId, rfl⟩

/-- An input other than a room event: what it makes of the transport, up to the room. -/
theorem callback_client (hother : ∀ event, i ≠ .received (some (.room event))) (h : tab.callback uuid i = some tab') :
    ∃ roomId, tab'.client = { tab.client.react i with roomId := roomId } := by
  have hsame : ∀ client : WsClient, ∃ roomId, client = { client with roomId := roomId } :=
    fun client => ⟨client.roomId, rfl⟩
  cases i with
  | received event =>
    simp only [callback, Option.ite_none_right_eq_some, Option.some.injEq] at h
    obtain ⟨-, rfl⟩ := h
    cases event with
    | none => exact hsame tab.client
    | some event =>
      cases event with
      | room event => exact absurd rfl (hother event)
      | authAck token playerId version existingRoom id =>
        have hreceived : (tab.receive uuid (.authAck token playerId version existingRoom id)).client =
            { tab.client with sessionToken := some token, state := .authenticated } := by
          rw [receive, setState_client, updateClient_client]
        cases existingRoom with
        | none =>
          refine ⟨tab.client.roomId, ?_⟩
          rw [Option.elim_some, handleFrame, restoreHead_of_other (by simp), dispatchEvent, dispatch_client, hreceived]
          rfl
        | some room =>
          refine ⟨some room.roomId, ?_⟩
          rw [Option.elim_some, handleFrame, restoreHead_of_other (by simp), dispatchEvent, updateClient_client,
            dispatch_client, hreceived]
          rfl
      | pong => exact hsame _
      | error => exact hsame _
  | connect throws =>
    simp only [callback, Option.ite_none_right_eq_some, Option.some.injEq] at h
    rw [← h.2, openSocket_client]
    exact hsame _
  | opened =>
    simp only [callback, Option.ite_none_right_eq_some, Option.some.injEq] at h
    rw [← h.2, onOpen_client]
    exact hsame _
  | socketClosed code =>
    simp only [callback, Option.ite_none_right_eq_some, Option.some.injEq] at h
    rw [← h.2, onClose_client]
    exact hsame _
  | retry throws =>
    simp only [callback, Option.ite_none_right_eq_some, Option.some.injEq] at h
    rw [← h.2, openSocket_client, updateClient_client]
    exact hsame _
  | pingDue =>
    simp only [callback, Option.ite_none_right_eq_some, Option.some.injEq] at h
    rw [← h.2, sendPing_client]
    exact hsame _
  | pongMissing | lostPongMissing =>
    simp only [callback, Option.ite_none_right_eq_some, Option.some.injEq] at h
    rw [← h.2, updateClient_client]
    exact hsame _
  | tick =>
    rw [← Option.some.inj h]
    exact hsame _
  | unmount =>
    rw [← Option.some.inj h, destroy_client]
    exact hsame _
  | joinRoom roomId =>
    rw [← Option.some.inj h, joinRoom_client]
    exact hsame _
  | leaveRoom =>
    rw [← Option.some.inj h]
    exact leaveRoom_client tab
  | playerReady =>
    rw [← Option.some.inj h, playerReady, roomCommand_client fun _ _ => sendNew_client tab _ _]
    exact hsame _
  | makeMove row col =>
    rw [← Option.some.inj h, makeMove_client]
    exact hsame _
  | requestRematch | acceptRematch | declineRematch =>
    rw [← Option.some.inj h]
    exact ⟨tab.client.roomId, gameCommand_client fun _ _ _ => sendNew_client tab _ _⟩

/-- The tab follows the transport alone, up to the room and the counter. -/
theorem callback_link (h : tab.callback uuid i = some tab') : SameLink (tab.client.react i) tab'.client := by
  by_cases hroom : ∃ event, i = .received (some (.room event))
  · obtain ⟨event, rfl⟩ := hroom
    simp only [callback, Option.ite_none_right_eq_some, Option.some.injEq] at h
    obtain ⟨-, rfl⟩ := h
    refine SameLink.trans ?_ (handleFrame_link tab (.room event))
    rw [receive_room_client]
    unfold WsClient.track
    split
    · exact .counter tab.client _
    split
    · exact .counter tab.client _
    · exact .refl tab.client
  · obtain ⟨roomId, hclient⟩ := callback_client (fun event he => hroom ⟨event, he⟩) h
    exact ⟨roomId, (tab.client.react i).lastSeq, hclient⟩

end Tab
end Client
end TicTacToe
