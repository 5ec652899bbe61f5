import TicTacToe.Theorems.ClientTab

/-! # What the callbacks of a tab send

The messages of a tab are only added to, and an input has its own types of commands sent. -/

namespace TicTacToe
namespace Client
variable {uuid : Nat → CommandId} {tab tab' tab'' : Tab} {P Q : CommandBody → Prop} {i : TabInput}

/-- The commands sent meanwhile all meet `P`. -/
def Sends (P : CommandBody → Prop) (tab tab' : Tab) : Prop :=
  ∃ messages, tab'.sent = tab.sent ++ messages ∧ ∀ m ∈ messages, P m.command.body

namespace Sends

theorem of_same (h : tab'.sent = tab.sent) : Sends P tab tab' := ⟨[], by simp [h], by simp⟩

theorem refl (tab : Tab) : Sends P tab tab := .of_same rfl

theorem updateClient (tab : Tab) (f : WsClient → WsClient) : Sends P tab (tab.updateClient f) := .of_same rfl

theorem trans (h₁ : Sends P tab tab') (h₂ : Sends P tab' tab'') : Sends P tab tab'' := by
  obtain ⟨messages, hsent, hm⟩ := h₁
  obtain ⟨messages', hsent', hm'⟩ := h₂
  refine ⟨messages ++ messages', by rw [hsent', hsent, List.append_assoc], ?_⟩
  intro m hmem
  rcases List.mem_append.mp hmem with hmem | hmem
  · exact hm m hmem
  · exact hm' m hmem

theorem mono (h : Sends P tab tab') (hPQ : ∀ body, P body → Q body) : Sends Q tab tab' := by
  obtain ⟨messages, hsent, hm⟩ := h
  exact ⟨messages, hsent, fun m hmem => hPQ _ (hm m hmem)⟩

theorem sendNew (uuid : Nat → CommandId) (tab : Tab) (token : Option SessionToken) {body : CommandBody} (h : P body) :
    Sends P tab (tab.sendNew uuid token body) := by
  unfold Tab.sendNew Tab.send
  split
  · exact ⟨[_], rfl, fun m hm => List.mem_singleton.mp hm ▸ h⟩
  · exact .of_same rfl

end Sends

/-! ### The transport -/

/-- Only the state `AUTHENTICATED` has something sent. -/
theorem setState_sends (tab : Tab) {next : WsState} (hnext : next ≠ .authenticated) :
    Sends P tab (tab.setState uuid next) := by
  unfold Tab.setState Tab.onStateChange
  simp only [hnext, if_false]
  split
  · exact .refl tab
  · exact .of_same rfl

/-- The `RECONNECT` carries the number in the rendered state. -/
theorem setState_authenticated_sends (tab : Tab) (h : ∀ roomId, P (.reconnect roomId tab.state.lastReceivedSeq)) :
    Sends P tab (tab.setState uuid .authenticated) := by
  unfold Tab.setState Tab.onStateChange
  simp only [if_true]
  split
  · exact .refl tab
  · split
    · exact Sends.trans (.of_same rfl) (.sendNew _ _ _ (h _))
    · exact .of_same rfl

theorem scheduleRetry_sends (tab : Tab) : Sends P tab (tab.scheduleRetry uuid) := by
  unfold Tab.scheduleRetry
  split
  · exact .refl tab
  split
  · exact setState_sends tab (by decide)
  · exact (setState_sends tab (by decide)).trans (.of_same rfl)

theorem openSocket_sends (tab : Tab) (throws : Bool) : Sends P tab (tab.openSocket uuid throws) := by
  have hopening : Sends P tab (tab.setState uuid (if tab.client.retryCount = 0 then .connecting else .reconnecting)) := by
    refine setState_sends tab ?_
    split <;> decide
  unfold Tab.openSocket
  dsimp only
  split
  · exact hopening.trans (scheduleRetry_sends _)
  · exact hopening.trans (.of_same rfl)

theorem onOpen_sends (h : ∀ token, P (.auth token)) (tab : Tab) : Sends P tab (tab.onOpen uuid) := by
  unfold Tab.onOpen Tab.sendAuth
  have hopened : Sends P tab ((tab.updateClient fun client =>
      { client with ws := some ⟨.open, none⟩, retryCount := 0 }).setState uuid .connected) :=
    Sends.trans (.of_same rfl) (setState_sends _ (by decide))
  exact (hopened.trans (.sendNew _ _ _ (h _))).trans (.of_same rfl)

theorem onClose_sends (tab : Tab) (code : Nat) : Sends P tab (tab.onClose uuid code) := by
  unfold Tab.onClose
  dsimp only
  split
  · exact .of_same rfl
  split
  · exact Sends.trans (.of_same rfl) (setState_sends _ (by decide))
  · exact Sends.trans (.of_same rfl) (scheduleRetry_sends _)

theorem destroy_sends (tab : Tab) : Sends P tab (tab.destroy uuid) :=
  Sends.trans (.of_same rfl) (setState_sends _ (by decide))

theorem sendPing_sends (h : ∀ clientTime, P (.ping clientTime)) (tab : Tab) : Sends P tab (tab.sendPing uuid) := by
  unfold Tab.sendPing
  split
  · exact .refl tab
  · exact (Sends.sendNew uuid tab _ (h _)).trans (.of_same rfl)

/-! ### Frames -/

mutual

/-- Handling an event sends nothing: the transport and the user do. -/
theorem dispatchRoomEvent_sent : ∀ (event : EventEnvelope RoomPayload) (tab : Tab),
    (Tab.dispatchRoomEvent event tab).sent = tab.sent
  | ⟨roomId, seq, correlationId, payload⟩, tab => by
    rw [Tab.dispatchRoomEvent]
    exact dispatchPayload_sent payload roomId seq correlationId tab

theorem dispatchPayload_sent : ∀ (payload : RoomPayload) (roomId : RoomId) (seq : Nat) (correlationId : Option CommandId)
    (tab : Tab), (Tab.dispatchPayload payload roomId seq correlationId tab).sent = tab.sent
  | .stateSyncReplay _ _ events, _, _, _, tab => by
    rw [Tab.dispatchPayload]
    exact dispatchEach_sent events tab
  | .roomJoined .., _, _, _, _ => rfl
  | .playerJoined .., _, _, _, _ => rfl
  | .roomLeft, _, _, _, _ => rfl
  | .playerLeft .., _, _, _, _ => rfl
  | .playerReadyAck _, _, _, _, _ => rfl
  | .opponentReady .., _, _, _, _ => rfl
  | .gameStarted .., _, _, _, _ => rfl
  | .moveAck .., _, _, _, _ => rfl
  | .moveBroadcast .., _, _, _, _ => rfl
  | .moveRejected .., _, _, _, _ => rfl
  | .gameFinished .., _, _, _, _ => rfl
  | .rematchRequested .., _, _, _, _ => rfl
  | .rematchDeclined .., _, _, _, _ => rfl
  | .rematchExpired _, _, _, _, _ => rfl
  | .opponentDisconnected .., _, _, _, _ => rfl
  | .opponentReconnected _, _, _, _, _ => rfl
  | .reconnectAck .., _, _, _, _ => rfl
  | .stateSyncSnapshot _, _, _, _, _ => rfl

theorem dispatchEach_sent : ∀ (events : List (EventEnvelope RoomPayload)) (tab : Tab),
    (Tab.dispatchEach events tab).sent = tab.sent
  | [], _ => rfl
  | event :: events, tab => by
    rw [Tab.dispatchEach, dispatchEach_sent events, dispatchRoomEvent_sent event]

end

theorem dispatchEvent_sent (tab : Tab) (event : Event) : (tab.dispatchEvent event).sent = tab.sent := by
  cases event with
  | authAck token playerId version existingRoom id =>
    cases existingRoom with
    | none => rfl
    | some room => rfl
  | pong | error => rfl
  | room event => exact dispatchRoomEvent_sent event tab

theorem restoreHead_sent (tab : Tab) (event : Event) : (tab.restoreHead event).sent = tab.sent := by
  unfold Tab.restoreHead
  split <;> rfl

/-- What a frame has sent is what the transport sends before the event is handled. -/
theorem handleFrame_sends {event : Event} (h : Sends P tab (tab.receive uuid event)) :
    Sends P tab (tab.handleFrame uuid event) :=
  h.trans (.of_same ((restoreHead_sent _ event).trans (dispatchEvent_sent _ event)))

theorem receive_room_sends (h : ∀ roomId fromSeq, P (.syncRequest roomId fromSeq)) (tab : Tab) (event : RoomEvent) :
    Sends P tab (tab.receive uuid (.room event)) := by
  unfold Tab.receive
  dsimp only
  split
  · unfold Tab.onSequenceGap
    split
    · exact .sendNew uuid tab _ (h _ _)
    · exact .refl tab
  · exact .of_same rfl

theorem receive_sends (tab : Tab) (hreconnect : ∀ roomId, P (.reconnect roomId tab.state.lastReceivedSeq))
    (hsync : ∀ roomId fromSeq, P (.syncRequest roomId fromSeq)) (event : Event) :
    Sends P tab (tab.receive uuid event) := by
  cases event with
  | authAck => exact Sends.trans (.of_same rfl) (setState_authenticated_sends _ hreconnect)
  | pong => exact .of_same rfl
  | error => exact .refl tab
  | room event => exact receive_room_sends hsync tab event

/-! ### Steps -/

theorem roomCommand_sends {act : SessionToken → RoomId → Tab} (h : ∀ t r, Sends P tab (act t r)) :
    Sends P tab (tab.roomCommand act) := by
  unfold Tab.roomCommand
  split
  · exact h _ _
  · exact .refl tab

theorem gameCommand_sends {act : SessionToken → RoomId → GameId → Tab} (h : ∀ t r g, Sends P tab (act t r g)) :
    Sends P tab (tab.gameCommand act) := by
  refine roomCommand_sends fun t r => ?_
  split
  · exact h _ _ _
  · exact .refl tab

theorem joinRoom_sends (tab : Tab) (roomId : RoomId) (h : P (.joinRoom roomId none)) :
    Sends P tab (tab.joinRoom uuid roomId) := by
  unfold Tab.joinRoom
  split
  · exact .sendNew uuid tab _ h
  · exact .refl tab

theorem leaveRoom_sends (tab : Tab) (h : ∀ roomId, P (.leaveRoom roomId)) : Sends P tab (tab.leaveRoom uuid) :=
  roomCommand_sends fun _ r => (Sends.sendNew uuid tab _ (h r)).trans (.of_same rfl)

theorem makeMove_sends (tab : Tab) (row col : JsNumber) (h : ∀ r g, P (.makeMove r g ⟨row, col⟩)) :
    Sends P tab (tab.makeMove uuid row col) := by
  unfold Tab.makeMove
  split
  · exact .refl tab
  refine gameCommand_sends fun t r g => ?_
  split
  · exact .refl tab
  split
  · exact .refl tab
  · exact Sends.trans (.of_same rfl) (.sendNew _ _ _ (h r g))

/-- The types of the commands that an input can have sent. -/
def TabInput.commandTypes : TabInput → List CommandType
  | .opened => [.AUTH]
  | .received _ => [.RECONNECT, .SYNC_REQUEST]
  | .pingDue => [.PING]
  | .joinRoom _ => [.JOIN_ROOM]
  | .leaveRoom => [.LEAVE_ROOM]
  | .playerReady => [.PLAYER_READY]
  | .makeMove .. => [.MAKE_MOVE]
  | .requestRematch => [.REQUEST_REMATCH]
  | .acceptRematch => [.ACCEPT_REMATCH]
  | .declineRematch => [.DECLINE_REMATCH]
  | _ => []

theorem callback_sends (h : tab.callback uuid i = some tab') : Sends (fun body => body.type ∈ i.commandTypes) tab tab' := by
  cases i with
  | received event =>
    simp only [Tab.callback, Option.ite_none_right_eq_some, Option.some.injEq] at h
    obtain ⟨-, rfl⟩ := h
    cases event with
    | none => exact .refl tab
    | some event =>
      have hreconnect : ∀ roomId, (CommandBody.reconnect roomId tab.state.lastReceivedSeq).type ∈
          [CommandType.RECONNECT, .SYNC_REQUEST] := fun _ => List.mem_cons_self
      have hsync : ∀ roomId seq, (CommandBody.syncRequest roomId seq).type ∈ [CommandType.RECONNECT, .SYNC_REQUEST] :=
        fun _ _ => List.mem_cons_of_mem _ List.mem_cons_self
      exact handleFrame_sends (receive_sends tab hreconnect hsync event)
  | tick => exact Option.some.inj h ▸ .of_same rfl
  | connect =>
    simp only [Tab.callback, Option.ite_none_right_eq_some, Option.some.injEq] at h
    exact h.2 ▸ openSocket_sends tab _
  | opened =>
    simp only [Tab.callback, Option.ite_none_right_eq_some, Option.some.injEq] at h
    exact h.2 ▸ onOpen_sends (fun _ => List.mem_cons_self) tab
  | socketClosed =>
    simp only [Tab.callback, Option.ite_none_right_eq_some, Option.some.injEq] at h
    exact h.2 ▸ onClose_sends tab _
  | retry =>
    simp only [Tab.callback, Option.ite_none_right_eq_some, Option.some.injEq] at h
    exact h.2 ▸ (Sends.updateClient tab _).trans (openSocket_sends _ _)
  | pingDue =>
    simp only [Tab.callback, Option.ite_none_right_eq_some, Option.some.injEq] at h
    exact h.2 ▸ sendPing_sends (fun _ => List.mem_cons_self) tab
  | pongMissing | lostPongMissing =>
    simp only [Tab.callback, Option.ite_none_right_eq_some, Option.some.injEq] at h
    exact h.2 ▸ .of_same rfl
  | unmount => exact Option.some.inj h ▸ destroy_sends tab
  | joinRoom => exact Option.some.inj h ▸ joinRoom_sends tab _ List.mem_cons_self
  | leaveRoom => exact Option.some.inj h ▸ leaveRoom_sends tab fun _ => List.mem_cons_self
  | playerReady => exact Option.some.inj h ▸ roomCommand_sends fun _ _ => .sendNew uuid tab _ List.mem_cons_self
  | makeMove => exact Option.some.inj h ▸ makeMove_sends tab _ _ fun _ _ => List.mem_cons_self
  | requestRematch | acceptRematch | declineRematch =>
    exact Option.some.inj h ▸ gameCommand_sends fun _ _ _ => .sendNew uuid tab _ List.mem_cons_self

theorem step_sends (h : tab.step uuid i = some tab') : Sends (fun body => body.type ∈ i.commandTypes) tab tab' := by
  obtain ⟨u, hu, rfl⟩ := Option.map_eq_some_iff.mp h
  exact (callback_sends hu).trans (.of_same rfl)

end Client
end TicTacToe
