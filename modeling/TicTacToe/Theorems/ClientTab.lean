import TicTacToe.Client.Tab

/-! # What the callbacks of a tab dispatch

A callback leaves the rendered state alone and dispatches actions, which are applied afterwards. -/

namespace TicTacToe

/-! ### The parts of an event -/

mutual

/-- The payloads that are handled with a payload: those of the events of a replay, or the payload itself. -/
def RoomPayload.parts : RoomPayload → List RoomPayload
  | .stateSyncReplay _ _ events => partsOfEach events
  | payload => [payload]

def partsOf : EventEnvelope RoomPayload → List RoomPayload
  | ⟨_, _, _, payload⟩ => payload.parts

def partsOfEach : List (EventEnvelope RoomPayload) → List RoomPayload
  | [] => []
  | event :: events => partsOf event ++ partsOfEach events

end

/-- The payload carries other events. -/
def RoomPayload.isReplay : RoomPayload → Bool
  | .stateSyncReplay .. => true
  | _ => false

namespace Client
variable {uuid : Nat → CommandId} {tab tab' tab'' : Tab} {P Q : GameAction → Prop} {config : WsClientConfig}

/-- The rendered state is the same, and the actions dispatched since all meet `P`. -/
structure Queues (P : GameAction → Prop) (tab tab' : Tab) : Prop where
  state : tab'.state = tab.state
  queue : ∃ actions, tab'.queue = tab.queue ++ actions ∧ ∀ a ∈ actions, P a

namespace Queues

theorem refl (tab : Tab) : Queues P tab tab := ⟨rfl, [], by simp, by simp⟩

theorem trans (h₁ : Queues P tab tab') (h₂ : Queues P tab' tab'') : Queues P tab tab'' := by
  obtain ⟨actions, hq, ha⟩ := h₁.queue
  obtain ⟨actions', hq', ha'⟩ := h₂.queue
  refine ⟨h₂.state.trans h₁.state, actions ++ actions', by rw [hq', hq, List.append_assoc], fun a hmem => ?_⟩
  rcases List.mem_append.mp hmem with hmem | hmem
  · exact ha a hmem
  · exact ha' a hmem

theorem mono (h : Queues P tab tab') (hPQ : ∀ a, P a → Q a) : Queues Q tab tab' := by
  obtain ⟨actions, hq, ha⟩ := h.queue
  exact ⟨h.state, actions, hq, fun a hmem => hPQ a (ha a hmem)⟩

theorem of_same (hs : tab'.state = tab.state) (hq : tab'.queue = tab.queue) : Queues P tab tab' :=
  ⟨hs, [], by simp [hq], by simp⟩

theorem dispatch {a : GameAction} (tab : Tab) (ha : P a) : Queues P tab (tab.dispatch a) :=
  ⟨rfl, [a], rfl, fun _ hb => List.mem_singleton.mp hb ▸ ha⟩

theorem updateClient (tab : Tab) (f : WsClient → WsClient) : Queues P tab (tab.updateClient f) := .of_same rfl rfl

theorem sendNew (uuid : Nat → CommandId) (tab : Tab) (token : Option SessionToken) (body : CommandBody) :
    Queues P tab (tab.sendNew uuid token body) := by
  unfold Tab.sendNew Tab.send
  split
  · exact .of_same rfl rfl
  · exact .of_same rfl rfl

end Queues

/-! ### The transport -/

section Transport
variable (hP : ∀ wsState, P (.wsStateChanged wsState))
include hP

theorem onStateChange_queues (tab : Tab) (next : WsState) : Queues P tab (tab.onStateChange uuid next) := by
  have hdispatched := Queues.dispatch tab (hP next)
  unfold Tab.onStateChange
  dsimp only
  split
  · split
    · exact hdispatched.trans (.sendNew _ _ _ _)
    · exact hdispatched
  · exact hdispatched

theorem setState_queues (tab : Tab) (next : WsState) : Queues P tab (tab.setState uuid next) := by
  unfold Tab.setState
  split
  · exact .refl tab
  · exact (Queues.updateClient tab _).trans (onStateChange_queues hP _ _)

theorem scheduleRetry_queues (tab : Tab) : Queues P tab (tab.scheduleRetry uuid) := by
  unfold Tab.scheduleRetry
  split
  · exact .refl tab
  split
  · exact setState_queues hP tab _
  · exact (setState_queues hP tab _).trans (.updateClient _ _)

theorem openSocket_queues (tab : Tab) (throws : Bool) : Queues P tab (tab.openSocket uuid throws) := by
  unfold Tab.openSocket
  dsimp only
  split
  · exact (setState_queues hP tab _).trans (scheduleRetry_queues hP _)
  · exact (setState_queues hP tab _).trans (.updateClient _ _)

theorem onOpen_queues (tab : Tab) : Queues P tab (tab.onOpen uuid) := by
  unfold Tab.onOpen Tab.sendAuth
  have hopened : Queues P tab ((tab.updateClient fun client =>
      { client with ws := some ⟨.open, none⟩, retryCount := 0 }).setState uuid .connected) :=
    (Queues.updateClient tab _).trans (setState_queues hP _ _)
  exact (hopened.trans (.sendNew _ _ _ _)).trans (.updateClient _ _)

theorem onClose_queues (tab : Tab) (code : Nat) : Queues P tab (tab.onClose uuid code) := by
  unfold Tab.onClose
  dsimp only
  split
  · exact .updateClient tab _
  split
  · exact (Queues.updateClient tab _).trans (setState_queues hP _ _)
  · exact (Queues.updateClient tab _).trans (scheduleRetry_queues hP _)

theorem destroy_queues (tab : Tab) : Queues P tab (tab.destroy uuid) :=
  (Queues.updateClient tab _).trans (setState_queues hP _ _)

end Transport

/-! ### Commands of the user -/

theorem sendPing_queues (tab : Tab) : Queues P tab (tab.sendPing uuid) := by
  unfold Tab.sendPing
  split
  · exact .refl tab
  · exact (Queues.sendNew uuid tab _ _).trans (.updateClient _ _)

theorem roomCommand_queues {act : SessionToken → RoomId → Tab} (h : ∀ t r, Queues P tab (act t r)) :
    Queues P tab (tab.roomCommand act) := by
  unfold Tab.roomCommand
  split
  · exact h _ _
  · exact .refl tab

theorem gameCommand_queues {act : SessionToken → RoomId → GameId → Tab} (h : ∀ t r g, Queues P tab (act t r g)) :
    Queues P tab (tab.gameCommand act) := by
  refine roomCommand_queues fun t r => ?_
  split
  · exact h _ _ _
  · exact .refl tab

theorem joinRoom_queues (tab : Tab) (roomId : RoomId) : Queues P tab (tab.joinRoom uuid roomId) := by
  unfold Tab.joinRoom
  split
  · exact .sendNew uuid tab _ _
  · exact .refl tab

theorem leaveRoom_queues (hP : P .leaveRoom) (tab : Tab) : Queues P tab (tab.leaveRoom uuid) :=
  roomCommand_queues fun _ _ => ((Queues.sendNew uuid tab _ _).trans (.dispatch _ hP)).trans (.updateClient _ _)

theorem makeMove_queues {row col : JsNumber} (hP : ∀ id board, P (.moveOptimistic id row col board)) (tab : Tab) :
    Queues P tab (tab.makeMove uuid row col) := by
  unfold Tab.makeMove
  split
  · exact .refl tab
  refine gameCommand_queues fun t r g => ?_
  split
  · exact .refl tab
  split
  · exact .refl tab
  · exact (Queues.dispatch tab (hP _ _)).trans (.sendNew _ _ _ _)

/-! ### Frames -/

theorem receive_queues (hws : ∀ wsState, P (.wsStateChanged wsState)) (hlatency : P .latencyMeasured) (tab : Tab)
    (event : Event) : Queues P tab (tab.receive uuid event) := by
  unfold Tab.receive
  split
  · exact (Queues.updateClient tab _).trans (setState_queues hws _ _)
  · exact (Queues.updateClient tab _).trans (.dispatch _ hlatency)
  · exact .refl tab
  · split
    · unfold Tab.onSequenceGap
      split
      · exact .sendNew uuid tab _ _
      · exact .refl tab
    · exact .updateClient tab _

theorem restoreHead_queues (tab : Tab) (event : Event) : Queues P tab (tab.restoreHead event) := by
  unfold Tab.restoreHead
  split
  · exact .updateClient tab _
  · exact .updateClient tab _
  · exact .refl tab

/-- The room event goes past the transport without an action of its own. -/
theorem receive_room_queues (uuid : Nat → CommandId) (tab : Tab) (event : RoomEvent) :
    Queues P tab (tab.receive uuid (.room event)) := by
  unfold Tab.receive
  dsimp only
  split
  · unfold Tab.onSequenceGap
    split
    · exact .sendNew uuid tab _ _
    · exact .refl tab
  · exact .updateClient tab _

/-! ### Events -/

/-- The actions of a payload all meet `P`. -/
def Dispatches (P : GameAction → Prop) (payload : RoomPayload) : Prop :=
  ∀ roomId seq correlationId tab, Queues P tab (Tab.dispatchPayload payload roomId seq correlationId tab)

mutual

/-- Along the events of a replay: `P` is asked of the parts that are no replays themselves. -/
theorem dispatchRoomEvent_queues (hseq : ∀ seq, P (.seqAdvanced seq)) : ∀ (event : EventEnvelope RoomPayload) (tab : Tab),
    (∀ payload ∈ partsOf event, payload.isReplay = false → Dispatches P payload) →
    Queues P tab (Tab.dispatchRoomEvent event tab)
  | ⟨roomId, seq, correlationId, payload⟩, tab, h => by
    rw [Tab.dispatchRoomEvent]
    exact (dispatchPayload_queues hseq payload roomId seq correlationId tab h).trans (.dispatch _ (hseq seq))

theorem dispatchPayload_queues (hseq : ∀ seq, P (.seqAdvanced seq)) : ∀ (payload : RoomPayload) (roomId : RoomId)
    (seq : Nat) (correlationId : Option CommandId) (tab : Tab),
    (∀ part ∈ payload.parts, part.isReplay = false → Dispatches P part) →
    Queues P tab (Tab.dispatchPayload payload roomId seq correlationId tab)
  | .stateSyncReplay _ _ events, _, _, _, tab, h => by
    rw [Tab.dispatchPayload]
    exact dispatchEach_queues hseq events tab h
  | .roomJoined .., _, _, _, _, h => h _ List.mem_cons_self rfl _ _ _ _
  | .playerJoined .., _, _, _, _, h => h _ List.mem_cons_self rfl _ _ _ _
  | .roomLeft, _, _, _, _, h => h _ List.mem_cons_self rfl _ _ _ _
  | .playerLeft .., _, _, _, _, h => h _ List.mem_cons_self rfl _ _ _ _
  | .playerReadyAck _, _, _, _, _, h => h _ List.mem_cons_self rfl _ _ _ _
  | .opponentReady .., _, _, _, _, h => h _ List.mem_cons_self rfl _ _ _ _
  | .gameStarted .., _, _, _, _, h => h _ List.mem_cons_self rfl _ _ _ _
  | .moveAck .., _, _, _, _, h => h _ List.mem_cons_self rfl _ _ _ _
  | .moveBroadcast .., _, _, _, _, h => h _ List.mem_cons_self rfl _ _ _ _
  | .moveRejected .., _, _, _, _, h => h _ List.mem_cons_self rfl _ _ _ _
  | .gameFinished .., _, _, _, _, h => h _ List.mem_cons_self rfl _ _ _ _
  | .rematchRequested .., _, _, _, _, h => h _ List.mem_cons_self rfl _ _ _ _
  | .rematchDeclined .., _, _, _, _, h => h _ List.mem_cons_self rfl _ _ _ _
  | .rematchExpired _, _, _, _, _, h => h _ List.mem_cons_self rfl _ _ _ _
  | .opponentDisconnected .., _, _, _, _, h => h _ List.mem_cons_self rfl _ _ _ _
  | .opponentReconnected _, _, _, _, _, h => h _ List.mem_cons_self rfl _ _ _ _
  | .reconnectAck .., _, _, _, _, h => h _ List.mem_cons_self rfl _ _ _ _
  | .stateSyncSnapshot _, _, _, _, _, h => h _ List.mem_cons_self rfl _ _ _ _

theorem dispatchEach_queues (hseq : ∀ seq, P (.seqAdvanced seq)) :
    ∀ (events : List (EventEnvelope RoomPayload)) (tab : Tab),
    (∀ payload ∈ partsOfEach events, payload.isReplay = false → Dispatches P payload) →
    Queues P tab (Tab.dispatchEach events tab)
  | [], tab, _ => .refl tab
  | event :: events, tab, h => by
    rw [Tab.dispatchEach]
    exact (dispatchRoomEvent_queues hseq event tab fun payload hp => h payload (List.mem_append_left _ hp)).trans
      (dispatchEach_queues hseq events _ fun payload hp => h payload (List.mem_append_right _ hp))

end

/-! ### Inputs -/

/-- What an input has dispatched: the transport's own actions apart, this depends on the frame or on the command. -/
theorem callback_queues {i : TabInput} (hws : ∀ wsState, P (.wsStateChanged wsState)) (hlatency : P .latencyMeasured)
    (hevent : ∀ event tab, i = .received (some event) → Queues P tab (tab.dispatchEvent event))
    (hleave : i = .leaveRoom → P .leaveRoom)
    (hmove : ∀ row col, i = .makeMove row col → ∀ id board, P (.moveOptimistic id row col board))
    (h : tab.callback uuid i = some tab') : Queues P tab tab' := by
  cases i with
  | received event =>
    simp only [Tab.callback, Option.ite_none_right_eq_some, Option.some.injEq] at h
    obtain ⟨-, rfl⟩ := h
    cases event with
    | none => exact .refl tab
    | some event =>
      exact ((receive_queues hws hlatency tab event).trans (hevent event _ rfl)).trans (restoreHead_queues _ event)
  | tick => exact Option.some.inj h ▸ .of_same rfl rfl
  | connect =>
    simp only [Tab.callback, Option.ite_none_right_eq_some, Option.some.injEq] at h
    exact h.2 ▸ openSocket_queues hws tab _
  | opened =>
    simp only [Tab.callback, Option.ite_none_right_eq_some, Option.some.injEq] at h
    exact h.2 ▸ onOpen_queues hws tab
  | socketClosed =>
    simp only [Tab.callback, Option.ite_none_right_eq_some, Option.some.injEq] at h
    exact h.2 ▸ onClose_queues hws tab _
  | retry =>
    simp only [Tab.callback, Option.ite_none_right_eq_some, Option.some.injEq] at h
    exact h.2 ▸ (Queues.updateClient tab _).trans (openSocket_queues hws _ _)
  | pingDue =>
    simp only [Tab.callback, Option.ite_none_right_eq_some, Option.some.injEq] at h
    exact h.2 ▸ sendPing_queues tab
  | pongMissing | lostPongMissing =>
    simp only [Tab.callback, Option.ite_none_right_eq_some, Option.some.injEq] at h
    exact h.2 ▸ .updateClient tab _
  | unmount => exact Option.some.inj h ▸ destroy_queues hws tab
  | joinRoom => exact Option.some.inj h ▸ joinRoom_queues tab _
  | leaveRoom => exact Option.some.inj h ▸ leaveRoom_queues (hleave rfl) tab
  | playerReady => exact Option.some.inj h ▸ roomCommand_queues fun _ _ => .sendNew uuid tab _ _
  | makeMove row col => exact Option.some.inj h ▸ makeMove_queues (hmove row col rfl) tab
  | requestRematch | acceptRematch | declineRematch =>
    exact Option.some.inj h ▸ gameCommand_queues fun _ _ _ => .sendNew uuid tab _ _

/-! ### Rendering -/

/-- After a step there is nothing left to apply. -/
theorem step_queue {i : TabInput} (h : tab.step uuid i = some tab') : tab'.queue = [] := by
  obtain ⟨u, -, rfl⟩ := Option.map_eq_some_iff.mp h
  rfl

theorem runs_queue {C : Tab → TabInput → Prop} {now : Millis} {token : Option SessionToken} {room : Option RoomId}
    (hrun : Tab.Runs uuid C (.load config now token room) tab) : tab.queue = [] :=
  hrun.invariant (P := fun tab => tab.queue = []) rfl fun _ _ _ _ _ hstep => step_queue hstep

/-- What a fold of the reducer over actions that meet `P` keeps. -/
theorem foldl_keeps {I : ClientState → Prop} {actions : List GameAction} {state : ClientState} (hs : I state)
    (hstep : ∀ state a, I state → P a → I (gameReducer state a)) (ha : ∀ a ∈ actions, P a) :
    I (actions.foldl gameReducer state) := by
  induction actions generalizing state with
  | nil => exact hs
  | cons a actions ih =>
    exact ih (hstep state a hs (ha a List.mem_cons_self)) fun b hb => ha b (List.mem_cons_of_mem _ hb)

/-- What the actions of a callback keep is kept by the render after it. -/
theorem Queues.render {I : ClientState → Prop} (h : Queues P tab tab') (hempty : tab.queue = []) (hs : I tab.state)
    (hstep : ∀ state a, I state → P a → I (gameReducer state a)) : I tab'.render.state := by
  obtain ⟨actions, hq, ha⟩ := h.queue
  rw [hempty, List.nil_append] at hq
  rw [Tab.render, hq, h.state]
  exact foldl_keeps hs hstep ha

end Client
end TicTacToe
