import TicTacToe.Lib.Overwriting
import TicTacToe.Theorems.Roster

/-! # How a game stands

The board, the turn, the status, the id and the result of the game in a room: a client goes by the events, each of which
sets some of them. -/

namespace TicTacToe

structure Standing where
  board : BoardSnapshot
  turn : PlayerSymbol
  status : GameStatus
  gameId : Option GameId
  result : Option GameResult
  deriving DecidableEq

/-- How things stand while no game has been started. -/
def Standing.initial : Standing := ⟨EMPTY_BOARD, .X, .waiting, none, none⟩

def GameState.standing (state : GameState) : Standing :=
  ⟨state.board, state.currentTurn, state.status, some state.gameId, state.result⟩

def CurrentGame.standing (game : CurrentGame) : Standing :=
  ⟨game.board, game.currentTurn, game.status, some game.gameId, game.result⟩

def RoomStateSnapshot.standing (roomState : RoomStateSnapshot) : Standing :=
  (roomState.currentGame.map CurrentGame.standing).getD .initial

/-! ### Changes -/

/-- What an event sets. -/
structure Change where
  board : Option BoardSnapshot := none
  turn : Option PlayerSymbol := none
  status : Option GameStatus := none
  gameId : Option (Option GameId) := none
  result : Option (Option GameResult) := none

namespace Change

/-- Everything is set. -/
def all (v : Standing) : Change := ⟨some v.board, some v.turn, some v.status, some v.gameId, some v.result⟩

def apply (v : Standing) (change : Change) : Standing where
  board := change.board.getD v.board
  turn := change.turn.getD v.turn
  status := change.status.getD v.status
  gameId := change.gameId.getD v.gameId
  result := change.result.getD v.result

@[simp] theorem apply_all (v w : Standing) : apply v (all w) = w := rfl

@[simp] theorem apply_nothing (v : Standing) : apply v {} = v := rfl

theorem getD_getD {α : Type} (x : Option α) (v : α) : x.getD (x.getD v) = x.getD v := by cases x <;> rfl

theorem getD_latest {α : Type} (x y : Option α) (v : α) : x.getD (y.getD (x.getD v)) = x.getD (y.getD v) := by
  cases x <;> rfl

theorem apply_overwriting : Overwriting apply :=
  ⟨fun v a => by simp only [apply, getD_getD], fun v a b => by simp only [apply, getD_latest]⟩

end Change

namespace RoomPayload

def change : RoomPayload → Change
  | roomJoined _ _ roomState => .all roomState.standing
  | gameStarted gameId board firstTurn _ _ => .all ⟨board, firstTurn, .active, some gameId, none⟩
  | moveAck _ _ _ _ board nextTurn => { board := some board, turn := nextTurn }
  | moveBroadcast _ _ _ _ _ board nextTurn => { board := some board, turn := nextTurn }
  | moveRejected _ _ _ board currentTurn => { board := some board, turn := some currentTurn }
  | gameFinished _ result finalBoard _ _ =>
    { board := some finalBoard, status := some .finished, result := some (some result) }
  | reconnectAck _ _ roomState => .all roomState.standing
  | stateSyncSnapshot roomState => .all roomState.standing
  | _ => {}

end RoomPayload

namespace Standing

/-- How the game stands after an event: those of a replay count one by one. -/
def hear (v : Standing) (payload : RoomPayload) : Standing :=
  (payload.parts.map RoomPayload.change).foldl Change.apply v

theorem hear_overwriting : Overwriting hear :=
  Change.apply_overwriting.lists.comap fun payload : RoomPayload => payload.parts.map RoomPayload.change

def learn (v : Standing) : Event → Standing
  | .room event => v.hear event.payload
  | _ => v

theorem hear_of_change {payload : RoomPayload} (h : payload.isReplay = false) (v : Standing) :
    v.hear payload = Change.apply v payload.change := by
  cases payload with
  | stateSyncReplay => cases h
  | _ => rfl

theorem hear_replay (v : Standing) (fromSeq toSeq : Nat) (events : List RoomEvent) :
    v.hear (.stateSyncReplay fromSeq toSeq events) = events.foldl (fun v event => v.hear event.payload) v := by
  have heach : ∀ v, ((partsOfEach events).map RoomPayload.change).foldl Change.apply v =
      events.foldl (fun v event => v.hear event.payload) v := by
    induction events with
    | nil => exact fun v => rfl
    | cons event events ih =>
      intro v
      obtain ⟨roomId, seq, id, payload⟩ := event
      rw [partsOfEach, List.map_append, List.foldl_append, List.foldl_cons, ih]
      rfl
  exact heach v

/-- An event that lets a client into a room sets everything. -/
theorem hear_admits {payload : RoomPayload} (h : payload.admits = true) (v w : Standing) :
    v.hear payload = w.hear payload := by
  cases payload with
  | roomJoined | reconnectAck => rfl
  | _ => cases h

end Standing

namespace Client
variable {uuid : Nat → CommandId} {tab tab' : Tab} {i : TabInput}

def ClientState.standing (state : ClientState) : Standing :=
  ⟨state.confirmedBoard, state.confirmedTurn, state.gameStatus, state.gameId, state.gameResult⟩

/-! ### Actions -/

/-- The action is about the game itself. -/
def GameAction.plays : GameAction → Bool
  | .roomJoined .. => true
  | .gameStarted .. => true
  | .moveAck .. => true
  | .moveBroadcast .. => true
  | .moveRejected .. => true
  | .gameFinished .. => true
  | .reconnectAck .. => true
  | .leaveRoom => true
  | _ => false

theorem reducer_standing {a : GameAction} (h : a.plays = false) (state : ClientState) :
    (gameReducer state a).standing = state.standing := by
  cases a with
  | roomJoined | gameStarted | moveAck | moveBroadcast | moveRejected | gameFinished | reconnectAck | leaveRoom => cases h
  | moveOptimistic id row col board =>
    unfold gameReducer
    dsimp only
    split
    · rfl
    · rfl
  | _ => rfl

/-- How the game stands once the dispatched actions are applied. -/
def Tab.standing (tab : Tab) : Standing := (tab.queue.foldl gameReducer tab.state).standing

theorem dispatch_standing (tab : Tab) (a : GameAction) :
    (tab.dispatch a).standing = (gameReducer (tab.queue.foldl gameReducer tab.state) a).standing := by
  rw [Tab.standing, Tab.dispatch, List.foldl_append]
  rfl

theorem standing_of_queues (h : Queues (fun a => a.plays = false) tab tab') : tab'.standing = tab.standing := by
  obtain ⟨actions, hq, ha⟩ := h.queue
  rw [Tab.standing, hq, h.state, List.foldl_append]
  exact foldl_keeps (I := fun state => state.standing = tab.standing) rfl
    (fun state a hs ha => (reducer_standing ha state).trans hs) ha

theorem standing_of_empty (h : tab.queue = []) : tab.standing = tab.state.standing := by
  rw [Tab.standing, h]
  rfl

/-! ### Events -/

/-- A snapshot becomes the state of the client. -/
theorem roomFields_standing (symbol : PlayerSymbol) (rs : RoomStateSnapshot) :
    (⟨(Tab.roomFields symbol rs).confirmedBoard, (Tab.roomFields symbol rs).confirmedTurn,
      (Tab.roomFields symbol rs).gameStatus, (Tab.roomFields symbol rs).gameId,
      (Tab.roomFields symbol rs).gameResult⟩ : Standing) = rs.standing := by
  unfold RoomStateSnapshot.standing Tab.roomFields
  cases rs.currentGame with
  | none => rfl
  | some game => rfl

mutual

theorem dispatchRoomEvent_standing : ∀ (event : EventEnvelope RoomPayload) (tab : Tab),
    (Tab.dispatchRoomEvent event tab).standing = tab.standing.hear event.payload
  | ⟨roomId, seq, id, payload⟩, tab => by
    rw [Tab.dispatchRoomEvent, standing_of_queues (.dispatch (P := fun a => a.plays = false) _ rfl)]
    exact dispatchPayload_standing payload roomId seq id tab

theorem dispatchPayload_standing :
    ∀ (payload : RoomPayload) (roomId : RoomId) (seq : Nat) (id : Option CommandId) (tab : Tab),
    (Tab.dispatchPayload payload roomId seq id tab).standing = tab.standing.hear payload
  | .stateSyncReplay fromSeq toSeq events, _, _, _, tab => by
    rw [Tab.dispatchPayload, Standing.hear_replay]
    exact dispatchEach_standing events tab
  | .roomJoined _ symbol roomState, _, _, _, tab => by
    rw [Tab.dispatchPayload, dispatch_standing]
    exact roomFields_standing symbol roomState
  | .reconnectAck _ symbol roomState, _, _, _, tab => by
    rw [Tab.dispatchPayload, dispatch_standing]
    exact roomFields_standing symbol roomState
  | .stateSyncSnapshot roomState, _, _, _, tab => by
    rw [Tab.dispatchPayload, dispatch_standing]
    exact roomFields_standing (tab.state.mySymbol.getD .X) roomState
  | .gameStarted .., _, _, _, tab => by
    rw [Tab.dispatchPayload, dispatch_standing]
    rfl
  | .moveAck .., _, _, _, tab => by
    rw [Tab.dispatchPayload, dispatch_standing]
    rfl
  | .moveBroadcast .., _, _, _, tab => by
    rw [Tab.dispatchPayload, dispatch_standing]
    rfl
  | .moveRejected .., _, _, _, tab => by
    rw [Tab.dispatchPayload, dispatch_standing]
    rfl
  | .gameFinished .., _, _, _, tab => by
    rw [Tab.dispatchPayload, dispatch_standing]
    rfl
  | .roomLeft, _, _, _, tab => rfl
  | .playerJoined .., _, _, _, tab => standing_of_queues (.dispatch tab rfl)
  | .playerLeft .., _, _, _, tab => standing_of_queues (.dispatch tab rfl)
  | .playerReadyAck _, _, _, _, tab => standing_of_queues (.dispatch tab rfl)
  | .opponentReady .., _, _, _, tab => standing_of_queues (.dispatch tab rfl)
  | .rematchRequested .., _, _, _, tab => standing_of_queues (.dispatch tab rfl)
  | .rematchDeclined .., _, _, _, tab => standing_of_queues (.dispatch tab rfl)
  | .rematchExpired _, _, _, _, tab => standing_of_queues (.dispatch tab rfl)
  | .opponentDisconnected .., _, _, _, tab => standing_of_queues (.dispatch tab rfl)
  | .opponentReconnected _, _, _, _, tab => standing_of_queues (.dispatch tab rfl)

theorem dispatchEach_standing : ∀ (events : List (EventEnvelope RoomPayload)) (tab : Tab),
    (Tab.dispatchEach events tab).standing = events.foldl (fun v event => v.hear event.payload) tab.standing
  | [], _ => rfl
  | event :: events, tab => by
    rw [Tab.dispatchEach, dispatchEach_standing events, dispatchRoomEvent_standing event tab]
    rfl

end

/-- An event on its way through the transport to the reducer. -/
theorem handleFrame_standing (tab : Tab) (event : Event) :
    (tab.handleFrame uuid event).standing = tab.standing.learn event := by
  have hreceived : (tab.receive uuid event).standing = tab.standing :=
    standing_of_queues (receive_queues (P := fun a => a.plays = false) (fun _ => rfl) rfl tab event)
  rw [Tab.handleFrame, standing_of_queues (restoreHead_queues _ event), ← hreceived]
  cases event with
  | authAck token playerId version existingRoom id =>
    unfold Tab.dispatchEvent
    dsimp only
    split
    · exact standing_of_queues (.dispatch _ rfl)
    · exact standing_of_queues ((Queues.dispatch (P := fun a => a.plays = false) _ rfl).trans (.updateClient _ _))
  | pong | error => rfl
  | room event => exact dispatchRoomEvent_standing event _

/-! ### Runs of a tab -/

/-- One input that does not leave. -/
theorem step_standing (hempty : tab.queue = []) (hstays : i ≠ .leaveRoom) (hstep : tab.step uuid i = some tab') :
    tab'.state.standing = i.event.toList.foldl Standing.learn tab.state.standing := by
  obtain ⟨u, hu, rfl⟩ := Option.map_eq_some_iff.mp hstep
  have hrender : u.render.state.standing = u.standing := rfl
  rw [hrender, ← standing_of_empty hempty]
  by_cases hevent : ∃ event, i = .received (some event)
  · obtain ⟨event, rfl⟩ := hevent
    simp only [Tab.callback, Option.ite_none_right_eq_some, Option.some.injEq, Option.elim_some] at hu
    obtain ⟨-, rfl⟩ := hu
    exact handleFrame_standing tab event
  · have hnone : i.event = none := by
      cases i with
      | received event =>
        cases event with
        | none => rfl
        | some event => exact absurd ⟨event, rfl⟩ hevent
      | _ => rfl
    rw [hnone]
    exact standing_of_queues (callback_queues (fun _ => rfl) rfl (fun event tab he => absurd ⟨event, he⟩ hevent)
      (fun he => absurd he hstays) (fun _ _ _ _ _ => rfl) hu)

/-- What a tab that does not leave shows has been told in its frames. -/
theorem run_standing {inputs : List TabInput} (hempty : tab.queue = []) (hstays : ∀ i ∈ inputs, i ≠ .leaveRoom)
    (hrun : Transition.run (Tab.step uuid) (fun _ _ => true) tab inputs = some tab') :
    tab'.state.standing = (inputs.filterMap TabInput.event).foldl Standing.learn tab.state.standing := by
  induction inputs generalizing tab with
  | nil =>
    obtain rfl := Option.some.inj hrun
    rfl
  | cons i inputs ih =>
    obtain ⟨u, hu, hrest⟩ := Option.bind_eq_some_iff.mp hrun
    rw [ih (step_queue hu) (fun j hj => hstays j (List.mem_cons_of_mem _ hj)) hrest,
      step_standing hempty (hstays i List.mem_cons_self) hu, List.filterMap_cons]
    cases i.event with
    | none => rfl
    | some event => rfl

/-- A tab that has been let into a room and has not left it goes by what it has been told since. -/
theorem admitted_standing {earlier later : List TabInput} {event : RoomEvent} (hempty : tab.queue = [])
    (hadmits : event.payload.admits = true) (hstays : ∀ i ∈ later, i ≠ .leaveRoom)
    (hafter : after uuid tab (earlier ++ .received (some (.room event)) :: later) = some tab') :
    tab'.state.standing = (later.filterMap TabInput.event).foldl Standing.learn (Standing.initial.hear event.payload) := by
  rw [after, Transition.run_append] at hafter
  obtain ⟨early, hearly, hafter⟩ := Option.bind_eq_some_iff.mp hafter
  obtain ⟨joined, hjoined, hlater⟩ := Option.bind_eq_some_iff.mp hafter
  have hqueue : early.queue = [] :=
    (Transition.runs_of_run (C := fun _ _ => True) (fun _ _ _ => trivial) hearly).invariant
      (P := fun tab => tab.queue = []) hempty fun _ _ _ _ _ hstep => step_queue hstep
  have hheard : joined.state.standing = early.state.standing.hear event.payload :=
    step_standing hqueue (fun he => by cases he) hjoined
  rw [run_standing (step_queue hjoined) hstays hlater, hheard, Standing.hear_admits hadmits _ Standing.initial]

end Client
end TicTacToe
