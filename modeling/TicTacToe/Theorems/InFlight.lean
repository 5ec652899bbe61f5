import TicTacToe.Theorems.ClientSends
import TicTacToe.Theorems.LeftRoom

/-! # Moves in flight

A second click is blocked as long as a move is pending. The reducer clears the pending move at every snapshot, and at
every answer without looking at its id, so that a move can be in flight which is not pending any more. -/

namespace TicTacToe

/-- The snapshot of a room shows game `g`, running. -/
def RoomStateSnapshot.runs (rs : RoomStateSnapshot) (g : GameId) : Bool :=
  rs.currentGame.any fun game => game.gameId = g && game.status = .active

namespace Client
variable {uuid : Nat → CommandId} {tab tab' : Tab} {state : ClientState} {i : TabInput} {id : CommandId} {g : GameId}

/-! ### Answers -/

mutual

/-- The event is the answer to move `id`, or a replay that has it. -/
def answersEvent (id : CommandId) : EventEnvelope RoomPayload → Bool
  | ⟨_, _, correlationId, payload⟩ => answersPayload id correlationId payload

def answersPayload (id : CommandId) (correlationId : Option CommandId) : RoomPayload → Bool
  | .moveAck .. => correlationId = some id
  | .moveRejected .. => correlationId = some id
  | .stateSyncReplay _ _ events => answersEach id events
  | _ => false

def answersEach (id : CommandId) : List (EventEnvelope RoomPayload) → Bool
  | [] => false
  | event :: events => answersEvent id event || answersEach id events

end

/-- The input is a frame with a `MOVE_ACK`, a `MOVE_REJECTED` or an `ERROR` for the command `id`. -/
def TabInput.answers (id : CommandId) : TabInput → Bool
  | .received (some (.error _ _ _ correlationId _)) => correlationId = some id
  | .received (some (.room event)) => answersEvent id event
  | _ => false

/-- The payloads that a frame has the client handle. -/
def TabInput.parts : TabInput → List RoomPayload
  | .received (some (.room event)) => partsOf event
  | _ => []

def isMoveAnswer : RoomPayload → Bool
  | .moveAck .. => true
  | .moveRejected .. => true
  | _ => false

/-- The payload shows game `g` as running, whatever has been shown before. -/
def resumes (g : GameId) : RoomPayload → Bool
  | .roomJoined _ _ roomState => roomState.runs g
  | .reconnectAck _ _ roomState => roomState.runs g
  | .stateSyncSnapshot roomState => roomState.runs g
  | .gameStarted gameId .. => gameId = g
  | _ => false

/-! ### Runs with their moves in flight -/

/-- A tab, with the unanswered moves that it has sent on its connection and their games. -/
abbrev Tracked := Tab × List (CommandId × GameId)

def Message.move (m : Message) : Option (CommandId × GameId) :=
  match m.command.body with
  | .makeMove _ gameId _ => some (m.command.commandId, gameId)
  | _ => none

/-- The moves sent between two states of a tab. -/
def movesSince (tab tab' : Tab) : List (CommandId × GameId) := (tab'.sent.drop tab.sent.length).filterMap Message.move

def TabInput.isOpened : TabInput → Bool
  | .opened => true
  | _ => false

/-- A new connection has no moves in flight. -/
def unansweredAfter (i : TabInput) (flight : List (CommandId × GameId)) : List (CommandId × GameId) :=
  if i.isOpened then [] else flight.filter fun move => !i.answers move.1

def trackedStep (uuid : Nat → CommandId) (x : Tracked) (i : TabInput) : Option Tracked :=
  (x.1.step uuid i).map fun tab => (tab, unansweredAfter i x.2 ++ movesSince x.1 tab)

/-- A frame leaves the moves in flight to their answers: unless it answers such a move, it does not show the game of the
move as running anew, and as long as the move is pending it has no answer to another one. -/
def Undisturbed (x : Tracked) (i : TabInput) : Prop :=
  ∀ move ∈ x.2, i.answers move.1 = false → ∀ payload ∈ i.parts,
    resumes move.2 payload = false ∧
      (x.1.state.pendingMove.map PendingMove.commandId = some move.1 → isMoveAnswer payload = false)

/-! ### What a move in flight waits for -/

/-- The game is not running for the client. -/
def Off (g : GameId) (state : ClientState) : Prop := state.gameId ≠ some g ∨ state.gameStatus ≠ .active

/-- No other move can be made in the game: the move is pending, or the game is not running. -/
def Waits (id : CommandId) (g : GameId) (state : ClientState) : Prop :=
  state.pendingMove.map PendingMove.commandId = some id ∨ Off g state

/-- The action shows game `g` as running. -/
def GameAction.resumes (g : GameId) : GameAction → Bool
  | .roomJoined _ fields => fields.gameId = some g && fields.gameStatus = .active
  | .reconnectAck fields _ => fields.gameId = some g && fields.gameStatus = .active
  | .gameStarted gameId .. => gameId = g
  | _ => false

def GameAction.isMoveAnswer : GameAction → Bool
  | .moveAck .. => true
  | .moveRejected .. => true
  | _ => false

theorem off_of_fields {fields : RoomFields} (h : (fields.gameId = some g && fields.gameStatus = .active) = false)
    (hg : state.gameId = fields.gameId) (hs : state.gameStatus = fields.gameStatus) : Off g state := by
  rw [Off, hg, hs]
  simpa [Classical.or_iff_not_imp_left] using h

theorem reducer_keeps_off {a : GameAction} (hs : Off g state) (ha : a.resumes g = false) : Off g (gameReducer state a) := by
  cases a with
  | roomJoined roomId fields => exact off_of_fields ha rfl rfl
  | reconnectAck fields seq => exact off_of_fields ha rfl rfl
  | gameStarted gameId board firstTurn players startedAt =>
    refine Or.inl fun h => ?_
    obtain rfl := Option.some.inj h
    simp [GameAction.resumes] at ha
  | gameFinished => exact Or.inr (by simp [gameReducer])
  | leaveRoom => exact Or.inl (by simp [gameReducer, INITIAL_STATE])
  | moveOptimistic id row col board =>
    unfold gameReducer
    dsimp only
    split
    · exact hs
    · exact hs
  | _ => exact hs

theorem reducer_keeps_waits {a : GameAction} (hs : Waits id g state) (hresumes : a.resumes g = false)
    (hanswer : a.isMoveAnswer = false) : Waits id g (gameReducer state a) := by
  rcases hs with hp | hoff
  · cases a with
    | roomJoined roomId fields => exact Or.inr (off_of_fields hresumes rfl rfl)
    | reconnectAck fields seq => exact Or.inr (off_of_fields hresumes rfl rfl)
    | gameStarted gameId board firstTurn players startedAt =>
      refine Or.inr (Or.inl fun h => ?_)
      obtain rfl := Option.some.inj h
      simp [GameAction.resumes] at hresumes
    | gameFinished => exact Or.inr (Or.inr (by simp [gameReducer]))
    | leaveRoom => exact Or.inr (Or.inl (by simp [gameReducer, INITIAL_STATE]))
    | moveAck | moveRejected => cases hanswer
    | moveOptimistic id' row col board =>
      -- A second move is ignored while one is pending.
      have hpending : state.pendingMove.isSome = true := by
        obtain ⟨p, hp, -⟩ := Option.map_eq_some_iff.mp hp
        rw [hp]
        rfl
      rw [gameReducer, if_pos hpending]
      exact Or.inl hp
    | _ => exact Or.inl hp
  · exact Or.inr (reducer_keeps_off hoff hresumes)

/-! ### Frames -/

/-- The action of a payload shows a game as running, or is an answer, only if the payload does. -/
theorem dispatches_of_part {payload : RoomPayload} (hreplay : payload.isReplay = false)
    (hresumes : resumes g payload = false) :
    Dispatches (fun a => a.resumes g = false ∧ (isMoveAnswer payload = false → a.isMoveAnswer = false)) payload := by
  intro roomId seq correlationId tab
  have hrunning : ∀ (symbol : PlayerSymbol) (rs : RoomStateSnapshot), rs.runs g = false →
      ((Tab.roomFields symbol rs).gameId = some g && (Tab.roomFields symbol rs).gameStatus = .active) = false := by
    intro symbol rs hrs
    cases hgame : rs.currentGame with
    | none => simp [Tab.roomFields, hgame]
    | some game =>
      rw [RoomStateSnapshot.runs, hgame] at hrs
      simpa [Tab.roomFields, hgame] using hrs
  cases payload with
  | stateSyncReplay => cases hreplay
  | roomJoined _ symbol roomState =>
    exact (Queues.updateClient tab _).trans (.dispatch _ ⟨hrunning symbol roomState hresumes, fun _ => rfl⟩)
  | gameStarted => exact (Queues.updateClient tab _).trans (.dispatch _ ⟨hresumes, fun _ => rfl⟩)
  | reconnectAck _ symbol roomState => exact .dispatch _ ⟨hrunning symbol roomState hresumes, fun _ => rfl⟩
  | stateSyncSnapshot roomState => exact .dispatch _ ⟨hrunning _ roomState hresumes, fun _ => rfl⟩
  | moveAck | moveRejected => exact .dispatch _ ⟨rfl, id⟩
  | roomLeft => exact .refl tab
  | _ => exact .dispatch _ ⟨rfl, fun _ => rfl⟩

/-- The actions of an input that leaves the moves of game `g` alone. -/
theorem callback_undisturbed (hresumes : ∀ payload ∈ i.parts, resumes g payload = false)
    (h : tab.callback uuid i = some tab') :
    Queues (fun a => a.resumes g = false ∧ ((∀ payload ∈ i.parts, isMoveAnswer payload = false) → a.isMoveAnswer = false))
      tab tab' := by
  refine callback_queues (fun _ => ⟨rfl, fun _ => rfl⟩) ⟨rfl, fun _ => rfl⟩ (fun event tab hi => ?_)
    (fun _ => ⟨rfl, fun _ => rfl⟩) (fun _ _ _ _ _ => ⟨rfl, fun _ => rfl⟩) h
  subst hi
  cases event with
  | authAck token playerId version existingRoom id =>
    cases existingRoom with
    | none => exact .dispatch _ ⟨rfl, fun _ => rfl⟩
    | some room =>
      change Queues _ tab ((tab.dispatch (.authAck token playerId (some room))).updateClient (·.setRoom (some room.roomId)))
      exact Queues.trans (.dispatch tab ⟨rfl, fun _ => rfl⟩) (.updateClient _ _)
  | pong | error => exact .refl _
  | room event =>
    refine dispatchRoomEvent_queues (fun _ => ⟨rfl, fun _ => rfl⟩) event tab fun payload hp hreplay => ?_
    intro roomId seq correlationId tab
    refine (dispatches_of_part hreplay (hresumes payload hp) roomId seq correlationId tab).mono ?_
    exact fun a ha => ⟨ha.1, fun hanswers => ha.2 (hanswers payload hp)⟩

/-- Whatever a move in flight waits for, an undisturbed input that does not answer it keeps. -/
theorem Waits.step (hs : Waits id g tab.state) (hempty : tab.queue = [])
    (hundisturbed : ∀ payload ∈ i.parts, resumes g payload = false ∧
      (tab.state.pendingMove.map PendingMove.commandId = some id → isMoveAnswer payload = false))
    (h : tab.step uuid i = some tab') : Waits id g tab'.state := by
  obtain ⟨u, hu, rfl⟩ := Option.map_eq_some_iff.mp h
  have hqueues := callback_undisturbed (fun payload hp => (hundisturbed payload hp).1) hu
  rcases hs with hp | hoff
  · have hcalm : ∀ payload ∈ i.parts, isMoveAnswer payload = false := fun payload hpart => (hundisturbed payload hpart).2 hp
    exact hqueues.render hempty (Or.inl hp) fun _ _ hs ha => reducer_keeps_waits hs ha.1 (ha.2 hcalm)
  · exact Or.inr (hqueues.render hempty hoff fun _ _ hs ha => reducer_keeps_off hs ha.1)

/-! ### Moves -/

theorem movesSince_of_sends (h : Sends (fun body => body.type ≠ .MAKE_MOVE) tab tab') : movesSince tab tab' = [] := by
  obtain ⟨messages, hsent, hm⟩ := h
  rw [movesSince, hsent, List.drop_left, List.filterMap_eq_nil_iff]
  intro m hmem
  have htype := hm m hmem
  unfold Message.move
  split
  · rename_i hbody
    rw [hbody] at htype
    exact absurd rfl htype
  · rfl

/-- Only a click sends a move. -/
theorem movesSince_of_step (h : tab.step uuid i = some tab') (hi : ∀ row col, i ≠ .makeMove row col) :
    movesSince tab tab' = [] := by
  refine movesSince_of_sends ((step_sends h).mono fun body hbody he => ?_)
  rw [he] at hbody
  cases i with
  | makeMove row col => exact hi row col rfl
  | _ => simp [TabInput.commandTypes] at hbody

/-- What a click has done: nothing, or the move is pending and at most sent. -/
structure Clicked (uuid : Nat → CommandId) (tab : Tab) (row col : JsNumber) (tab' : Tab) (g : GameId) : Prop where
  canMove : canMove tab.state = true
  gameId : tab.state.gameId = some g
  sent : movesSince tab tab' = [] ∨ movesSince tab tab' = [(uuid tab.nextId, g)]
  state : tab'.state = tab.state
  queue : ∃ board, tab'.queue = tab.queue ++ [.moveOptimistic (uuid tab.nextId) row col board]

theorem present_eq_some {x : Option String} {y : String} (h : present x = some y) : x = some y :=
  (Option.filter_eq_some_iff.mp h).1

theorem makeMove_cases (tab : Tab) (row col : JsNumber) :
    tab.makeMove uuid row col = tab ∨ ∃ g, Clicked uuid tab row col (tab.makeMove uuid row col) g := by
  unfold Tab.makeMove
  split
  · exact Or.inl rfl
  rename_i hcan
  unfold Tab.gameCommand Tab.roomCommand
  split
  swap
  · exact Or.inl rfl
  rename_i t r ht hr
  split
  swap
  · exact Or.inl rfl
  rename_i g hg
  split
  · exact Or.inl rfl
  split
  · exact Or.inl rfl
  refine Or.inr ⟨g, by simpa using hcan, present_eq_some hg, ?_, ?_, ?_⟩
  · unfold Tab.sendNew Tab.send
    split
    · exact Or.inr (by simp [movesSince, Tab.dispatch, Message.move])
    · exact Or.inl (by simp [movesSince, Tab.dispatch])
  · unfold Tab.sendNew Tab.send
    split <;> rfl
  · unfold Tab.sendNew Tab.send
    split
    · exact ⟨_, rfl⟩
    · exact ⟨_, rfl⟩

theorem pending_of_canMove (h : canMove state = true) : state.pendingMove = none ∧ state.gameStatus = .active := by
  simp only [canMove, Bool.and_eq_true, Option.isNone_iff_eq_none, decide_eq_true_eq] at h
  exact ⟨h.1.1.2, h.1.1.1.1⟩

/-- After a click that the check lets pass, the new move is pending. -/
theorem Clicked.pending {row col : JsNumber} {u : Tab} (h : Clicked uuid tab row col u g) (hempty : tab.queue = []) :
    Waits (uuid tab.nextId) g u.render.state := by
  obtain ⟨board, hqueue⟩ := h.queue
  refine Or.inl ?_
  rw [Tab.render, hqueue, hempty, h.state, List.nil_append, List.foldl_cons, List.foldl_nil, gameReducer,
    (pending_of_canMove h.canMove).1]
  rfl

/-! ### Runs -/

/-- The invariant: every move in flight is waited for, and no game has two of them. -/
structure OneInFlight (x : Tracked) : Prop where
  queue : x.1.queue = []
  waits : ∀ move ∈ x.2, Waits move.1 move.2 x.1.state
  single : ∀ g, (x.2.filter fun move => move.2 = g).length ≤ 1

theorem mem_unansweredAfter {flight : List (CommandId × GameId)} {move : CommandId × GameId}
    (h : move ∈ unansweredAfter i flight) : move ∈ flight ∧ i.answers move.1 = false := by
  unfold unansweredAfter at h
  split at h
  · simp at h
  · simpa using h

theorem unansweredAfter_single {flight : List (CommandId × GameId)}
    (h : (flight.filter fun move => move.2 = g).length ≤ 1) :
    ((unansweredAfter i flight).filter fun move => move.2 = g).length ≤ 1 := by
  unfold unansweredAfter
  split
  · simp
  · exact (List.Sublist.filter _ List.filter_sublist).length_le.trans h

theorem OneInFlight.step {x y : Tracked} (h : OneInFlight x) (hundisturbed : Undisturbed x i)
    (htracked : trackedStep uuid x i = some y) : OneInFlight y := by
  obtain ⟨tab', hstep, rfl⟩ := Option.map_eq_some_iff.mp htracked
  clear htracked
  have hold : ∀ move ∈ unansweredAfter i x.2, Waits move.1 move.2 tab'.state := by
    intro move hmem
    obtain ⟨hmove, hanswers⟩ := mem_unansweredAfter hmem
    exact (h.waits move hmove).step h.queue (hundisturbed move hmove hanswers) hstep
  have hkept (hnone : movesSince x.1 tab' = []) : OneInFlight (tab', unansweredAfter i x.2 ++ movesSince x.1 tab') := by
    rw [hnone, List.append_nil]
    exact ⟨step_queue hstep, hold, fun g => unansweredAfter_single (h.single g)⟩
  by_cases hclick : ∃ row col, i = .makeMove row col
  swap
  · exact hkept (movesSince_of_step hstep fun row col hi => hclick ⟨row, col, hi⟩)
  obtain ⟨row, col, rfl⟩ := hclick
  obtain ⟨u, hu, rfl⟩ := Option.map_eq_some_iff.mp hstep
  obtain rfl := Option.some.inj hu
  rcases makeMove_cases x.1 row col with hsame | ⟨g, hclicked⟩
  · exact hkept (movesSince_of_sends (.of_same (congrArg (fun t => t.render.sent) hsame)))
  rcases hclicked.sent with hnone | hsent
  · exact hkept hnone
  have hsent : movesSince x.1 (x.1.makeMove uuid row col).render = [(uuid x.1.nextId, g)] := hsent
  rw [hsent]
  -- The client can move, so that no move of the running game is in flight.
  have hfree : ∀ move ∈ x.2, move.2 ≠ g := by
    rintro move hmove rfl
    obtain ⟨hpending, hactive⟩ := pending_of_canMove hclicked.canMove
    rcases h.waits move hmove with hp | hgame | hstatus
    · rw [hpending] at hp
      cases hp
    · exact hgame hclicked.gameId
    · exact hstatus hactive
  have hfiltered : (unansweredAfter (.makeMove row col) x.2).filter (fun move => move.2 = g) = [] := by
    simp only [List.filter_eq_nil_iff, decide_eq_true_eq]
    exact fun move hmem => hfree move (mem_unansweredAfter hmem).1
  refine ⟨rfl, fun move hmem => ?_, fun g' => ?_⟩
  · rcases List.mem_append.mp hmem with hmem | hmem
    · exact hold move hmem
    · obtain rfl := List.mem_singleton.mp hmem
      exact hclicked.pending h.queue
  · rw [List.filter_append, List.length_append]
    by_cases hg : g = g'
    · subst hg
      rw [hfiltered]
      simp
    · have hsingle := unansweredAfter_single (i := .makeMove row col) (h.single g')
      simpa [hg] using hsingle

end Client

open Client
open Server (tally tallies fresh opening asks plays)

/-- As long as the moves in flight are left to their answers, a tab has at most one of them for each game on each of its
connections. -/
theorem one_move_in_flight {uuid : Nat → CommandId} {config : WsClientConfig} {now : Millis}
    {storedToken : Option SessionToken} {storedRoom : Option RoomId} {tab : Tab} {flight : List (CommandId × GameId)}
    (hrun : Transition.Runs (trackedStep uuid) Undisturbed (.load config now storedToken storedRoom, []) (tab, flight))
    (g : GameId) : (flight.filter fun move => move.2 = g).length ≤ 1 := by
  have hinv : OneInFlight (tab, flight) := hrun.invariant (P := OneInFlight)
    ⟨rfl, by simp, by simp⟩ fun _ _ _ hs hc hstep => hs.step hc hstep
  exact hinv.single g

/-- The check of `Undisturbed`. -/
def undisturbed (x : Tracked) (i : TabInput) : Bool :=
  x.2.all fun move => i.answers move.1 || i.parts.all fun payload => !resumes move.2 payload &&
    (x.1.state.pendingMove.map PendingMove.commandId ≠ some move.1 || !isMoveAnswer payload)

theorem undisturbed_of_check {x : Tracked} {i : TabInput} (h : undisturbed x i = true) : Undisturbed x i := by
  intro move hmove hanswers payload hp
  have hpart := List.all_eq_true.mp h move hmove
  rw [hanswers, Bool.false_or] at hpart
  have hboth := List.all_eq_true.mp hpart payload hp
  simp only [Bool.and_eq_true, Bool.not_eq_true', Bool.or_eq_true, decide_eq_true_eq] at hboth
  exact ⟨hboth.1, fun hpending => hboth.2.resolve_left fun hne => hne hpending⟩

/-- Player 1 makes the first move of the opening, and clicks once more before the answer. -/
theorem one_move_in_flight_opening : ∃ (s : Server) (tab : Tab) (flight : List (CommandId × GameId)),
    Server.Runs tallies (fun _ _ => True) fresh s ∧
    Transition.run (trackedStep (tally 'u')) undisturbed (.load .default 0 none none, [])
      ([.connect false, .opened] ++ heard (tally 'c' 0) s.wire ++
        [.makeMove (.ofNat 1) (.ofNat 1), .makeMove (.ofNat 0) (.ofNat 0)]) = some (tab, flight) ∧
    flight.length = 1 ∧ (flight.filter fun move => move.2 = tally 'g' 5).length ≤ 1 := by
  have hcheck : (Transition.run (Server.step tallies) (fun _ _ => true) fresh opening).any (fun s =>
      (Transition.run (trackedStep (tally 'u')) undisturbed (.load .default 0 none none, [])
        ([.connect false, .opened] ++ heard (tally 'c' 0) s.wire ++
          [.makeMove (.ofNat 1) (.ofNat 1), .makeMove (.ofNat 0) (.ofNat 0)])).any fun x => x.2.length = 1) = true := by
    decide +kernel
  obtain ⟨s, hrun, hs⟩ := Transition.exists_run (C := fun _ _ => True) (fun _ _ _ => trivial) hcheck
  obtain ⟨⟨tab, flight⟩, htracked, hlength⟩ := (Option.any_eq_true _ _).mp hs
  exact ⟨s, tab, flight, hrun, htracked, of_decide_eq_true hlength,
    one_move_in_flight (Transition.runs_of_run (fun _ _ => undisturbed_of_check) htracked) _⟩

/-- The message asks for all events of room 4. -/
def asksForAll (m : Message) : Bool :=
  match m.command.body with
  | .syncRequest roomId fromSeq => roomId = tally 'r' 4 && fromSeq = 1
  | _ => false

/-- The numbers of the other player's events are a gap for the tab of player 3, which asks for the events that it has
missed. Player 3 moves at once; the replay that answers the request is older than the move and clears it, and player 3
can move again before the first move has been answered. -/
theorem two_moves_in_flight : ∃ (s s' : Server) (tab : Tab) (flight : List (CommandId × GameId)),
    Server.Runs tallies (fun _ _ => True) fresh s ∧
    s.step tallies (asks 2 "sync3" (.syncRequest (tally 'r' 4) 1)) = some s' ∧
    Transition.run (trackedStep (tally 'u')) (fun _ _ => true) (.load .default 0 none none, [])
      ([.connect false, .opened] ++ heard (tally 'c' 2) s.wire ++ [.makeMove (.ofNat 1) (.ofNat 1)] ++
        heard (tally 'c' 2) (s'.wire.drop s.wire.length) ++ [.makeMove (.ofNat 2) (.ofNat 2)]) = some (tab, flight) ∧
    tab.sent.any asksForAll = true ∧ (flight.filter fun move => move.2 = tally 'g' 5).length = 2 := by
  have hcheck : (Transition.run (Server.step tallies) (fun _ _ => true) fresh (opening ++ [plays 0 "move1" 0 0])).any
      (fun s => (s.step tallies (asks 2 "sync3" (.syncRequest (tally 'r' 4) 1))).any fun s' =>
        (Transition.run (trackedStep (tally 'u')) (fun _ _ => true) (.load .default 0 none none, [])
          ([.connect false, .opened] ++ heard (tally 'c' 2) s.wire ++ [.makeMove (.ofNat 1) (.ofNat 1)] ++
            heard (tally 'c' 2) (s'.wire.drop s.wire.length) ++ [.makeMove (.ofNat 2) (.ofNat 2)])).any fun x =>
          x.1.sent.any asksForAll && (x.2.filter fun move => move.2 = tally 'g' 5).length = 2) = true := by
    decide +kernel
  obtain ⟨s, hrun, hs⟩ := Transition.exists_run (C := fun _ _ => True) (fun _ _ _ => trivial) hcheck
  obtain ⟨s', hstep, hs⟩ := (Option.any_eq_true _ _).mp hs
  obtain ⟨⟨tab, flight⟩, htracked, hs⟩ := (Option.any_eq_true _ _).mp hs
  obtain ⟨hasks, htwo⟩ := Bool.and_eq_true_iff.mp hs
  exact ⟨s, s', tab, flight, hrun, hstep, htracked, hasks, of_decide_eq_true htwo⟩

end TicTacToe
